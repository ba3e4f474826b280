/-
What the lines of a scope mean to its comments.

Each line that a scan visits is an event for the register of its scope. The comment of a declaration is
said here from the events before it alone: the longest run of comments, repetition markers and fillers is
replayed from an empty buffer, a marker stands for the last comment that was handed out, and nothing before
the run counts otherwise. The main lemma says that the register, fed with the events one by one, holds
exactly that.
-/
import DocSite.Comment.Register
import Mathlib.Data.List.Induction

namespace DocSite

inductive CommentEvent where
  /-- A single-line comment. -/
  | prose (paragraphs : List Text)
  /-- A block or nesting comment. -/
  | block (paragraphs : List Text)
  | ditto
  | filler
  /-- A line inside a value that spans lines. -/
  | inValue
  /-- A declaration, with the trailing comment that it may take. -/
  | declares (trailing : Option Text)
  /-- Any other code. -/
  | code
  /-- The header of a nested type. -/
  | header
  deriving DecidableEq, Repr

namespace CommentEvent

def ofComment (first : Line) (rest : List Line) : CommentEvent :=
  if isDitto first.text then .ditto
  else
    match commentStyle? first.text with
    | none => .filler
    | some .line => .prose (extractStyled .line first rest).1
    | some style => .block (extractStyled style first rest).1

def paragraphs : CommentEvent → List Text
  | .prose paragraphs => paragraphs
  | .block paragraphs => paragraphs
  | _ => []

/-- Whether a line leaves a waiting comment in place. -/
def keeps : CommentEvent → Bool
  | .declares _ => false
  | .code => false
  | .header => false
  | _ => true

def brings : CommentEvent → Bool
  | .prose _ => true
  | .block _ => true
  | .ditto => true
  | _ => false

def replayOne (last buffer : List Text) : CommentEvent → List Text
  | .prose paragraphs => buffer ++ paragraphs
  | .block paragraphs => paragraphs
  | .ditto => last
  | _ => buffer

def replay (last : List Text) (run : List CommentEvent) : List Text :=
  run.foldl (replayOne last) []

/-- The longest run of events that end a history and keep what waits. A history has the most recent event in
front. -/
def runOf (history : List CommentEvent) : List CommentEvent :=
  (history.takeWhile keeps).reverse

/-- What a declaration takes: the buffer without empty lines at its ends, or else a trailing comment. -/
def taken (buffer : List Text) (trailing : Option Text) : List Text :=
  if (trimEmptyLines buffer).isEmpty then trailing.toList else trimEmptyLines buffer

/-- The last comment in a history that is not empty and was handed to a declaration. The header of a nested
type lets it be forgotten. -/
def lastHanded : List CommentEvent → List Text
  | [] => []
  | .declares trailing :: earlier =>
      let comments := taken (replay (lastHanded earlier) (runOf earlier)) trailing
      if comments.isEmpty then lastHanded earlier else comments
  | .header :: _ => []
  | _ :: earlier => lastHanded earlier

def handed (history : List CommentEvent) (trailing : Option Text) : List Text :=
  taken (replay (lastHanded history) (runOf history)) trailing

theorem ofComment_ne_inValue (first : Line) (rest : List Line) : ofComment first rest ≠ .inValue := by
  unfold ofComment
  split
  · exact nofun
  · split <;> exact nofun

theorem ofComment_ne_declares (first : Line) (rest : List Line) (trailing : Option Text) :
    ofComment first rest ≠ .declares trailing := by
  unfold ofComment
  split
  · exact nofun
  · split <;> exact nofun

theorem lastHanded_cons_of_keeps {event : CommentEvent} (history : List CommentEvent)
    (keepsIt : event.keeps = true) : lastHanded (event :: history) = lastHanded history := by
  cases event <;> first | rfl | cases keepsIt

theorem runOf_cons_of_keeps {event : CommentEvent} (history : List CommentEvent)
    (keepsIt : event.keeps = true) : runOf (event :: history) = runOf history ++ [event] := by
  unfold runOf
  rw [List.takeWhile_cons_of_pos keepsIt, List.reverse_cons]

theorem runOf_cons_of_drops {event : CommentEvent} (history : List CommentEvent)
    (drops : event.keeps = false) : runOf (event :: history) = [] := by
  unfold runOf
  rw [List.takeWhile_cons_of_neg (by rw [drops]; exact Bool.false_ne_true)]
  rfl

theorem replay_append (last : List Text) (run : List CommentEvent) (event : CommentEvent) :
    replay last (run ++ [event]) = replayOne last (replay last run) event := by
  unfold replay
  rw [List.foldl_append]
  rfl

/-- Without a repetition marker a run brings nothing from before it. -/
theorem replay_eq_of_no_ditto {run : List CommentEvent} (noDitto : .ditto ∉ run)
    (last other : List Text) : replay last run = replay other run := by
  induction run using List.reverseRecOn with
  | nil => rfl
  | append_singleton run event ih =>
      rw [List.mem_append, not_or] at noDitto
      rw [replay_append, replay_append, ih noDitto.1]
      cases event with
      | ditto => exact absurd (List.mem_singleton.mpr rfl) noDitto.2
      | _ => rfl

theorem runOf_append_of_drops {barrier : CommentEvent} (later earlier : List CommentEvent)
    (drops : barrier.keeps = false) : runOf (later ++ barrier :: earlier) = runOf later := by
  induction later with
  | nil => exact runOf_cons_of_drops earlier drops
  | cons event later ih =>
      rw [List.cons_append]
      cases keepsIt : event.keeps with
      | true => rw [runOf_cons_of_keeps _ keepsIt, runOf_cons_of_keeps _ keepsIt, ih]
      | false => rw [runOf_cons_of_drops _ keepsIt, runOf_cons_of_drops _ keepsIt]

/-- Nothing drifts past a line that drops what waits. -/
theorem handed_append_of_drops {barrier : CommentEvent} {later : List CommentEvent}
    (earlier : List CommentEvent) (drops : barrier.keeps = false) (noDitto : .ditto ∉ later)
    (trailing : Option Text) :
    handed (later ++ barrier :: earlier) trailing = handed later trailing := by
  have plain : .ditto ∉ runOf later := by
    intro member
    exact noDitto ((List.takeWhile_sublist keeps).mem (List.mem_reverse.mp member))
  unfold handed
  rw [runOf_append_of_drops later earlier drops, replay_eq_of_no_ditto plain _ (lastHanded later)]

end CommentEvent

namespace CommentRegister

def handTo (register : CommentRegister) (trailing : Option Text) : List Text × CommentRegister :=
  match register.pending.isEmpty, trailing with
  | true, some text => (register.beginBlock [text]).attach
  | _, _ => register.attach

def feed (register : CommentRegister) : CommentEvent → CommentRegister
  | .prose paragraphs => register.extend paragraphs
  | .block paragraphs => register.beginBlock paragraphs
  | .ditto => register.ditto
  | .filler => register
  | .inValue => register
  | .declares trailing => (register.handTo trailing).2
  | .code => register.discard
  | .header => .empty

theorem attachWith_eq_handTo (register : CommentRegister) (trailing : Text) :
    register.attachWith trailing = register.handTo (trailingComment? trailing) := by
  unfold attachWith handTo
  cases register.pending.isEmpty <;> cases trailingComment? trailing <;> rfl

theorem attach_eq_handTo (register : CommentRegister) : register.attach = register.handTo none := by
  unfold handTo
  cases register.pending.isEmpty <;> rfl

/-- A trailing comment is a line of prose that is not empty. -/
theorem ne_nil_of_trailingComment? {trailing text : Text}
    (found : trailingComment? trailing = some text) : text ≠ [] := by
  unfold trailingComment? at found
  split at found
  · dsimp only at found
    split at found
    · cases found
    · rename_i filled
      cases found
      intro empty
      rw [empty] at filled
      exact filled rfl
  · cases found

theorem consume?_event {register next : CommentRegister} {first : Line} {rest remaining : List Line}
    (consumed : register.consume? first rest = some (next, remaining)) :
    next = register.feed (.ofComment first rest) := by
  unfold consume? at consumed
  unfold CommentEvent.ofComment
  split at consumed
  · rename_i ditto
    rw [if_pos ditto]
    cases consumed
    rfl
  · rename_i notDitto
    rw [if_neg notDitto]
    cases style : commentStyle? first.text with
    | none =>
        rw [style] at consumed
        cases consumed
    | some found =>
        rw [style] at consumed
        cases found <;> cases consumed <;> rfl

/-! ### The register remembers the history -/

/-- A register that holds what its scope's history leaves. -/
structure Remembers (register : CommentRegister) (history : List CommentEvent) : Prop where
  last : register.last = CommentEvent.lastHanded history
  collected : register.collected =
    CommentEvent.replay (CommentEvent.lastHanded history) (CommentEvent.runOf history)

theorem remembers_empty : Remembers .empty [] := ⟨rfl, rfl⟩

/-- What is handed out is told by the history. -/
theorem Remembers.handTo_fst {history : List CommentEvent} {register : CommentRegister}
    (remembers : Remembers register history) {trailing : Option Text}
    (filled : ∀ text ∈ trailing, text ≠ []) :
    (register.handTo trailing).1 = CommentEvent.handed history trailing := by
  have waiting : register.pending = trimEmptyLines
      (CommentEvent.replay (CommentEvent.lastHanded history) (CommentEvent.runOf history)) := by
    unfold pending
    rw [remembers.collected]
  unfold handTo CommentEvent.handed CommentEvent.taken
  rw [← waiting]
  cases empty : register.pending.isEmpty with
  | false => rfl
  | true =>
      cases trailing with
      | none => exact List.isEmpty_iff.mp empty
      | some text =>
          have ink := filled text rfl
          cases text with
          | nil => exact absurd rfl ink
          | cons character rest => rfl

theorem Remembers.handTo_snd {history : List CommentEvent} {register : CommentRegister}
    (remembers : Remembers register history) {trailing : Option Text}
    (filled : ∀ text ∈ trailing, text ≠ []) :
    Remembers (register.handTo trailing).2 (.declares trailing :: history) := by
  have handed := remembers.handTo_fst filled
  have after : (register.handTo trailing).2 =
      ⟨[], if (register.handTo trailing).1.isEmpty then register.last
        else (register.handTo trailing).1⟩ := by
    unfold handTo
    cases register.pending.isEmpty <;> cases trailing <;> rfl
  rw [after, handed, remembers.last]
  exact ⟨rfl, by rw [CommentEvent.runOf_cons_of_drops history rfl]; rfl⟩

/-- One more event on both sides keeps them in step. -/
theorem Remembers.feed {history : List CommentEvent} {register : CommentRegister}
    (remembers : Remembers register history) {event : CommentEvent}
    (filled : ∀ text, event = .declares (some text) → text ≠ []) :
    Remembers (register.feed event) (event :: history) := by
  obtain ⟨last, collected⟩ := remembers
  have kept (keepsIt : event.keeps = true) (after : CommentRegister)
      (sameLast : after.last = register.last)
      (replayed : after.collected = CommentEvent.replayOne register.last register.collected event) :
      Remembers after (event :: history) := by
    refine ⟨?_, ?_⟩
    · rw [sameLast, last, CommentEvent.lastHanded_cons_of_keeps history keepsIt]
    · rw [replayed, last, collected, CommentEvent.lastHanded_cons_of_keeps history keepsIt,
        CommentEvent.runOf_cons_of_keeps history keepsIt, CommentEvent.replay_append]
  cases event with
  | prose paragraphs => exact kept rfl _ rfl rfl
  | block paragraphs => exact kept rfl _ rfl rfl
  | ditto => exact kept rfl _ rfl rfl
  | filler => exact kept rfl _ rfl rfl
  | inValue => exact kept rfl _ rfl rfl
  | declares trailing =>
      apply Remembers.handTo_snd ⟨last, collected⟩
      intro text member
      cases member
      exact filled text rfl
  | code => exact ⟨last, by rw [CommentEvent.runOf_cons_of_drops history rfl]; rfl⟩
  | header => exact ⟨rfl, by rw [CommentEvent.runOf_cons_of_drops history rfl]; rfl⟩

end CommentRegister
end DocSite
