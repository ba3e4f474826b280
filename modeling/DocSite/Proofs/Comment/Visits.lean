/-
The lines that a loop visits.

The loop over a module and the loop over the body of an aggregate or an enum are followed line by line: each
visit keeps the line, what it means to the comments, and what it records. A loop is threaded when its
register is fed with the events of the visits and everything recorded has the comment that the register
hands out; then the history of the visits tells every comment.
-/
import DocSite.Proofs.Comment.Events
import DocSite.Proofs.Doc.Turns

namespace DocSite

structure Visit (Record : Type) where
  line : Line
  behind : List Line
  event : CommentEvent
  records : List Record

/-- A visit inside a body, with the balance of braces in front of the line and behind it. -/
structure BodyVisit (Record : Type) extends Visit Record where
  before : Int
  after : Int

/-- A filler with braces that move the balance, which stand on the line with nothing but semicolons and
blanks. -/
structure BodyVisit.IsBraceLine {Record : Type} (visit : BodyVisit Record) : Prop where
  filler : visit.event = .filler
  plain : isFiller (codeOf visit.line.text) = true
  moves : braceDelta (codeOf visit.line.text) ≠ 0

def Line.trailing? (line : Line) : Option Text :=
  CommentRegister.trailingComment? (splitLineComment line.text).2

theorem Line.ne_nil_of_trailing? {line : Line} {text : Text} (found : line.trailing? = some text) :
    text ≠ [] :=
  CommentRegister.ne_nil_of_trailingComment? found

section Threads

variable {Record : Type} (comments? : Record → Option (List Text))
  (own? : Record → Line → Option Text)

inductive Threaded : CommentRegister → List (Visit Record) → Prop where
  | nil (register : CommentRegister) : Threaded register []
  | cons {register : CommentRegister} {visit : Visit Record} {later : List (Visit Record)}
      (records : ∀ record ∈ visit.records, ∀ found, comments? record = some found →
        visit.event = .declares (own? record visit.line) ∧
          found = (register.handTo (own? record visit.line)).1)
      (filled : ∀ text, visit.event = .declares (some text) → text ≠ [])
      (further : Threaded (register.feed visit.event) later) :
      Threaded register (visit :: later)

def historyOf (visits : List (Visit Record)) : List CommentEvent :=
  (visits.map Visit.event).reverse

theorem historyOf_cons (visit : Visit Record) (later : List (Visit Record)) :
    historyOf (visit :: later) = historyOf later ++ [visit.event] := by
  unfold historyOf
  rw [List.map_cons, List.reverse_cons]

variable {comments? own?}

/-- The comment of everything that a threaded loop records is told by the history before it. -/
theorem Threaded.comments_eq_handed {history : List CommentEvent} {register : CommentRegister}
    {visits before after : List (Visit Record)} {visit : Visit Record}
    (threaded : Threaded comments? own? register visits)
    (remembers : register.Remembers history) (split : visits = before ++ visit :: after)
    {record : Record} (member : record ∈ visit.records) {found : List Text}
    (commented : comments? record = some found) :
    visit.event = .declares (own? record visit.line) ∧
      found = CommentEvent.handed (historyOf before ++ history) (own? record visit.line) := by
  induction threaded generalizing history before with
  | nil register => cases before <;> cases split
  | @cons register first later records filled further ih =>
      cases before with
      | nil =>
          cases split
          obtain ⟨event, handed⟩ := records record member found commented
          refine ⟨event, handed.trans (remembers.handTo_fst ?_)⟩
          intro text own
          exact filled text (by rw [event, Option.mem_def.mp own])
      | cons earlier before =>
          cases split
          have told := ih (remembers.feed filled) rfl
          rw [historyOf_cons, List.append_assoc]
          exact told

end Threads

/-! ### Bodies -/

/-- A line of code that does not close a body leaves its balance positive. -/
theorem positive_of_not_closesBody {before delta : Int} {code : Text} (positive : 1 ≤ before)
    (further : ¬closesBody (before + delta) delta code = true) : 1 ≤ before + delta := by
  unfold closesBody at further
  simp only [Bool.and_eq_true, Bool.or_eq_true, decide_eq_true_eq, not_and, not_or] at further
  by_cases low : before + delta ≤ 0
  · have rising := (further low).1
    omega
  · omega

theorem nonpositive_of_closesBody {balance delta : Int} {code : Text}
    (closes : closesBody balance delta code = true) : balance ≤ 0 := by
  unfold closesBody at closes
  rw [Bool.and_eq_true, decide_eq_true_eq] at closes
  exact closes.1

section Bodies

variable {Record : Type} (comments : Record → List Text) (fits : BodyVisit Record → Prop)

/-- The visits of a walk inside a body, which starts at a balance with a register. Only code changes the
balance, and everything recorded has the comment that the register hands out. -/
inductive Walked : Int → CommentRegister → List (BodyVisit Record) → Prop where
  | nil (balance : Int) (register : CommentRegister) : Walked balance register []
  | cons {balance : Int} {register : CommentRegister} {visit : BodyVisit Record}
      {later : List (BodyVisit Record)}
      (starts : visit.before = balance)
      (level : visit.event.brings = true → visit.after = balance)
      (fit : fits visit)
      (records : ∀ record ∈ visit.records, visit.event = .declares visit.line.trailing? ∧
        comments record = (register.handTo visit.line.trailing?).1)
      (filled : ∀ text, visit.event = .declares (some text) → text ≠ [])
      (further : Walked visit.after (register.feed visit.event) later) :
      Walked balance register (visit :: later)

variable {comments fits}

/-- A comment on the way through a body. -/
theorem Walked.consumed {balance : Int} {register next : CommentRegister} {line : Line}
    {rest remaining : List Line} {later : List (BodyVisit Record)}
    (consumed : register.consume? line rest = some (next, remaining))
    (fit : fits ⟨⟨line, rest, .ofComment line rest, []⟩, balance, balance⟩)
    (further : Walked comments fits balance next later) :
    Walked comments fits balance register
      (⟨⟨line, rest, .ofComment line rest, []⟩, balance, balance⟩ :: later) := by
  refine .cons rfl (fun _ => rfl) fit nofun ?_ ?_
  · intro text declares
    exact absurd declares (CommentEvent.ofComment_ne_declares line rest (some text))
  · rw [← CommentRegister.consume?_event consumed]
    exact further

theorem Walked.threaded {balance : Int} {register : CommentRegister}
    {visits : List (BodyVisit Record)} (walked : Walked comments fits balance register visits) :
    Threaded (fun record => some (comments record)) (fun _ line => line.trailing?) register
      (visits.map BodyVisit.toVisit) := by
  induction walked with
  | nil balance register => exact .nil register
  | cons starts level fit records filled further ih =>
      refine .cons ?_ filled ih
      intro record member found commented
      cases commented
      exact records record member

theorem Walked.fit {balance : Int} {register : CommentRegister}
    {visits : List (BodyVisit Record)} (walked : Walked comments fits balance register visits) :
    ∀ visit ∈ visits, fits visit := by
  induction walked with
  | nil balance register => exact nofun
  | cons starts level fit records filled further ih =>
      intro visit member
      rcases List.mem_cons.mp member with first | later
      · rw [first]
        exact fit
      · exact ih visit later

end Bodies
end DocSite
