/-
Comments that span lines.

A walk stands inside a comment when a block that an earlier line has opened is not closed yet. Then a scan of
comments that starts on the opening line goes past the place where the walk stands, so this can be told from
what the scans take off the lines.
-/
import DocSite.Proofs.Walk.Module
import Mathlib.Data.List.Induction

namespace DocSite

namespace CommentReader

def isOpen : CommentReader → Bool
  | .idle _ => false
  | .block _ _ => true
  | .nested _ _ _ => true

theorem eq_idle {reader : CommentReader} (closed : reader.isOpen = false) :
    reader = .idle reader.register := by
  cases reader with
  | idle register => rfl
  | block register paragraphs => cases closed
  | nested register depth paragraphs => cases closed

theorem readAll?_append (reader : CommentReader) (front rest : List Line) :
    reader.readAll? (front ++ rest) = (reader.readAll? front).bind fun next => next.readAll? rest := by
  induction front generalizing reader with
  | nil => rfl
  | cons line front ih =>
      rw [List.cons_append, readAll?, readAll?, Option.bind_assoc]
      congr 1
      funext next
      exact ih next

theorem readAll?_singleton (reader : CommentReader) (line : Line) :
    reader.readAll? [line] = reader.read? line.text := by
  rw [readAll?]
  cases reader.read? line.text <;> rfl

end CommentReader

/-! ### Readers of scans -/

def BodyState.reader? {Member : Type} : BodyState Member → Option CommentReader
  | .pending _ => none
  | .inside _ reader _ => some reader

/-- What reads the comments of the scan that a walk is in. Skipped bodies are read without. -/
def WalkMode.reader? : WalkMode → Option CommentReader
  | .module reader => some reader
  | .skipping _ _ _ _ => none
  | .aggregate _ _ state => state.reader?
  | .enum _ state => state.reader?

def BodyState.inComment {Member : Type} (state : BodyState Member) : Bool :=
  state.reader?.any CommentReader.isOpen

def BodyTurn.inComment {Member : Type} : BodyTurn Member → Bool
  | .goes state => state.inComment
  | .ends _ => false

def ModuleWalk.inComment (walk : ModuleWalk) : Bool :=
  walk.mode.reader?.any CommentReader.isOpen

/-! ### Code opens no comment -/

theorem pendingAggregateTurn_closed (balance : Int) (line : Line) :
    (pendingAggregateTurn balance line).inComment = false := by
  unfold pendingAggregateTurn
  dsimp only
  split_ifs <;> rfl

theorem enumTurn_closed (balance : Int) (closed : Bool)
    (found : List EnumMemberDoc × CommentRegister) :
    (enumTurn balance closed found).inComment = false := by
  cases closed <;> rfl

theorem enumHeaderTurn_closed (line : Line) : (enumHeaderTurn line).inComment = false := by
  unfold enumHeaderTurn
  dsimp only
  split_ifs
  · exact enumTurn_closed _ _ _
  · exact enumTurn_closed _ _ _
  · rfl
  · rfl

theorem pendingEnumTurn_closed (balance : Int) (line : Line) :
    (pendingEnumTurn balance line).inComment = false := by
  unfold pendingEnumTurn
  dsimp only
  split_ifs
  · exact enumTurn_closed _ _ _
  · rfl
  · rfl

namespace ModuleWalk

theorem inComment_inAggregate (recorded : List ModuleEntry) (kind : AggregateKind)
    (scope : ContainerScope) (turn : BodyTurn AggregateMember) :
    (inAggregate recorded kind scope turn).inComment = turn.inComment := by
  cases turn <;> rfl

theorem inComment_inEnum (recorded : List ModuleEntry) (scope : ContainerScope)
    (turn : BodyTurn EnumMemberDoc) : (inEnum recorded scope turn).inComment = turn.inComment := by
  cases turn <;> rfl

theorem skip_closed (recorded : List ModuleEntry) (register : CommentRegister) (balance : Int)
    (opened : Bool) : (skip recorded register balance opened).inComment = false := by
  unfold skip
  split_ifs <;> rfl

theorem skipFrom_closed (recorded : List ModuleEntry) (register : CommentRegister) (first : Line) :
    (skipFrom recorded register first).inComment = false := by
  unfold skipFrom
  split_ifs
  · rfl
  · exact skip_closed recorded register _ _

theorem code_closed (recorded : List ModuleEntry) (register : CommentRegister) (line : Line) :
    (code recorded register line).inComment = false := by
  unfold code
  dsimp only
  cases codeKind (splitLineComment line.text).1 with
  | plain => rfl
  | bodied => exact skipFrom_closed _ _ line
  | container header =>
      simp only [inContainer]
      cases header.kind with
      | enum =>
          simp only [inComment_inEnum]
          exact enumHeaderTurn_closed line
      | aggregate kind =>
          simp only [inComment_inAggregate]
          exact pendingAggregateTurn_closed 0 line

end ModuleWalk

/-! ### Lines of an open comment -/

/-- A line behind which a comment is open has been read as a part of it. -/
theorem BodyRules.step_inComment {Member : Type} {rules : BodyRules Member} {line : Line}
    (pending : ∀ balance, (rules.pending balance line).inComment = false) {state : BodyState Member}
    (inside : (rules.step state line).inComment = true) :
    ∃ balance members reader next, state = .inside balance reader members ∧
      reader.read? line.text = some next ∧
        rules.step state line = .goes (.inside balance next members) := by
  cases state with
  | pending balance =>
      rw [step, pending] at inside
      cases inside
  | inside balance reader members =>
      simp only [step] at inside ⊢
      cases reads : reader.read? line.text with
      | some next => exact ⟨balance, members, reader, next, rfl, reads, rfl⟩
      | none =>
          rw [reads] at inside
          simp only [stepInside] at inside
          rcases found : rules.inside balance reader.register line with ⟨more, _ | ⟨after, next⟩⟩
          · rw [found] at inside
            cases inside
          · rw [found] at inside
            cases inside

namespace ModuleWalk

theorem step_inComment {walk : ModuleWalk} {line : Line} (inside : (walk.step line).inComment = true) :
    ∃ reader next, walk.mode.reader? = some reader ∧ reader.read? line.text = some next ∧
      (walk.step line).mode.reader? = some next := by
  obtain ⟨recorded, mode⟩ := walk
  cases mode with
  | module reader =>
      cases reads : reader.read? line.text with
      | some next =>
          rw [step_read reads]
          exact ⟨reader, next, rfl, reads, rfl⟩
      | none =>
          rw [step_code reads, code_closed] at inside
          cases inside
  | skipping register balance opened unclosed =>
      simp only [step] at inside
      split_ifs at inside
      · cases inside
      · rw [skip_closed] at inside
        cases inside
  | aggregate kind scope state =>
      simp only [step, inComment_inAggregate] at inside ⊢
      obtain ⟨balance, members, reader, next, same, reads, goes⟩ :=
        BodyRules.step_inComment (fun balance => pendingAggregateTurn_closed balance line) inside
      rw [goes, same]
      exact ⟨reader, next, rfl, reads, rfl⟩
  | enum scope state =>
      simp only [step, inComment_inEnum] at inside ⊢
      obtain ⟨balance, members, reader, next, same, reads, goes⟩ :=
        BodyRules.step_inComment (fun balance => pendingEnumTurn_closed balance line) inside
      rw [goes, same]
      exact ⟨reader, next, rfl, reads, rfl⟩

/-- The line that has opened the comment in which a walk stands: a scan of comments stands on it, and the
comment is open behind every further line. -/
theorem exists_opener (lines : List Line) (inside : (start.read lines).inComment = true) :
    ∃ front opener further register, lines = front ++ opener :: further ∧
      (start.read front).mode.reader? = some (.idle register) ∧
        (CommentReader.idle register).readAll? (opener :: further) = (start.read lines).mode.reader? ∧
          ∀ early late, further = early ++ late → ∃ reader,
            (CommentReader.idle register).readAll? (opener :: early) = some reader ∧
              reader.isOpen = true := by
  -- The last line either goes on with a comment that was open in front of it or opens one itself.
  induction lines using List.reverseRecOn with
  | nil => cases inside
  | append_singleton lines line ih =>
      have last : start.read (lines ++ [line]) = (start.read lines).step line := read_append _ _ _
      rw [last] at inside ⊢
      obtain ⟨reader, next, before, reads, behind⟩ := step_inComment inside
      have isOpen : next.isOpen = true := by
        unfold inComment at inside
        rwa [behind] at inside
      by_cases already : (start.read lines).inComment = true
      · obtain ⟨front, opener, further, register, split, idle, readers, opens⟩ := ih already
        rw [before] at readers
        have whole : (CommentReader.idle register).readAll? (opener :: (further ++ [line])) =
            some next := by
          rw [← List.cons_append, CommentReader.readAll?_append, readers]
          exact (CommentReader.readAll?_singleton reader line).trans reads
        refine ⟨front, opener, further ++ [line], register, ?_, idle, ?_, ?_⟩
        · rw [split, List.append_assoc, List.cons_append]
        · rw [whole, behind]
        · intro early late parts
          rcases List.eq_nil_or_concat late with none | ⟨others, final, same⟩
          · rw [none, List.append_nil] at parts
            rw [← parts]
            exact ⟨next, whole, isOpen⟩
          · rw [same, List.concat_eq_append, ← List.append_assoc] at parts
            exact opens early others (List.append_inj_left' parts rfl)
      · have closed : reader.isOpen = false := by
          unfold inComment at already
          rw [before] at already
          exact Bool.eq_false_iff.mpr already
        have idle := CommentReader.eq_idle closed
        rw [idle] at before reads
        have whole : (CommentReader.idle reader.register).readAll? [line] = some next :=
          (CommentReader.readAll?_singleton _ line).trans reads
        refine ⟨lines, line, [], reader.register, rfl, before, whole.trans behind.symm, ?_⟩
        intro early late parts
        rw [(List.append_eq_nil_iff.mp parts.symm).1]
        exact ⟨next, whole, isOpen⟩

end ModuleWalk

/-! ### Comments taken off the lines -/

/-- A scan of comments that has come to the end of `front` takes a comment off the lines there and leaves
`remaining` behind it. -/
def TakesComment (lines front remaining : List Line) : Prop :=
  ∃ opener rest register next, lines = front ++ opener :: rest ∧
    (ModuleWalk.start.read front).mode.reader? = some (.idle register) ∧
      register.consume? opener rest = some (next, remaining)

/-- Where a walk stands inside a comment, a scan has taken a comment off the lines that goes further. -/
theorem exists_takesComment {before after : List Line}
    (inside : (ModuleWalk.start.read before).inComment = true) (further : after ≠ []) :
    ∃ front remaining, TakesComment (before ++ after) front remaining ∧
      front.length < before.length ∧ remaining.length < after.length := by
  obtain ⟨front, opener, others, register, split, idle, _, opens⟩ :=
    ModuleWalk.exists_opener before inside
  obtain ⟨reader, reads, _⟩ := opens [] others rfl
  rw [CommentReader.readAll?_singleton] at reads
  cases found : register.consume? opener (others ++ after) with
  | none =>
      rw [(CommentReader.read?_idle_eq_none_iff register opener (others ++ after)).mpr found] at reads
      cases reads
  | some turn =>
      obtain ⟨next, remaining⟩ := turn
      obtain ⟨back, last, parts, readsBack, ends⟩ := CommentReader.consume?_read found
      refine ⟨front, remaining, ⟨opener, others ++ after, register, next, ?_, idle, found⟩, ?_, ?_⟩
      · rw [split, List.append_assoc, List.cons_append]
      · rw [split, List.length_append, List.length_cons]
        omega
      · -- Otherwise the comment would end on a line behind which it is open.
        by_contra short
        have lengths := congrArg List.length parts
        simp only [List.length_append] at lengths
        obtain ⟨late, same⟩ : back <+: others := by
          have whole : back <+: others ++ after := ⟨remaining, parts.symm⟩
          exact List.prefix_of_prefix_length_le whole (List.prefix_append others after) (by omega)
        obtain ⟨reader, again, isOpen⟩ := opens back late same.symm
        rw [readsBack] at again
        cases again
        rcases ends with closed | atEnd
        · rw [closed] at isOpen
          cases isOpen
        · rw [atEnd, List.length_nil] at short
          exact short (List.length_pos_iff.mpr further)

/-- A line that the reader of comments takes belongs to a comment that a scan has taken off the lines. -/
theorem exists_takesComment_of_read? {before : List Line} {line : Line} {reader : CommentReader}
    (stands : (ModuleWalk.start.read before).mode.reader? = some reader)
    (reads : reader.read? line.text ≠ none) (after : List Line) :
    ∃ front remaining, TakesComment (before ++ line :: after) front remaining ∧
      front.length ≤ before.length ∧ remaining.length ≤ after.length := by
  by_cases inside : reader.isOpen = true
  · have inComment : (ModuleWalk.start.read before).inComment = true := by
      unfold ModuleWalk.inComment
      rwa [stands]
    obtain ⟨front, remaining, takes, starts, stops⟩ :=
      exists_takesComment inComment (List.cons_ne_nil line after)
    exact ⟨front, remaining, takes, Nat.le_of_lt starts, Nat.le_of_lt_succ stops⟩
  · have idle := CommentReader.eq_idle (Bool.eq_false_iff.mpr inside)
    rw [idle] at stands reads
    cases found : reader.register.consume? line after with
    | none => exact absurd ((CommentReader.read?_idle_eq_none_iff _ line after).mpr found) reads
    | some turn =>
        obtain ⟨next, remaining⟩ := turn
        refine ⟨before, remaining, ⟨line, after, reader.register, next, rfl, stands, found⟩, ?_, ?_⟩
        · exact Nat.le_refl _
        · exact CommentRegister.consume?_length_le found

end DocSite
