/-
What no walk sees.

A walk reads of a line of code its code, its trailing documentation comment and its number, whatever scan it is
in. A line that has neither code nor a documentation comment leaves every walk where it is, unless the walk is
inside a comment that spans lines. So such lines may stand anywhere, and line comments behind any line of code.
-/
import DocSite.Proofs.Comment.Visits
import DocSite.Proofs.Source.Append
import DocSite.Proofs.Text.Lines
import DocSite.Proofs.Walk.OpenComment
import DocSite.Proofs.Walk.Renumbering

namespace DocSite

/-! ### Lines that read alike -/

/-- Two lines that differ in nothing that a walk reads of code. -/
structure Line.ReadsAs (line other : Line) : Prop where
  number : other.number = line.number
  code : codeOf other.text = codeOf line.text
  trailing : other.trailing? = line.trailing?

/-- Rules that take two lines alike. -/
structure BodyRules.TakesAlike {Member : Type} (rules : BodyRules Member) (line other : Line) :
    Prop where
  header : rules.header other = rules.header line
  pending : ∀ balance, rules.pending balance other = rules.pending balance line
  inside : ∀ balance register,
    rules.inside balance register other = rules.inside balance register line

theorem BodyRules.TakesAlike.step {Member : Type} {rules : BodyRules Member} {line other : Line}
    (alike : rules.TakesAlike line other) {state : BodyState Member}
    (readers : ∀ reader ∈ state.reader?, reader.read? other.text = reader.read? line.text) :
    rules.step state other = rules.step state line := by
  cases state with
  | pending balance => exact alike.pending balance
  | inside balance reader members =>
      have reads : reader.read? other.text = reader.read? line.text := readers reader rfl
      simp only [BodyRules.step, reads, BodyRules.stepInside, alike.inside]

namespace Line.ReadsAs

variable {line other : Line} (reads : line.ReadsAs other)

include reads

theorem attachWith (register : CommentRegister) :
    register.attachWith (splitLineComment other.text).2 =
      register.attachWith (splitLineComment line.text).2 := by
  rw [CommentRegister.attachWith_eq_handTo, CommentRegister.attachWith_eq_handTo]
  exact congrArg register.handTo reads.trailing

theorem splitCode : (splitLineComment other.text).1 = (splitLineComment line.text).1 :=
  reads.code

theorem delta : braceDelta other.text = braceDelta line.text := by
  rw [← braceDelta_codeOf other.text, reads.code, braceDelta_codeOf]

theorem opens : opensBrace other.text = opensBrace line.text := by
  rw [← opensBrace_codeOf other.text, reads.code, opensBrace_codeOf]

theorem ends : endsStatement other.text = endsStatement line.text := by
  unfold endsStatement
  rw [reads.code]

theorem aggregate_takesAlike : aggregateRules.TakesAlike line other := by
  have turn (balance : Int) : pendingAggregateTurn balance other = pendingAggregateTurn balance line := by
    simp only [pendingAggregateTurn, reads.code, reads.number]
  constructor
  · exact turn 0
  · exact turn
  · intro balance register
    simp only [aggregateRules, insideAggregate, memberOfLine, reads.splitCode, reads.number,
      reads.attachWith]

theorem enum_takesAlike : enumRules.TakesAlike line other := by
  constructor
  · simp only [enumRules, enumHeaderTurn, attachMembers, reads.splitCode, reads.number,
      reads.attachWith]
  · intro balance
    simp only [enumRules, pendingEnumTurn, membersOfLine, attachMembers, reads.splitCode,
      reads.number, reads.attachWith]
  · intro balance register
    simp only [enumRules, insideEnum, membersOfLine, attachMembers, reads.splitCode,
      reads.number, reads.attachWith]

theorem code_eq (recorded : List ModuleEntry) (register : CommentRegister) :
    ModuleWalk.code recorded register other = ModuleWalk.code recorded register line := by
  simp only [ModuleWalk.code, lineRecord, ModuleWalk.inContainer, ModuleWalk.skipFrom,
    reads.splitCode, reads.number, reads.attachWith, reads.delta, reads.opens, reads.ends,
    reads.aggregate_takesAlike.header, reads.enum_takesAlike.header]

/-- A walk takes one line as the other when neither belongs to a comment or both do alike. -/
theorem step_eq {walk : ModuleWalk}
    (readers : ∀ reader ∈ walk.mode.reader?, reader.read? other.text = reader.read? line.text) :
    walk.step other = walk.step line := by
  obtain ⟨recorded, mode⟩ := walk
  cases mode with
  | module reader =>
      have same : reader.read? other.text = reader.read? line.text := readers reader rfl
      simp only [ModuleWalk.step, same, reads.code_eq]
  | skipping register balance opened unclosed =>
      simp only [ModuleWalk.step, reads.delta, reads.opens, reads.ends]
  | aggregate kind scope state =>
      simp only [ModuleWalk.step, reads.aggregate_takesAlike.step readers]
  | enum scope state => simp only [ModuleWalk.step, reads.enum_takesAlike.step readers]

end Line.ReadsAs

/-! ### Lines without effect -/

/-- A line that has no code and that no scope takes for a comment. -/
structure Line.Unseen (line : Line) : Prop where
  code : codeOf line.text = []
  noComment : ∀ register, (CommentReader.idle register).read? line.text = none

/-- Rules by which a line leaves a walk over a container where it is. -/
structure BodyRules.Ignores {Member : Type} (rules : BodyRules Member) (line : Line) : Prop where
  pending : ∀ balance, rules.pending balance line = .goes (.pending balance)
  inside : ∀ balance register, rules.inside balance register line = ([], some (balance, register))

namespace Line.Unseen

variable {line : Line} (unseen : line.Unseen)

include unseen

theorem splitCode : (splitLineComment line.text).1 = [] := unseen.code

theorem delta : braceDelta line.text = 0 := by
  rw [← braceDelta_codeOf, unseen.code]
  rfl

theorem opens : opensBrace line.text = false := by
  rw [← opensBrace_codeOf, unseen.code]
  rfl

theorem aggregate_ignores : aggregateRules.Ignores line := by
  have delta : braceDelta [] = 0 := rfl
  have opens : opensBrace [] = false := rfl
  constructor
  · intro balance
    simp [aggregateRules, pendingAggregateTurn, unseen.code, delta, opens, Text.endsWith]
  · intro balance register
    simp [aggregateRules, insideAggregate, memberOfLine, unseen.splitCode, delta, closesBody,
      isFiller]

theorem enum_ignores : enumRules.Ignores line := by
  have delta : braceDelta [] = 0 := rfl
  have opens : opensBrace [] = false := rfl
  have segment : bodySegment [] false false = [] := rfl
  constructor
  · intro balance
    simp [enumRules, pendingEnumTurn, unseen.splitCode, delta, opens, Text.endsWith]
  · intro balance register
    simp [enumRules, insideEnum, membersOfLine, unseen.splitCode, delta, closesBody, segment,
      isIdleSegment]

theorem step_body {Member : Type} {rules : BodyRules Member} (ignores : rules.Ignores line)
    {state : BodyState Member} (between : state.inComment = false) :
    rules.step state line = .goes state := by
  cases state with
  | pending balance => exact ignores.pending balance
  | inside balance reader members =>
      have idle := CommentReader.eq_idle between
      rw [idle]
      simp only [BodyRules.step, unseen.noComment, BodyRules.stepInside, CommentReader.register,
        ignores.inside, List.append_nil]

theorem code_eq (recorded : List ModuleEntry) (register : CommentRegister) :
    ModuleWalk.code recorded register line = .between recorded register := by
  simp [ModuleWalk.code, lineRecord, codeKind, unseen.splitCode, isFiller]

/-- Between comments, such a line leaves a walk where it is. -/
theorem step_eq {walk : ModuleWalk} (between : walk.inComment = false) : walk.step line = walk := by
  obtain ⟨recorded, mode⟩ := walk
  cases mode with
  | module reader =>
      have idle := CommentReader.eq_idle between
      rw [idle]
      simp only [ModuleWalk.step, unseen.noComment]
      exact unseen.code_eq recorded reader.register
  | skipping register balance opened unclosed =>
      have goesOn : (!opened && endsStatement line.text) = false := by
        unfold endsStatement
        rw [unseen.code]
        exact Bool.and_false _
      simp only [ModuleWalk.step, goesOn, unseen.delta, unseen.opens, Int.add_zero, Bool.or_false]
      exact dif_pos unclosed
  | aggregate kind scope state =>
      simp only [ModuleWalk.step, unseen.step_body unseen.aggregate_ignores between]
      rfl
  | enum scope state =>
      simp only [ModuleWalk.step, unseen.step_body unseen.enum_ignores between]
      rfl

end Line.Unseen

/-! ### At the end of an open comment -/

theorem CommentReader.exists_read? {reader : CommentReader} (isOpen : reader.isOpen = true)
    (text : Text) : ∃ next, reader.read? text = some next := by
  cases reader with
  | idle register => cases isOpen
  | block register paragraphs => exact ⟨_, rfl⟩
  | nested register depth paragraphs => exact ⟨_, rfl⟩

theorem BodyRules.step_of_inComment {Member : Type} (rules : BodyRules Member)
    {state : BodyState Member} (inside : state.inComment = true) (line : Line) :
    ∃ next, rules.step state line = .goes next ∧ next.members = state.members := by
  cases state with
  | pending balance => cases inside
  | inside balance reader members =>
      obtain ⟨next, reads⟩ := CommentReader.exists_read? inside line.text
      exact ⟨.inside balance next members, by simp only [step, reads], rfl⟩

/-- A line inside a comment adds no entry by itself. -/
theorem ModuleWalk.entries_step_of_inComment {walk : ModuleWalk} (inside : walk.inComment = true)
    (line : Line) : (walk.step line).entries = walk.entries := by
  obtain ⟨recorded, mode⟩ := walk
  cases mode with
  | module reader =>
      obtain ⟨next, reads⟩ := CommentReader.exists_read? inside line.text
      rw [step_read reads]
      rfl
  | skipping register balance opened unclosed => cases inside
  | aggregate kind scope state =>
      obtain ⟨next, goes, same⟩ := aggregateRules.step_of_inComment inside line
      simp only [step, goes, inAggregate, entries, same]
  | enum scope state =>
      obtain ⟨next, goes, same⟩ := enumRules.step_of_inComment inside line
      simp only [step, goes, inEnum, entries, same]

/-! ### Texts of lines -/

/-- Blanks alone, or blanks and a line comment that is no documentation comment. -/
def IsUnseen (text : Text) : Prop :=
  ∃ indentation : Text, (∀ character ∈ indentation, isBlank character = true) ∧
    (text = indentation ∨
      ∃ comment : Text, comment.head? ≠ some '/' ∧ text = indentation ++ '/' :: '/' :: comment)

theorem IsUnseen.trim {text : Text} (unseen : IsUnseen text) :
    Text.trim text = [] ∨ ∃ comment : Text, comment.head? ≠ some '/' ∧
      Text.trim text = '/' :: '/' :: Text.trimRight comment := by
  obtain ⟨indentation, blank, none | ⟨comment, plain, same⟩⟩ := unseen
  · have dropped : Text.trimLeft indentation = [] := List.dropWhile_eq_nil_iff.mpr blank
    have trimmed : Text.trim indentation = Text.trimRight (Text.trimLeft indentation) := rfl
    rw [none, trimmed, dropped]
    exact .inl rfl
  · have dropped : Text.trimLeft text = '/' :: '/' :: comment := by
      rw [same]
      exact List.dropWhile_append_of_pos blank
    have trimmed : Text.trim text = Text.trimRight (Text.trimLeft text) := rfl
    rw [trimmed, dropped]
    exact .inr ⟨comment, plain, Text.trimRight_append_ink rfl ['/'] comment⟩

theorem IsUnseen.unseen {text : Text} (unseen : IsUnseen text) (number : Nat) :
    Line.Unseen ⟨number, Text.trim text⟩ := by
  rcases unseen.trim with none | ⟨comment, plain, same⟩
  · rw [none]
    exact ⟨rfl, fun register => rfl⟩
  · have style := commentStyle?_line_comment plain
    have ditto : isDitto ('/' :: '/' :: Text.trimRight comment) = false := by
      rw [← same] at style ⊢
      exact isDitto_eq_false (Text.trim_trim text) style
    rw [same]
    exact ⟨rfl, fun register => (CommentReader.read?_idle_iff register _).mpr ⟨ditto, style⟩⟩

/-- A line comment behind a line of code changes nothing that a walk reads. -/
theorem EndsInCode.readsAs {text : Text} (ends : EndsInCode text) {comment : Text}
    (plain : comment.head? ≠ some '/') (number : Nat) :
    Line.ReadsAs ⟨number, Text.trim text⟩
      ⟨number, Text.trim (text ++ ' ' :: '/' :: '/' :: comment)⟩ := by
  constructor
  · rfl
  · unfold codeOf
    rw [ends.splitLineComment_append, ends.splitLineComment_trim]
  · unfold Line.trailing?
    rw [ends.splitLineComment_append, ends.splitLineComment_trim]
    unfold CommentRegister.trailingComment?
    rw [if_neg (Text.head?_trimRight_ne plain), if_neg (by simp)]

theorem EndsInCode.read?_append {text : Text} (ends : EndsInCode text) {comment : Text}
    (plain : comment.head? ≠ some '/') {reader : CommentReader}
    (code : reader.read? (Text.trim text) = none) :
    reader.read? (Text.trim (text ++ ' ' :: '/' :: '/' :: comment)) = none := by
  have idle := CommentReader.eq_idle_of_read?_eq_none code
  rw [idle] at code ⊢
  obtain ⟨_, noComment⟩ := (CommentReader.read?_idle_iff _ _).mp code
  have style := ends.commentStyle?_append plain noComment
  exact (CommentReader.read?_idle_iff _ _).mpr ⟨isDitto_eq_false (Text.trim_trim _) style, style⟩

/-! ### Modules -/

/-- The walk over the first lines of a source does not know where a line is put in behind them. -/
theorem read_renumber_inserted (texts : List Text) :
    (ModuleWalk.start.read (numberedLines 1 texts)).renumber (.inserted texts.length) =
      ModuleWalk.start.read (numberedLines 1 texts) := by
  rw [← ModuleWalk.read_renumber, numberedLines_before texts.length 1 texts (by omega)]
  rfl

/-- A line that no walk sees may be put in wherever no documentation comment goes on. -/
theorem entries_insert {text : Text} (unseen : IsUnseen text) {before after : List Text}
    (between : ∀ front remaining, TakesComment (numberedLines 1 (before ++ after)) front remaining →
      before.length ≤ front.length ∨ after.length ≤ remaining.length) :
    moduleEntries .empty (numberedLines 1 (before ++ text :: after)) =
      (moduleEntries .empty (numberedLines 1 (before ++ after))).map
        (ModuleEntry.renumber (Renumbering.inserted before.length).document) := by
  have fixed := read_renumber_inserted before
  have hidden := unseen.unseen (1 + before.length)
  rw [numberedLines_append] at between
  rw [ModuleWalk.moduleEntries_eq_read, ModuleWalk.moduleEntries_eq_read, numberedLines_append,
    numberedLines_append, numberedLines, ModuleWalk.read_append, ModuleWalk.read_append,
    ModuleWalk.read_cons, ← ModuleWalk.entries_renumber, ← ModuleWalk.read_renumber, fixed,
    numberedLines_behind before.length (1 + before.length) after (by omega)]
  by_cases inside : (ModuleWalk.start.read (numberedLines 1 before)).inComment = true
  · by_cases ends : after = []
    · rw [ends]
      exact ModuleWalk.entries_step_of_inComment inside _
    · have further : numberedLines (1 + before.length) after ≠ [] := by
        intro none
        have lengths := congrArg List.length none
        rw [length_numberedLines] at lengths
        exact ends (List.length_eq_zero_iff.mp lengths)
      obtain ⟨front, remaining, takes, starts, stops⟩ := exists_takesComment inside further
      rw [length_numberedLines] at starts stops
      rcases between front remaining takes with late | early
      · omega
      · omega
  · rw [hidden.step_eq (Bool.eq_false_iff.mpr inside)]

/-- A line comment may be put behind a line of code. -/
theorem entries_append_comment {text comment : Text} (ends : EndsInCode text)
    (plain : comment.head? ≠ some '/') {before after : List Text}
    (code : ∀ front remaining,
      TakesComment (numberedLines 1 (before ++ text :: after)) front remaining →
        before.length < front.length ∨ after.length < remaining.length) :
    moduleEntries .empty
        (numberedLines 1 (before ++ (text ++ ' ' :: '/' :: '/' :: comment) :: after)) =
      moduleEntries .empty (numberedLines 1 (before ++ text :: after)) := by
  have alike := ends.readsAs plain (1 + before.length)
  rw [numberedLines_append, numberedLines] at code
  rw [ModuleWalk.moduleEntries_eq_read, ModuleWalk.moduleEntries_eq_read, numberedLines_append,
    numberedLines_append, numberedLines, numberedLines, ModuleWalk.read_append,
    ModuleWalk.read_append, ModuleWalk.read_cons, ModuleWalk.read_cons]
  rw [alike.step_eq]
  intro reader stands
  have isCode : reader.read? (Text.trim text) = none := by
    by_contra reads
    let line : Line := ⟨1 + before.length, Text.trim text⟩
    have taken : reader.read? line.text ≠ none := reads
    obtain ⟨front, remaining, takes, starts, stops⟩ :=
      exists_takesComment_of_read? stands taken (numberedLines (1 + before.length + 1) after)
    rw [length_numberedLines] at starts stops
    rcases code front remaining takes with late | early
    · omega
    · omega
  exact (ends.read?_append plain isCode).trans isCode.symm

/-- Blank lines and line comments that are no documentation comments are invisible. -/
theorem extractLines_invisible (file : FilePath) (before after : List Text) :
    (∀ text, IsUnseen text →
      (∀ front remaining, TakesComment (numberedLines 1 (before ++ after)) front remaining →
        before.length ≤ front.length ∨ after.length ≤ remaining.length) →
      extractLines file (numberedLines 1 (before ++ text :: after)) =
        (extractLines file (numberedLines 1 (before ++ after))).renumber
          (Renumbering.inserted before.length).document) ∧
    ∀ text comment : Text, EndsInCode text → comment.head? ≠ some '/' →
      (∀ front remaining,
        TakesComment (numberedLines 1 (before ++ text :: after)) front remaining →
          before.length < front.length ∨ after.length < remaining.length) →
      extractLines file
          (numberedLines 1 (before ++ (text ++ ' ' :: '/' :: '/' :: comment) :: after)) =
        extractLines file (numberedLines 1 (before ++ text :: after)) := by
  constructor
  · intro text unseen between
    unfold extractLines
    rw [entries_insert unseen between, ofEntries_renumber]
  · intro text comment ends plain code
    unfold extractLines
    rw [entries_append_comment ends plain code]

theorem extractLines_invisible_behind_comment :
    let before : List Text := ["/// One.".toList]
    let opening : Text := "void f() \x7b".toList
    let behind : List Text := ["\x7d".toList]
    extractLines anonymousFile
        (numberedLines 1 (before ++ "  // two".toList :: opening :: behind)) =
      (extractLines anonymousFile (numberedLines 1 (before ++ opening :: behind))).renumber
        (Renumbering.inserted 1).document ∧
    extractLines anonymousFile
        (numberedLines 1 (before ++ (opening ++ " // two".toList) :: behind)) =
      extractLines anonymousFile (numberedLines 1 (before ++ opening :: behind)) := by
  intro before opening behind
  have spans : ∀ front remaining,
      TakesComment (numberedLines 1 (before ++ opening :: behind)) front remaining →
        2 ≤ front.length ∨ 2 ≤ remaining.length := by
    rintro front remaining ⟨opener, rest, register, next, split, stands, consumed⟩
    rcases front with _ | ⟨first, _ | ⟨second, further⟩⟩
    · cases split
      cases Option.some.inj stands
      have taken : CommentRegister.consume? .empty ⟨1, "/// One.".toList⟩
          (numberedLines 2 (opening :: behind)) =
            some (⟨["One.".toList], []⟩, numberedLines 2 (opening :: behind)) := by
        decide +kernel
      cases taken.symm.trans consumed
      exact .inr (Nat.le_refl 2)
    · cases split
      have code : (CommentReader.idle register).read? (Text.trim opening) = none :=
        (CommentReader.read?_idle_iff register _).mpr (by decide +kernel)
      have ignored := (CommentReader.read?_idle_eq_none_iff register ⟨2, Text.trim opening⟩
        (numberedLines 3 behind)).mp code
      cases ignored.symm.trans consumed
    · exact .inl (Nat.le_add_left 2 further.length)
  constructor
  · apply (extractLines_invisible anonymousFile before (opening :: behind)).1 "  // two".toList
    · exact ⟨"  ".toList, List.all_eq_true.mp rfl, .inr ⟨" two".toList, by decide, rfl⟩⟩
    · intro front remaining takes
      have ends := spans front remaining takes
      simp only [before, behind, List.length_cons, List.length_nil]
      omega
  · apply (extractLines_invisible anonymousFile before behind).2 opening " two".toList
    · exact ⟨by decide +kernel, by decide +kernel, by decide +kernel⟩
    · decide
    · intro front remaining takes
      have ends := spans front remaining takes
      simp only [before, behind, List.length_cons, List.length_nil]
      omega

end DocSite
