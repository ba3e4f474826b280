/-
Declarations behind their comments.

A line that declares takes the comment that waits, and what it records is read only afterwards. Modules and
aggregates read one declaration from each such line, except from an accepted signature whose parameter list is
never closed: there the comment is gone, and nothing is recorded.
-/
import DocSite.Proofs.Comment.PrecedingRun
import DocSite.Proofs.Signature.Accepted

namespace DocSite

/-! ### One line -/

/-- A line is accepted as a signature, but its parameter list stays open. -/
def Text.IsOpenSignature (line : Text) : Prop :=
  isFunction line = true ∧ (codeOf (Text.trim line)).LeavesListOpen

/-- An accepted line is read unless its parameter list stays open. -/
theorem parseFunction?_eq_none_iff {line : Text} (accepted : isFunction line = true) (comments : List Text)
    (number : Int) :
    parseFunction? line comments number = none ↔ (codeOf (Text.trim line)).LeavesListOpen :=
  parseSignature?_eq_none_iff accepted comments number

/-- What is read from an accepted line, in a list, is one declaration or the line is open. -/
theorem singleton_or_isOpenSignature {Record : Type} {line : Text} (accepted : isFunction line = true)
    (comments : List Text) (number : Int) (record : FunctionDoc → Record) :
    (∃ declared, ((parseFunction? line comments number).map record).toList = [declared]) ∨
      ((parseFunction? line comments number).map record).toList = [] ∧ line.IsOpenSignature := by
  cases read : parseFunction? line comments number with
  | none => exact .inr ⟨rfl, accepted, (parseFunction?_eq_none_iff accepted comments number).mp read⟩
  | some declared => exact .inl ⟨record declared, rfl⟩

/-! ### Visits -/

/-- A visit that takes the waiting comment records one declaration, unless its line is a signature that stays
open. -/
def Visit.KeepsDeclaration {Record : Type} (visit : Visit Record) : Prop :=
  ∀ trailing, visit.event = .declares trailing →
    (∃ record, visit.records = [record]) ∨ visit.records = [] ∧ (codeOf visit.line.text).IsOpenSignature

theorem Visit.keepsDeclaration_of_comment {Record : Type} {visit : Visit Record}
    (comment : visit.event = .ofComment visit.line visit.behind) : visit.KeepsDeclaration := by
  intro trailing declares
  rw [comment] at declares
  exact absurd declares (CommentEvent.ofComment_ne_declares _ _ _)

/-- A named container is recorded. -/
theorem exists_entry_of_stepContainer {header : ContainerHeader} (named : header.name.isEmpty = false)
    (register : CommentRegister) (line : Line) (rest : List Line) :
    ∃ entry, (stepContainer header register line rest).entries = [entry] := by
  unfold stepContainer
  cases header.kind with
  | enum =>
      simp only [scanEnum, named, Bool.false_eq_true, if_false]
      exact ⟨_, rfl⟩
  | aggregate kind =>
      simp only [scanAggregate, named, Bool.false_eq_true, if_false]
      exact ⟨_, rfl⟩

theorem keepsDeclaration_stepCode (register : CommentRegister) (line : Line) (rest : List Line) :
    Visit.KeepsDeclaration ⟨line, rest, moduleEvent line, (stepCode register line rest).entries⟩ := by
  intro trailing declares
  dsimp only at declares ⊢
  unfold moduleEvent at declares
  unfold stepCode
  dsimp only at declares ⊢
  by_cases filler : isFiller (splitLineComment line.text).1 = true
  · rw [if_pos filler] at declares
    cases declares
  rw [if_neg filler] at declares ⊢
  cases named : moduleName? (splitLineComment line.text).1 with
  | some name => exact .inl ⟨_, rfl⟩
  | none =>
      rw [named] at declares
      dsimp only at declares ⊢
      by_cases imported : isImport (splitLineComment line.text).1 = true
      · rw [if_pos imported] at declares
        cases declares
      rw [if_neg imported] at declares ⊢
      cases headed : matchHeader? (splitLineComment line.text).1 with
      | some header =>
          rw [headed] at declares
          dsimp only at declares ⊢
          split_ifs at declares with anonymous
          exact .inl (exists_entry_of_stepContainer (Bool.eq_false_iff.mpr anonymous) register line rest)
      | none =>
          rw [headed] at declares
          dsimp only at declares ⊢
          split_ifs at declares ⊢ with skipped signature
          exact singleton_or_isOpenSignature signature _ _ _

theorem keepsDeclaration_moduleVisits (register : CommentRegister) (lines : List Line) :
    ∀ visit ∈ moduleVisits register lines, visit.KeepsDeclaration := by
  intro visit listed
  rcases moduleVisits_cases register lines visit listed with ⟨comment, _⟩ | ⟨event, reached, records⟩
  · exact Visit.keepsDeclaration_of_comment comment
  · intro trailing declares
    rw [records]
    rw [event] at declares
    exact keepsDeclaration_stepCode reached visit.line visit.behind trailing declares

/-- A line inside the body of an aggregate. -/
theorem keepsDeclaration_memberOfLine (before after : Int) (register : CommentRegister) (line : Line)
    (rest : List Line) :
    Visit.KeepsDeclaration ⟨line, rest, aggregateEvent before after line,
      (memberOfLine before after register (codeOf line.text) (splitLineComment line.text).2 line.number).1⟩ := by
  intro trailing declares
  dsimp only at declares ⊢
  unfold aggregateEvent at declares
  unfold memberOfLine codeOf
  dsimp only at declares ⊢
  split_ifs at declares ⊢ with filler header signature atDepth field
  · exact singleton_or_isOpenSignature signature _ _ _
  · exact .inl ⟨_, rfl⟩

theorem keepsDeclaration_aggregateVisits (first : Line) (rest : List Line) :
    ∀ visit ∈ aggregateVisits first rest, visit.toVisit.KeepsDeclaration := by
  intro visit listed
  rcases (pendingAggregateVisits_cases 0 (first :: rest) visit listed).2 with
    ⟨comment, _⟩ | ⟨event, reached, records⟩
  · exact Visit.keepsDeclaration_of_comment comment
  · intro trailing declares
    rw [records]
    rw [event] at declares
    exact keepsDeclaration_memberOfLine visit.before visit.after reached visit.line visit.behind trailing declares

/-! ### Whole sources -/

/-- An accepted line gives a function, except where its parameter list stays open. So the walk over a module and
the walks over its aggregates record one declaration for each line that takes a comment, except for these. -/
theorem declarations_kept (file : FilePath) (source : Text) :
    (∀ line, isFunction line = true → ∀ comments number,
      (parseFunction? line comments number = none ↔ (codeOf (Text.trim line)).LeavesListOpen)) ∧
      extractModule file source =
        .ofEntries file ((moduleVisits .empty (sourceLines source)).flatMap Visit.records) ∧
      ∀ visit ∈ moduleVisits .empty (sourceLines source), visit.KeepsDeclaration ∧
        ∀ aggregate, .aggregate aggregate ∈ visit.records →
          aggregate.RecordsLines visit.line visit.behind ∧
            ∀ inner ∈ aggregateVisits visit.line visit.behind, inner.toVisit.KeepsDeclaration := by
  refine ⟨fun line accepted => parseFunction?_eq_none_iff accepted, ?_, ?_⟩
  · unfold extractModule extractLines
    rw [moduleEntries_eq_records]
  · intro visit listed
    refine ⟨keepsDeclaration_moduleVisits .empty _ visit listed, ?_⟩
    intro aggregate recorded
    exact ⟨recordsLines_of_moduleVisits .empty _ visit listed aggregate recorded,
      keepsDeclaration_aggregateVisits visit.line visit.behind⟩

/-- Behind the argument of a linkage the list of an accepted line may be closed or open. -/
theorem declarations_kept_behind_linkage :
    ¬(codeOf (Text.trim "extern(C) int f(int x);".toList)).LeavesListOpen ∧
      (codeOf (Text.trim "extern(C) int f(int x".toList)).LeavesListOpen := by
  have lines := (declarations_kept anonymousFile []).1
  have closed := lines "extern(C) int f(int x);".toList (by decide +kernel) [] 0
  have open_ := lines "extern(C) int f(int x".toList (by decide +kernel) [] 0
  have read : parseFunction? "extern(C) int f(int x);".toList [] 0 ≠ none := by decide +kernel
  exact ⟨fun leaves => read (closed.mpr leaves), open_.mp (by decide +kernel)⟩

/-- The argument of a linkage is a pair of parentheses, which is enough to be accepted. The line takes its
comment and is not recorded. -/
theorem openSignature_unread :
    isFunction "extern(C) int f(int x".toList = true ∧
      parseFunction? "extern(C) int f(int x".toList [] 0 = none ∧
        (extractModule anonymousFile "/// Text.\nextern(C) int f(int x".toList).functions = [] := by
  decide +kernel

end DocSite
