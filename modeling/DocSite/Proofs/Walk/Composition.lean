/-
Lines behind other lines.

Between two declarations a module keeps only its register of comments. When nothing waits there and no
repetition marker follows, what the register remembers is never read again, so the lines that follow are
documented as a source of their own whose numbers begin later.
-/
import DocSite.Proofs.Comment.ModuleVisits
import DocSite.Proofs.Text.Lines
import DocSite.Proofs.Walk.Renumbering

namespace DocSite

/-! ### Registers with the same waiting comment -/

namespace CommentRegister

/-- The same comment waits, and it stays the same when prose is added on both sides. The last comment that was
taken may differ. -/
def WaitsAlike (left right : CommentRegister) : Prop :=
  left.collected.dropWhile List.isEmpty = right.collected.dropWhile List.isEmpty

variable {left right : CommentRegister}

theorem waitsAlike_of_collected (same : left.collected = right.collected) : left.WaitsAlike right :=
  congrArg (List.dropWhile List.isEmpty) same

theorem WaitsAlike.pending (alike : left.WaitsAlike right) : left.pending = right.pending := by
  unfold CommentRegister.pending trimEmptyLines
  rw [alike]

theorem WaitsAlike.extend (alike : left.WaitsAlike right) (paragraphs : List Text) :
    (left.extend paragraphs).WaitsAlike (right.extend paragraphs) := by
  unfold WaitsAlike CommentRegister.extend
  rw [List.dropWhile_append, List.dropWhile_append, alike]

theorem waitsAlike_empty (nothing : left.pending = []) : left.WaitsAlike .empty := by
  have blank : ∀ paragraph ∈ left.collected.dropWhile List.isEmpty, paragraph.isEmpty = true := by
    intro paragraph member
    have dropped := List.reverse_eq_nil_iff.mp nothing
    exact List.dropWhile_eq_nil_iff.mp dropped paragraph (List.mem_reverse.mpr member)
  have again : (left.collected.dropWhile List.isEmpty).dropWhile List.isEmpty = [] :=
    List.dropWhile_eq_nil_iff.mpr blank
  rwa [List.dropWhile_idempotent] at again

theorem attachWith_collected (register : CommentRegister) (trailing : Text) :
    (register.attachWith trailing).2.collected = [] := by
  rw [attachWith_eq_handTo]
  unfold handTo
  cases register.pending.isEmpty <;> cases trailingComment? trailing <;> rfl

theorem WaitsAlike.attachWith_fst (alike : left.WaitsAlike right) (trailing : Text) :
    (left.attachWith trailing).1 = (right.attachWith trailing).1 := by
  rw [attachWith_eq_handTo, attachWith_eq_handTo]
  unfold handTo
  rw [alike.pending]
  cases right.pending.isEmpty with
  | false => exact alike.pending
  | true =>
      cases trailingComment? trailing with
      | none => exact alike.pending
      | some text => rfl

theorem WaitsAlike.attachWith_snd (left right : CommentRegister) (trailing : Text) :
    (left.attachWith trailing).2.WaitsAlike (right.attachWith trailing).2 :=
  waitsAlike_of_collected
    ((attachWith_collected left trailing).trans (attachWith_collected right trailing).symm)

/-- A comment that is no repetition marker is consumed alike. -/
theorem WaitsAlike.consume? (alike : left.WaitsAlike right) {line : Line} {rest remaining : List Line}
    {next : CommentRegister} (noDitto : isDitto line.text = false)
    (consumed : left.consume? line rest = some (next, remaining)) :
    ∃ other, right.consume? line rest = some (other, remaining) ∧ next.WaitsAlike other := by
  unfold CommentRegister.consume? at consumed ⊢
  simp only [noDitto, Bool.false_eq_true, if_false] at consumed ⊢
  cases style : commentStyle? line.text with
  | none =>
      rw [style] at consumed
      cases consumed
  | some found =>
      rw [style] at consumed
      cases found with
      | line =>
          cases consumed
          exact ⟨_, rfl, alike.extend _⟩
      | block =>
          cases consumed
          exact ⟨_, rfl, rfl⟩
      | nested =>
          cases consumed
          exact ⟨_, rfl, rfl⟩

theorem consume?_eq_none_iff (left right : CommentRegister) (line : Line) (rest : List Line) :
    left.consume? line rest = none ↔ right.consume? line rest = none := by
  rw [← CommentReader.read?_idle_eq_none_iff, ← CommentReader.read?_idle_eq_none_iff,
    CommentReader.read?_idle_iff, CommentReader.read?_idle_iff]

end CommentRegister

/-! ### Steps -/

section Steps

open CommentRegister (WaitsAlike)

variable {left right : CommentRegister}

theorem lineRecord_alike (alike : left.WaitsAlike right) (code trailing : Text) (number : Nat) :
    (lineRecord left code trailing number).1 = (lineRecord right code trailing number).1 ∧
      (lineRecord left code trailing number).2.WaitsAlike
        (lineRecord right code trailing number).2 := by
  have dropped : left.discard.WaitsAlike right.discard := rfl
  have handed := WaitsAlike.attachWith_snd left right trailing
  unfold lineRecord
  by_cases filler : isFiller code = true
  · simp only [filler, if_true, alike, and_self]
  cases moduleName? code with
  | some name =>
      simp only [filler, Bool.false_eq_true, if_false, alike.attachWith_fst, handed, and_self]
  | none =>
      by_cases imported : isImport code = true
      · simp only [filler, imported, Bool.false_eq_true, if_false, if_true, dropped, and_self]
      by_cases skipped : opensSkippedBlock code = true
      · simp only [filler, imported, skipped, Bool.false_eq_true, if_false, if_true, dropped, and_self]
      by_cases signature : isFunction code = true
      · simp only [filler, imported, skipped, signature, Bool.false_eq_true, if_false, if_true,
          alike.attachWith_fst, handed, and_self]
      · simp only [filler, imported, skipped, signature, Bool.false_eq_true, if_false, dropped,
          and_self]

/-- Two steps on one line that record the same and go on from the same lines. -/
structure ModuleStep.Alike (left right : ModuleStep) : Prop where
  entries : left.entries = right.entries
  remaining : left.remaining = right.remaining
  register : left.register.WaitsAlike right.register

/-- Behind a container nothing waits. -/
theorem stepContainer_collected (header : ContainerHeader) (register : CommentRegister) (first : Line)
    (rest : List Line) : (stepContainer header register first rest).register.collected = [] := by
  have cleared (taken : Bool) :
      (if taken then register.attach.2 else register.discard).collected = [] := by
    cases taken <;> rfl
  exact cleared _

theorem stepContainer_alike (alike : left.WaitsAlike right) (header : ContainerHeader) (first : Line)
    (rest : List Line) :
    (stepContainer header left first rest).Alike (stepContainer header right first rest) := by
  constructor
  · unfold stepContainer
    rw [alike.pending]
  · unfold stepContainer
    rw [alike.pending]
  · apply CommentRegister.waitsAlike_of_collected
    rw [stepContainer_collected, stepContainer_collected]

theorem stepCode_alike (alike : left.WaitsAlike right) (first : Line) (rest : List Line) :
    (stepCode left first rest).Alike (stepCode right first rest) := by
  rw [stepCode_eq, stepCode_eq]
  obtain ⟨entries, registers⟩ := lineRecord_alike alike (splitLineComment first.text).1
    (splitLineComment first.text).2 first.number
  simp only
  cases codeKind (splitLineComment first.text).1 with
  | plain => exact ⟨entries, rfl, registers⟩
  | bodied => exact ⟨entries, rfl, registers⟩
  | container header => exact stepContainer_alike alike header first rest

end Steps

/-! ### Modules -/

theorem moduleVisits_consumed {register next : CommentRegister} {line : Line}
    {rest remaining : List Line} (consumed : register.consume? line rest = some (next, remaining)) :
    moduleVisits register (line :: rest) =
      ⟨line, rest, .ofComment line rest, []⟩ :: moduleVisits next remaining := by
  rw [moduleVisits]
  split
  · rename_i found
    rw [consumed] at found
    cases found
    rfl
  · rename_i ignored
    rw [consumed] at ignored
    cases ignored

theorem moduleVisits_ignored {register : CommentRegister} {line : Line} {rest : List Line}
    (ignored : register.consume? line rest = none) :
    moduleVisits register (line :: rest) =
      ⟨line, rest, moduleEvent line, (stepCode register line rest).entries⟩ ::
        moduleVisits (stepCode register line rest).register
          (stepCode register line rest).remaining := by
  rw [moduleVisits]
  split
  · rename_i found
    rw [ignored] at found
    cases found
  · rfl

theorem isDitto_of_ofComment {line : Line} {rest : List Line}
    (noDitto : CommentEvent.ofComment line rest ≠ .ditto) : isDitto line.text = false := by
  by_cases ditto : isDitto line.text = true
  · exact absurd (by rw [CommentEvent.ofComment, if_pos ditto]) noDitto
  · exact Bool.eq_false_iff.mpr ditto

/-- Without a repetition marker, only the waiting comment of the register counts. -/
theorem moduleEntries_alike {left right : CommentRegister} (alike : left.WaitsAlike right)
    (lines : List Line) (noDitto : ∀ visit ∈ moduleVisits left lines, visit.event ≠ .ditto) :
    moduleEntries right lines = moduleEntries left lines := by
  -- A turn may take several lines at once, so the induction is on how many are left.
  induction measured : lines.length using Nat.strongRecOn generalizing left right lines with
  | ind size ih =>
      subst measured
      cases lines with
      | nil => rw [moduleEntries, moduleEntries]
      | cons line rest =>
          cases found : left.consume? line rest with
          | some turn =>
              obtain ⟨next, remaining⟩ := turn
              have shorter := CommentRegister.consume?_length_le found
              rw [moduleVisits_consumed found] at noDitto
              have here := noDitto _ List.mem_cons_self
              obtain ⟨other, same, further⟩ := alike.consume? (isDitto_of_ofComment here) found
              rw [moduleEntries_consumed found, moduleEntries_consumed same]
              exact ih _ (Nat.lt_succ_of_le shorter) further remaining
                (fun visit later => noDitto visit (List.mem_cons_of_mem _ later)) rfl
          | none =>
              have shorter := stepCode_length_le left line rest
              have ignored := (CommentRegister.consume?_eq_none_iff left right line rest).mp found
              obtain ⟨entries, remaining, further⟩ := stepCode_alike alike line rest
              rw [moduleVisits_ignored found] at noDitto
              rw [moduleEntries_ignored found, moduleEntries_ignored ignored, ← entries, ← remaining]
              congr 1
              exact ih _ (Nat.lt_succ_of_le shorter) further _
                (fun visit later => noDitto visit (List.mem_cons_of_mem _ later)) rfl

theorem append_moduleEntries {front behind : List Text} {entries : List ModuleEntry}
    {register : CommentRegister}
    (reaches : Reaches .empty (numberedLines 1 (front ++ behind)) entries register
      (numberedLines (front.length + 1) behind))
    (nothing : register.pending = [])
    (noDitto : ∀ visit ∈ moduleVisits .empty (numberedLines 1 behind), visit.event ≠ .ditto) :
    moduleEntries .empty (numberedLines 1 (front ++ behind)) =
      moduleEntries .empty (numberedLines 1 front) ++
        (moduleEntries .empty (numberedLines 1 behind)).map
          (ModuleEntry.renumber fun number => number + front.length) := by
  cases behind with
  | nil => simp [numberedLines, moduleEntries]
  | cons text rest =>
      have further : numberedLines (front.length + 1) (text :: rest) ≠ [] := List.cons_ne_nil _ _
      rw [numberedLines_append, Nat.add_comm 1] at reaches ⊢
      have alone := reaches.moduleEntries_eq further []
      have last : moduleEntries register [] = [] := by rw [moduleEntries]
      rw [List.append_nil, last, List.append_nil] at alone
      have forgotten := moduleEntries_alike (CommentRegister.waitsAlike_empty nothing).symm
        (numberedLines 1 (text :: rest)) noDitto
      have moved := moduleEntries_renumber (.later front.length) register
        (numberedLines 1 (text :: rest))
      rw [numberedLines_later, Nat.add_comm 1, forgotten] at moved
      rw [reaches.moduleEntries_eq further, alone, moved]
      rfl

/-- Lines behind other lines are documented as if they stood alone, with later numbers, where the walk over
both comes to them between two declarations, nothing waits, and no repetition marker is met in them. The last
module declaration of both names the module. -/
theorem extractLines_append (file : FilePath) {front behind : List Text} {entries : List ModuleEntry}
    {register : CommentRegister}
    (reaches : Reaches .empty (numberedLines 1 (front ++ behind)) entries register
      (numberedLines (front.length + 1) behind))
    (nothing : register.pending = [])
    (noDitto : ∀ visit ∈ moduleVisits .empty (numberedLines 1 behind), visit.event ≠ .ditto) :
    let first := extractLines file (numberedLines 1 front)
    let second := extractLines file (numberedLines 1 behind)
    let declaring :=
      if (declaredModule? (moduleEntries .empty (numberedLines 1 behind))).isSome then second
      else first
    let move := fun number : Int => number + front.length
    extractLines file (numberedLines 1 (front ++ behind)) =
      { name := declaring.name
        file := file
        comments := declaring.comments
        imports := first.imports ++ second.imports
        functions := first.functions ++ second.functions.map (FunctionDoc.renumber move)
        aggregates := first.aggregates ++ second.aggregates.map (AggregateDoc.renumber move)
        enums := first.enums ++ second.enums.map (EnumDoc.renumber move) } := by
  intro first second declaring move
  have joined : extractLines file (numberedLines 1 (front ++ behind)) =
      .ofEntries file (moduleEntries .empty (numberedLines 1 front) ++
        (moduleEntries .empty (numberedLines 1 behind)).map (ModuleEntry.renumber move)) :=
    congrArg (ModuleDoc.ofEntries file) (append_moduleEntries reaches nothing noDitto)
  have declared : ∀ fallback, (declaredModule? (moduleEntries .empty (numberedLines 1 front) ++
      (moduleEntries .empty (numberedLines 1 behind)).map (ModuleEntry.renumber move))).getD fallback =
        ((declaredModule? (moduleEntries .empty (numberedLines 1 behind))).or
          (declaredModule? (moduleEntries .empty (numberedLines 1 front)))).getD fallback := by
    intro fallback
    rw [declaredModule?_append, declaredModule?_renumber]
  rw [joined]
  simp only [ofEntries_eq, declared, extractLines, declaring, first, second, List.filterMap_append,
    List.filterMap_map, List.map_filterMap, Function.comp_def, function?_renumber,
    aggregate?_renumber, enum?_renumber, import?_renumber]
  cases declaredModule? (moduleEntries .empty (numberedLines 1 behind)) with
  | none => rfl
  | some found => rfl

theorem extractLines_class_append_function :
    let front : List Text := ["class A \x7b".toList, "int x;".toList, "\x7d".toList]
    let behind : List Text := ["module b;".toList, "/// One.".toList, "void f();".toList]
    let first := extractLines anonymousFile (numberedLines 1 front)
    let second := extractLines anonymousFile (numberedLines 1 behind)
    extractLines anonymousFile (numberedLines 1 (front ++ behind)) =
      { name := "b".toList
        file := anonymousFile
        comments := []
        imports := first.imports ++ second.imports
        functions := first.functions ++ second.functions.map (FunctionDoc.renumber (· + 3))
        aggregates := first.aggregates ++ second.aggregates.map (AggregateDoc.renumber (· + 3))
        enums := first.enums ++ second.enums.map (EnumDoc.renumber (· + 3)) } := by
  intro front behind first second
  have header : CommentRegister.consume? .empty ⟨1, "class A \x7b".toList⟩
      (numberedLines 2 ("int x;".toList :: "\x7d".toList :: behind)) = none := by
    decide +kernel
  have remaining : (stepCode .empty ⟨1, "class A \x7b".toList⟩
      (numberedLines 2 ("int x;".toList :: "\x7d".toList :: behind))).remaining =
        numberedLines 4 behind := by
    decide +kernel
  have reaches := Reaches.code header (.start _ _)
  rw [remaining] at reaches
  have nothing : (stepCode .empty ⟨1, "class A \x7b".toList⟩
      (numberedLines 2 ("int x;".toList :: "\x7d".toList :: behind))).register.pending = [] := by
    decide +kernel
  have noDitto : ∀ visit ∈ moduleVisits .empty (numberedLines 1 behind), visit.event ≠ .ditto := by
    decide +kernel
  have joined : extractLines anonymousFile (numberedLines 1 (front ++ behind)) = _ :=
    extractLines_append anonymousFile reaches nothing noDitto
  refine joined.trans ?_
  decide +kernel

end DocSite
