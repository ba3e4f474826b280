/-
Extraction by position.

The walk over a module starts every scan at the position of the line that calls for it. The main statement
says that no fault is ever met: every step moves forward without leaving the lines, every scan is started
on a line that it accepts, and the documentation is that of the walk over the remaining lines. The one
point to show is that code which is taken for a header is still taken for the same header when the whole
line is read again.
-/
import DocSite.Doc.Extraction
import DocSite.Proofs.Cursor.Aggregate
import DocSite.Proofs.Cursor.Enumeration
import DocSite.Proofs.Source.Code

namespace DocSite
namespace Cursor

structure Step where
  entries : List ModuleEntry
  register : CommentRegister
  resume : Nat

def containerAt (lines : List Text) (position : Nat) (kind : ContainerKind)
    (register : CommentRegister) : Scan Step := do
  let (entry, resume) ← match kind with
    | .enum => do
        let (enum, resume) ← scanEnumAt lines position register.pending
        pure (enum.map ModuleEntry.enum, resume)
    | .aggregate _ => do
        let (aggregate, resume) ← scanAggregateAt lines position register.pending
        pure (aggregate.map ModuleEntry.aggregate, resume)
  return ⟨entry.toList, if entry.isSome then register.attach.2 else register.discard, resume⟩

def codeAt (lines : List Text) (position : Nat) (register : CommentRegister) : Scan Step := do
  let line ← lineAt lines position
  let (code, trailing) := splitLineComment line
  if isFiller code then return ⟨[], register, position + 1⟩
  match moduleName? code with
  | some name =>
      let (comments, register) := register.attachWith trailing
      return ⟨[.moduleName name comments], register, position + 1⟩
  | none =>
      if isImport code then return ⟨[.importLine code], register.discard, position + 1⟩
      match matchHeader? code with
      | some header => containerAt lines position header.kind register
      | none =>
          if opensSkippedBlock code then
            let resume ← skipBodyAt lines position
            return ⟨[], register.discard, resume⟩
          if isFunction code then
            let (comments, register) := register.attachWith trailing
            let function ← functionAt code comments (position + 1)
            let resume ← skipBodyAt lines position
            return ⟨(function.map ModuleEntry.function).toList, register, resume⟩
          return ⟨[], register.discard, position + 1⟩

def stepAt (lines : List Text) (position : Nat) (register : CommentRegister) : Scan Step := do
  match ← consumeAt lines position register with
  | some (register, resume) => return ⟨[], register, resume⟩
  | none => codeAt lines position register

def entriesAt (lines : List Text) (position : Nat) (register : CommentRegister) :
    Scan (List ModuleEntry) :=
  if position < lines.length then do
    let step ← stepAt lines position register
    if position < step.resume ∧ step.resume ≤ lines.length then
      let more ← entriesAt lines step.resume step.register
      return step.entries ++ more
    else .error (.standstill position step.resume)
  else .ok []
termination_by lines.length - position

def extractAt (file : FilePath) (source : Text) : Scan ModuleDoc := do
  let entries ← entriesAt (Text.lines source) 0 .empty
  return .ofEntries file entries

/-! ### Headers read twice -/

/-- The header found in the code of a trimmed line is the header on the line. -/
theorem matchHeader?_codeOf {line : Text} (trimmed : Text.trim line = line) :
    matchHeader? (codeOf line) = matchHeader? line := by
  have ink : Text.StartsInk line := by
    rw [← trimmed]
    exact Text.startsInk_trim line
  unfold matchHeader?
  rw [trim_codeOf ink, codeOf_codeOf, trimmed]

/-! ### Agreement -/

/-- A step by position succeeds, moves forward and agrees with a step on the remaining lines. -/
def FollowsStep (lines : List Text) (position : Nat) (scan : Scan Step) (plain : ModuleStep) :
    Prop :=
  ∃ resume, scan = .ok ⟨plain.entries, plain.register, resume⟩ ∧
    plain.remaining = linesFrom lines resume ∧ position < resume ∧ resume ≤ lines.length

theorem containerAt_follows {lines : List Text} {position : Nat} {header : ContainerHeader}
    (inside : position < lines.length)
    (accepted : matchHeader? (Text.trim lines[position]) = some header)
    (register : CommentRegister) :
    FollowsStep lines position (containerAt lines position header.kind register)
      (stepContainer header register (lineOf lines position inside)
        (linesFrom lines (position + 1))) := by
  unfold containerAt stepContainer
  cases sort : header.kind with
  | enum =>
      obtain ⟨resume, succeeds, remains, forward, within⟩ :=
        scanEnumAt_follows inside accepted sort register.pending
      exact ⟨resume, by simp only [bind, Except.bind, succeeds]; rfl, remains, forward, within⟩
  | aggregate kind =>
      obtain ⟨resume, succeeds, remains, forward, within⟩ :=
        scanAggregateAt_follows inside accepted sort register.pending
      exact ⟨resume, by simp only [bind, Except.bind, succeeds]; rfl, remains, forward, within⟩

theorem codeAt_follows {lines : List Text} {position : Nat} (inside : position < lines.length)
    (register : CommentRegister) :
    FollowsStep lines position (codeAt lines position register)
      (stepCode register (lineOf lines position inside) (linesFrom lines (position + 1))) := by
  have next : FollowsStep lines position (.ok ⟨[], register.discard, position + 1⟩)
      ⟨[], register.discard, linesFrom lines (position + 1)⟩ :=
    ⟨position + 1, rfl, rfl, Nat.lt_succ_self _, inside⟩
  obtain ⟨behind, skips, remains, forward, within⟩ := skipBodyAt_follows inside
  unfold codeAt stepCode
  rw [lineAt_eq_ok inside]
  simp only [bind, Except.bind, functionAt_eq_ok, skips]
  have again : matchHeader? (splitLineComment (Text.trim lines[position])).1 =
      matchHeader? (Text.trim lines[position]) :=
    matchHeader?_codeOf (Text.trim_trim lines[position])
  generalize splitLineComment (Text.trim lines[position]) = parts at again ⊢
  obtain ⟨code, trailing⟩ := parts
  dsimp only at again ⊢
  by_cases filler : isFiller code = true
  · simp only [filler, if_true]
    exact ⟨position + 1, rfl, rfl, Nat.lt_succ_self _, inside⟩
  · simp only [filler, Bool.false_eq_true, if_false]
    cases moduleName? code with
    | some name => exact ⟨position + 1, rfl, rfl, Nat.lt_succ_self _, inside⟩
    | none =>
        by_cases imports : isImport code = true
        · simp only [imports, if_true]
          exact ⟨position + 1, rfl, rfl, Nat.lt_succ_self _, inside⟩
        · simp only [imports, Bool.false_eq_true, if_false]
          cases accepted : matchHeader? code with
          | some header => exact containerAt_follows inside (again.symm.trans accepted) register
          | none =>
              dsimp only
              split
              · exact ⟨behind, rfl, remains, forward, within⟩
              · split
                · exact ⟨behind, rfl, remains, forward, within⟩
                · exact next

/-- Every step of the walk succeeds and moves forward without leaving the lines. -/
theorem stepAt_advances {lines : List Text} {position : Nat} (inside : position < lines.length)
    (register : CommentRegister) :
    ∃ step, stepAt lines position register = .ok step ∧
      position < step.resume ∧ step.resume ≤ lines.length ∧
      moduleEntries register (linesFrom lines position) =
        step.entries ++ moduleEntries step.register (linesFrom lines step.resume) := by
  unfold stepAt
  rw [linesFrom_eq_cons inside]
  simp only [bind, Except.bind]
  cases consumed : register.consume? (lineOf lines position inside)
      (linesFrom lines (position + 1)) with
  | some next =>
      obtain ⟨next, remaining⟩ := next
      obtain ⟨resume, succeeds, remains, forward, within⟩ := consumeAt_follows inside consumed
      rw [moduleEntries_consumed consumed, succeeds, remains]
      exact ⟨⟨[], next, resume⟩, rfl, forward, within, rfl⟩
  | none =>
      obtain ⟨resume, succeeds, remains, forward, within⟩ := codeAt_follows inside register
      rw [moduleEntries_ignored consumed, consumeAt_eq_none inside consumed, succeeds, remains]
      exact ⟨_, rfl, forward, within, rfl⟩

theorem entriesAt_eq_ok (lines : List Text) (position : Nat) (register : CommentRegister) :
    entriesAt lines position register = .ok (moduleEntries register (linesFrom lines position)) := by
  induction measured : lines.length - position using Nat.strongRecOn
    generalizing position register with
  | ind left ih =>
      subst measured
      unfold entriesAt
      by_cases inside : position < lines.length
      · obtain ⟨step, succeeds, forward, within, entries⟩ := stepAt_advances inside register
        rw [if_pos inside, succeeds, entries]
        simp only [bind, Except.bind]
        rw [if_pos ⟨forward, within⟩,
          ih (lines.length - step.resume) (by omega) step.resume step.register rfl]
        rfl
      · rw [if_neg inside, linesFrom_eq_nil (Nat.le_of_not_lt inside), moduleEntries]

/-! ### What starts a scan -/

/-- A comment can be extracted exactly where a line opens one. -/
theorem commentAt_advances_iff {lines : List Text} {position : Nat}
    (inside : position < lines.length) :
    Advances lines position (commentAt lines position) ↔
      ∃ style, commentStyle? (Text.trim lines[position]) = some style := by
  constructor
  · rintro ⟨result, resume, succeeds, _⟩
    unfold commentAt at succeeds
    rw [lineAt_eq_ok inside] at succeeds
    cases opens : commentStyle? (Text.trim lines[position]) with
    | some style => exact ⟨style, rfl⟩
    | none =>
        simp only [bind, Except.bind, opens] at succeeds
        cases succeeds
  · rintro ⟨style, opens⟩
    exact (commentAt_follows inside opens).advances

/-- An aggregate can be scanned exactly where a header of one stands. -/
theorem scanAggregateAt_advances_iff {lines : List Text} {position : Nat}
    (inside : position < lines.length) (comments : List Text) :
    Advances lines position (scanAggregateAt lines position comments) ↔
      ∃ header kind, matchHeader? (Text.trim lines[position]) = some header ∧
        header.kind = .aggregate kind := by
  constructor
  · rintro ⟨result, resume, succeeds, _⟩
    unfold scanAggregateAt at succeeds
    rw [lineAt_eq_ok inside] at succeeds
    cases accepted : matchHeader? (Text.trim lines[position]) with
    | none =>
        simp only [bind, Except.bind, accepted] at succeeds
        cases succeeds
    | some header =>
        cases sort : header.kind with
        | aggregate kind => exact ⟨header, kind, rfl, sort⟩
        | enum =>
            simp only [bind, Except.bind, accepted, sort] at succeeds
            cases succeeds
  · rintro ⟨header, kind, accepted, sort⟩
    exact (scanAggregateAt_follows inside accepted sort comments).advances

/-- An enum can be scanned exactly where a header of one stands. -/
theorem scanEnumAt_advances_iff {lines : List Text} {position : Nat}
    (inside : position < lines.length) (comments : List Text) :
    Advances lines position (scanEnumAt lines position comments) ↔
      ∃ header, matchHeader? (Text.trim lines[position]) = some header ∧ header.kind = .enum := by
  constructor
  · rintro ⟨result, resume, succeeds, _⟩
    unfold scanEnumAt at succeeds
    rw [lineAt_eq_ok inside] at succeeds
    cases accepted : matchHeader? (Text.trim lines[position]) with
    | none =>
        simp only [bind, Except.bind, accepted] at succeeds
        cases succeeds
    | some header =>
        cases sort : header.kind with
        | enum => exact ⟨header, rfl, sort⟩
        | aggregate kind =>
            simp only [bind, Except.bind, accepted, sort] at succeeds
            cases succeeds
  · rintro ⟨header, accepted, sort⟩
    exact (scanEnumAt_follows inside accepted sort comments).advances

/-- The kinds of aggregates are named by three keywords and no other. -/
theorem ofKeyword?_isSome_iff (keyword : Text) :
    (AggregateKind.ofKeyword? keyword).isSome = true ↔
      keyword = "class".toList ∨ keyword = "struct".toList ∨ keyword = "interface".toList := by
  unfold AggregateKind.ofKeyword?
  split_ifs <;> simp_all

/-- A closer can be looked for exactly where an opening parenthesis stands. -/
theorem closerAt_isOk_iff (code : Text) (position : Nat) :
    (∃ closer, closerAt code position = .ok closer) ↔ code[position]? = some '(' := by
  constructor
  · rintro ⟨closer, succeeds⟩
    unfold closerAt at succeeds
    split at succeeds
    · assumption
    · cases succeeds
  · intro opens
    obtain ⟨inside, here⟩ := List.getElem?_eq_some_iff.mp opens
    have whole : code = code.take position ++ '(' :: code.drop (position + 1) := by
      rw [← here, ← List.drop_eq_getElem_cons inside, List.take_append_drop]
    have place : (code.take position).length = position :=
      List.length_take_of_le (Nat.le_of_lt inside)
    have found := closerAt_eq_ok (code.take position) (code.drop (position + 1))
    rw [← whole, place] at found
    exact ⟨_, found⟩

/-! ### The whole source -/

/-- What every position in the lines allows: the step of the walk succeeds, the scan of a comment or of a
container succeeds exactly on the lines that open one, and whatever succeeds moves forward without leaving
the lines. -/
structure Sound (lines : List Text) (position : Fin lines.length) : Prop where
  step : ∀ register, ∃ step, stepAt lines position register = .ok step ∧
    position < step.resume ∧ step.resume ≤ lines.length
  comment : Advances lines position (commentAt lines position) ↔
    ∃ style, commentStyle? (Text.trim lines[position]) = some style
  aggregate : ∀ comments, Advances lines position (scanAggregateAt lines position comments) ↔
    ∃ header kind, matchHeader? (Text.trim lines[position]) = some header ∧
      header.kind = .aggregate kind
  enum : ∀ comments, Advances lines position (scanEnumAt lines position comments) ↔
    ∃ header, matchHeader? (Text.trim lines[position]) = some header ∧ header.kind = .enum
  body : ∃ resume, skipBodyAt lines position = .ok resume ∧
    position < resume ∧ resume ≤ lines.length

/-- Extraction by position meets no fault and gives the documentation of the walk over the remaining lines.
A fault would be a scan started on a line that it does not accept, a keyword that is none of the three, a
closer looked for anywhere but at an opening parenthesis, or a step that does not move forward. -/
theorem extractAt_eq_ok (file : FilePath) (source : Text) :
    extractAt file source = .ok (extractModule file source) ∧
      (∀ position, Sound (Text.lines source) position) ∧
      (∀ keyword, (AggregateKind.ofKeyword? keyword).isSome = true ↔
        keyword = "class".toList ∨ keyword = "struct".toList ∨ keyword = "interface".toList) ∧
      (∀ code position, (∃ closer, closerAt code position = .ok closer) ↔
        code[position]? = some '(') := by
  refine ⟨?_, ?_, ofKeyword?_isSome_iff, closerAt_isOk_iff⟩
  · unfold extractAt
    rw [entriesAt_eq_ok, linesFrom_zero]
    rfl
  · intro position
    have inside := position.isLt
    refine ⟨?_, commentAt_advances_iff inside, scanAggregateAt_advances_iff inside,
      scanEnumAt_advances_iff inside, ?_⟩
    · intro register
      obtain ⟨step, succeeds, forward, within, _⟩ := stepAt_advances inside register
      exact ⟨step, succeeds, forward, within⟩
    · obtain ⟨resume, succeeds, _, forward, within⟩ := skipBodyAt_follows inside
      exact ⟨resume, succeeds, forward, within⟩

end Cursor
end DocSite
