/-
The lines that the walk over a module visits.

The visits follow the walk step by step, so the entries of the module are what the visits record. A module
declaration and an accepted signature may take a trailing comment, the header of a named container takes
only the comment that waits for it, and every other line of code drops what waits.
-/
import DocSite.Proofs.Comment.AggregateVisits

namespace DocSite

def moduleEvent (line : Line) : CommentEvent :=
  let code := (splitLineComment line.text).1
  if isFiller code then .filler
  else
    match moduleName? code with
    | some _ => .declares line.trailing?
    | none =>
        if isImport code then .code
        else
          match matchHeader? code with
          | some header => if header.name.isEmpty then .code else .declares none
          | none =>
              if opensSkippedBlock code then .code
              else if isFunction code then .declares line.trailing?
              else .code

def moduleVisits (register : CommentRegister) : List Line → List (Visit ModuleEntry)
  | [] => []
  | line :: rest =>
      match _ : register.consume? line rest with
      | some (next, remaining) =>
          ⟨line, rest, .ofComment line rest, []⟩ :: moduleVisits next remaining
      | none =>
          let step := stepCode register line rest
          ⟨line, rest, moduleEvent line, step.entries⟩ :: moduleVisits step.register step.remaining
termination_by lines => lines.length
decreasing_by
  · have shorter := CommentRegister.consume?_length_le (by assumption)
    simp only [List.length_cons]
    omega
  · have shorter := stepCode_length_le register line rest
    simp only [List.length_cons]
    omega

/-- The comment that an entry has. An import has none. -/
def ModuleEntry.comments? : ModuleEntry → Option (List Text)
  | .moduleName _ comments => some comments
  | .importLine _ => none
  | .function declared => some declared.comments
  | .aggregate declared => some declared.comments
  | .enum declared => some declared.comments

/-- The trailing comment that an entry may take from its own line. Containers take none. -/
def ModuleEntry.own? : ModuleEntry → Line → Option Text
  | .moduleName _ _, line => line.trailing?
  | .function _, line => line.trailing?
  | _, _ => none

/-! ### One step -/

structure StepTold (register : CommentRegister) (line : Line) (step : ModuleStep) : Prop where
  fed : step.register = register.feed (moduleEvent line)
  entries : ∀ entry ∈ step.entries, ∀ found, entry.comments? = some found →
    moduleEvent line = .declares (entry.own? line) ∧
      found = (register.handTo (entry.own? line)).1

theorem StepTold.of_silent {register : CommentRegister} {line : Line} {remaining : List Line}
    {after : CommentRegister} {entries : List ModuleEntry} (event : CommentEvent)
    (silent : ∀ entry ∈ entries, entry.comments? = none) (told : moduleEvent line = event)
    (fed : after = register.feed event) :
    StepTold register line ⟨entries, after, remaining⟩ := by
  refine ⟨by rw [told]; exact fed, ?_⟩
  intro entry member found commented
  rw [silent entry member] at commented
  cases commented

theorem StepTold.of_declaration {register : CommentRegister} {line : Line} {remaining : List Line}
    {entries : List ModuleEntry} {trailing : Option Text}
    (told : moduleEvent line = .declares trailing)
    (own : ∀ entry ∈ entries, entry.own? line = trailing ∧
      entry.comments? = some (register.handTo trailing).1) :
    StepTold register line ⟨entries, (register.handTo trailing).2, remaining⟩ := by
  refine ⟨by rw [told]; rfl, ?_⟩
  intro entry member found commented
  obtain ⟨same, comments⟩ := own entry member
  rw [comments] at commented
  cases commented
  rw [same]
  exact ⟨told, rfl⟩

theorem stepContainer_told {register : CommentRegister} {line : Line} {header : ContainerHeader}
    (rest : List Line)
    (told : moduleEvent line = if header.name.isEmpty then .code else .declares none) :
    StepTold register line (stepContainer header register line rest) := by
  unfold stepContainer
  cases anonymous : header.name.isEmpty with
  | true =>
      rw [anonymous, if_pos rfl] at told
      cases header.kind with
      | enum =>
          simp only [scanEnum, anonymous, if_true]
          exact .of_silent .code nofun told rfl
      | aggregate kind =>
          simp only [scanAggregate, anonymous, if_true]
          exact .of_silent .code nofun told rfl
  | false =>
      rw [anonymous, if_neg Bool.false_ne_true] at told
      rw [CommentRegister.attach_eq_handTo]
      have waiting : register.pending = (register.handTo none).1 :=
        congrArg Prod.fst (CommentRegister.attach_eq_handTo register)
      cases header.kind with
      | enum =>
          simp only [scanEnum, anonymous, Bool.false_eq_true, if_false]
          apply StepTold.of_declaration told
          intro entry member
          cases List.mem_singleton.mp member
          exact ⟨rfl, congrArg some waiting⟩
      | aggregate kind =>
          simp only [scanAggregate, anonymous, Bool.false_eq_true, if_false]
          apply StepTold.of_declaration told
          intro entry member
          cases List.mem_singleton.mp member
          exact ⟨rfl, congrArg some waiting⟩

theorem stepCode_told (register : CommentRegister) (line : Line) (rest : List Line) :
    StepTold register line (stepCode register line rest) := by
  unfold stepCode
  dsimp only
  by_cases filler : isFiller (splitLineComment line.text).1 = true
  · rw [if_pos filler]
    refine .of_silent .filler nofun ?_ rfl
    simp only [moduleEvent, filler, if_true]
  rw [if_neg filler, CommentRegister.attachWith_eq_handTo]
  cases named : moduleName? (splitLineComment line.text).1 with
  | some name =>
      apply StepTold.of_declaration
      · simp only [moduleEvent, filler, named, Bool.false_eq_true, if_false]
        rfl
      · intro entry member
        cases List.mem_singleton.mp member
        exact ⟨rfl, rfl⟩
  | none =>
      dsimp only
      by_cases imported : isImport (splitLineComment line.text).1 = true
      · rw [if_pos imported]
        refine .of_silent .code ?_ ?_ rfl
        · intro entry member
          cases List.mem_singleton.mp member
          rfl
        · simp only [moduleEvent, filler, named, imported, Bool.false_eq_true, if_false, if_true]
      rw [if_neg imported]
      cases headed : matchHeader? (splitLineComment line.text).1 with
      | some header =>
          apply stepContainer_told
          simp only [moduleEvent, filler, named, imported, headed, Bool.false_eq_true, if_false]
      | none =>
          dsimp only
          by_cases skipped : opensSkippedBlock (splitLineComment line.text).1 = true
          · rw [if_pos skipped]
            refine .of_silent .code nofun ?_ rfl
            simp only [moduleEvent, filler, named, imported, headed, skipped, Bool.false_eq_true,
              if_false, if_true]
          rw [if_neg skipped]
          by_cases signature : isFunction (splitLineComment line.text).1 = true
          · rw [if_pos signature]
            apply StepTold.of_declaration
            · simp only [moduleEvent, filler, named, imported, headed, skipped, signature,
                Bool.false_eq_true, if_false, if_true]
              rfl
            · intro entry member
              obtain ⟨function, parsed, equal⟩ :=
                Option.map_eq_some_iff.mp (Option.mem_toList.mp member)
              cases equal
              exact ⟨rfl, congrArg some (comments_of_parseFunction? parsed)⟩
          · rw [if_neg signature]
            refine .of_silent .code nofun ?_ rfl
            simp only [moduleEvent, filler, named, imported, headed, skipped, signature,
              Bool.false_eq_true, if_false]

theorem ne_nil_of_moduleEvent {line : Line} {text : Text}
    (declares : moduleEvent line = .declares (some text)) : text ≠ [] := by
  unfold moduleEvent at declares
  dsimp only at declares
  repeat' split at declares
  all_goals first
    | cases declares
    | exact Line.ne_nil_of_trailing? (CommentEvent.declares.inj declares)

/-! ### What a line records -/

/-- What a line of code records at module scope: an entry that is read from its code, or the container whose
header the code is. -/
inductive ModuleEntry.RecordedOn (register : CommentRegister) (line : Line) (rest : List Line) :
    ModuleEntry → Prop
  | moduleName {name : Text} (named : moduleName? (codeOf line.text) = some name) :
      RecordedOn register line rest
        (.moduleName name (register.attachWith (splitLineComment line.text).2).1)
  | importLine (imported : isImport (codeOf line.text) = true) :
      RecordedOn register line rest (.importLine (codeOf line.text))
  | aggregate {header : ContainerHeader} {kind : AggregateKind} {declared : AggregateDoc}
      (headed : matchHeader? (codeOf line.text) = some header) (isKind : header.kind = .aggregate kind)
      (scanned : (scanAggregate kind header.name register.pending line rest).1 = some declared) :
      RecordedOn register line rest (.aggregate declared)
  | enum {header : ContainerHeader} {declared : EnumDoc}
      (headed : matchHeader? (codeOf line.text) = some header) (isKind : header.kind = .enum)
      (scanned : (scanEnum header.name register.pending line rest).1 = some declared) :
      RecordedOn register line rest (.enum declared)
  | function {declared : FunctionDoc} (accepted : isFunction (codeOf line.text) = true)
      (read : parseFunction? (codeOf line.text)
        (register.attachWith (splitLineComment line.text).2).1 line.number = some declared) :
      RecordedOn register line rest (.function declared)

section RecordedOn

variable {register : CommentRegister} {line : Line} {rest : List Line} {entry : ModuleEntry}

theorem recordedOn_of_stepContainer {header : ContainerHeader}
    (headed : matchHeader? (codeOf line.text) = some header)
    (recorded : entry ∈ (stepContainer header register line rest).entries) :
    entry.RecordedOn register line rest := by
  unfold stepContainer at recorded
  dsimp only at recorded
  cases isKind : header.kind with
  | enum =>
      rw [isKind] at recorded
      obtain ⟨declared, scanned, equal⟩ := Option.map_eq_some_iff.mp (Option.mem_toList.mp recorded)
      cases equal
      exact .enum headed isKind scanned
  | aggregate kind =>
      rw [isKind] at recorded
      obtain ⟨declared, scanned, equal⟩ := Option.map_eq_some_iff.mp (Option.mem_toList.mp recorded)
      cases equal
      exact .aggregate headed isKind scanned

theorem recordedOn_of_stepCode (recorded : entry ∈ (stepCode register line rest).entries) :
    entry.RecordedOn register line rest := by
  unfold stepCode at recorded
  dsimp only at recorded
  split at recorded
  · cases recorded
  · split at recorded
    · rename_i named
      cases List.mem_singleton.mp recorded
      exact .moduleName named
    · split at recorded
      · rename_i imported
        cases List.mem_singleton.mp recorded
        exact .importLine imported
      · split at recorded
        · rename_i headed
          exact recordedOn_of_stepContainer headed recorded
        · split at recorded
          · cases recorded
          · split at recorded
            · rename_i accepted
              obtain ⟨declared, read, equal⟩ := Option.map_eq_some_iff.mp (Option.mem_toList.mp recorded)
              cases equal
              exact .function accepted read
            · cases recorded

end RecordedOn

/-! ### The whole walk -/

/-- The entries of a module are what its visits record. -/
theorem moduleEntries_eq_records (register : CommentRegister) (lines : List Line) :
    moduleEntries register lines = (moduleVisits register lines).flatMap Visit.records := by
  induction measured : lines.length using Nat.strongRecOn generalizing register lines with
  | ind size ih =>
      subst measured
      cases lines with
      | nil =>
          rw [moduleVisits]
          simp only [moduleEntries, List.flatMap_nil]
      | cons line rest =>
          cases consumed : register.consume? line rest with
          | some turn =>
              obtain ⟨next, remaining⟩ := turn
              have shorter := CommentRegister.consume?_length_le consumed
              rw [moduleEntries_consumed consumed, moduleVisits]
              split
              · rename_i again
                rw [consumed] at again
                cases again
                rw [List.flatMap_cons, List.nil_append]
                exact ih remaining.length (Nat.lt_succ_of_le shorter) next remaining rfl
              · rename_i ignored
                rw [consumed] at ignored
                cases ignored
          | none =>
              have shorter := stepCode_length_le register line rest
              rw [moduleEntries_ignored consumed, moduleVisits]
              split
              · rename_i again
                rw [consumed] at again
                cases again
              · rw [List.flatMap_cons]
                rw [ih _ (Nat.lt_succ_of_le shorter) _ _ rfl]

/-- The walk feeds its register with what the lines mean. -/
theorem threaded_moduleVisits (register : CommentRegister) (lines : List Line) :
    Threaded ModuleEntry.comments? ModuleEntry.own? register (moduleVisits register lines) := by
  induction measured : lines.length using Nat.strongRecOn generalizing register lines with
  | ind size ih =>
      subst measured
      cases lines with
      | nil =>
          rw [moduleVisits]
          exact .nil register
      | cons line rest =>
          rw [moduleVisits]
          split
          · rename_i next remaining consumed
            have shorter := CommentRegister.consume?_length_le consumed
            refine .cons nofun ?_ ?_
            · intro text declares
              exact absurd declares (CommentEvent.ofComment_ne_declares line rest (some text))
            · rw [← CommentRegister.consume?_event consumed]
              exact ih remaining.length (Nat.lt_succ_of_le shorter) next remaining rfl
          · have shorter := stepCode_length_le register line rest
            obtain ⟨fed, entries⟩ := stepCode_told register line rest
            refine .cons entries (fun text => ne_nil_of_moduleEvent) ?_
            rw [← fed]
            exact ih _ (Nat.lt_succ_of_le shorter) _ _ rfl

theorem moduleEvent_ne_inValue (line : Line) : moduleEvent line ≠ .inValue := by
  unfold moduleEvent
  dsimp only
  repeat' split
  all_goals
    intro same
    cases same

/-- Every visit is a comment or a step on a line of code. -/
theorem moduleVisits_cases (register : CommentRegister) (lines : List Line) :
    ∀ visit ∈ moduleVisits register lines,
      (visit.event = .ofComment visit.line visit.behind ∧ visit.records = []) ∨
        (visit.event = moduleEvent visit.line ∧
          ∃ reached, visit.records = (stepCode reached visit.line visit.behind).entries) := by
  induction measured : lines.length using Nat.strongRecOn generalizing register lines with
  | ind size ih =>
      subst measured
      intro visit member
      cases lines with
      | nil =>
          rw [moduleVisits] at member
          cases member
      | cons line rest =>
          rw [moduleVisits] at member
          split at member
          · rename_i next remaining consumed
            have shorter := CommentRegister.consume?_length_le consumed
            rcases List.mem_cons.mp member with first | later
            · rw [first]
              exact .inl ⟨rfl, rfl⟩
            · exact ih remaining.length (Nat.lt_succ_of_le shorter) next remaining rfl visit later
          · have shorter := stepCode_length_le register line rest
            rcases List.mem_cons.mp member with first | later
            · rw [first]
              exact .inr ⟨rfl, register, rfl⟩
            · exact ih _ (Nat.lt_succ_of_le shorter) _ _ rfl visit later

theorem recordedOn_of_moduleVisits (register : CommentRegister) (lines : List Line) :
    ∀ visit ∈ moduleVisits register lines, ∀ entry ∈ visit.records,
      ∃ reached, entry.RecordedOn reached visit.line visit.behind := by
  intro visit member entry recorded
  rcases moduleVisits_cases register lines visit member with ⟨_, none⟩ | ⟨_, reached, step⟩
  · rw [none] at recorded
    cases recorded
  · rw [step] at recorded
    exact ⟨reached, recordedOn_of_stepCode recorded⟩

end DocSite
