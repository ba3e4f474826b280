/-
Walks over renumbered lines.

When the numbers of the lines are moved, every walk goes the same way and its members and entries have the
moved numbers. One lemma says so for a single line, of a body and of a module, and the whole walks follow.
-/
import DocSite.Proofs.Doc.Renumbering
import DocSite.Proofs.Walk.Module

namespace DocSite

/-! ### Members of a line -/

section Members

variable (move : Int → Int)

theorem parseFunction?_renumber (line : Text) (comments : List Text) (number : Int) :
    parseFunction? line comments (move number) =
      (parseFunction? line comments number).map (FunctionDoc.renumber move) := by
  unfold parseFunction? parseSignature?
  cases cutAtParameters? (codeOf (Text.trim line)) with
  | none => rfl
  | some parts =>
      simp only
      cases parameterText? parts.2 with
      | none => rfl
      | some parameters =>
          simp only [Option.map_map]
          rfl

theorem functionOfStatement?_renumber (statement : Text) (number : Int) :
    functionOfStatement? statement (move number) =
      (functionOfStatement? statement number).map (FunctionDoc.renumber move) := by
  unfold functionOfStatement?
  by_cases signature : isFunction statement = true
  · rw [if_pos signature, if_pos signature, parseFunction?_renumber]
  · rw [if_neg signature, if_neg signature]
    rfl

theorem memberOfStatement_renumber (number : Int) (statement : Text) :
    memberOfStatement (move number) statement =
      (memberOfStatement number statement).renumber move := by
  unfold memberOfStatement
  rw [functionOfStatement?_renumber]
  cases functionOfStatement? statement number <;> rfl

theorem inlineMembers_renumber (segment : Text) (number : Int) :
    inlineMembers segment (move number) =
      (inlineMembers segment number).map (AggregateMember.renumber move) := by
  unfold inlineMembers
  simp only [List.map_append, List.map_map, functionOfStatement?_renumber,
    memberOfStatement_renumber]
  congr 1
  by_cases empty : ((splitTopLevelAt ';' segment).getLast?.getD []).isEmpty = true
  · simp only [empty, if_true]
    rfl
  · simp only [empty, Bool.false_eq_true, if_false]
    cases functionOfStatement? ((splitTopLevelAt ';' segment).getLast?.getD []) number <;> rfl

theorem parseEnumMembers_renumber (segment : Text) (number : Int) (comments : List Text) :
    parseEnumMembers segment (move number) comments =
      (parseEnumMembers segment number comments).map (EnumMemberDoc.renumber move) := by
  unfold parseEnumMembers
  rw [List.map_filterMap]
  congr 1
  funext piece
  unfold enumMember?
  by_cases empty : (piece.isEmpty || (splitEnumMember piece).1.isEmpty) = true
  · simp [empty]
  · simp [empty, EnumMemberDoc.renumber]

theorem attachMembers_renumber (segment : Text) (number : Int) (register : CommentRegister)
    (trailing : Text) :
    attachMembers segment (move number) register trailing =
      ((attachMembers segment number register trailing).1.map (EnumMemberDoc.renumber move),
        (attachMembers segment number register trailing).2) := by
  unfold attachMembers
  simp only [parseEnumMembers_renumber]

end Members

variable (numbering : Renumbering)

theorem memberOfLine_renumber (before balance : Int) (register : CommentRegister)
    (code trailing : Text) (number : Nat) :
    memberOfLine before balance register code trailing (numbering.line number) =
      ((memberOfLine before balance register code trailing number).1.map
          (AggregateMember.renumber numbering.document),
        (memberOfLine before balance register code trailing number).2) := by
  unfold memberOfLine
  simp only [← numbering.agrees, parseFunction?_renumber]
  by_cases filler : isFiller code = true
  · simp only [filler, if_true, List.map_nil]
  by_cases header : (matchHeader? code).isSome = true
  · simp only [filler, header, Bool.false_eq_true, if_false, if_true, List.map_nil]
  by_cases signature : isFunction code = true
  · by_cases level : before = 1
    · simp only [filler, header, signature, level, Bool.false_eq_true, if_false, if_true]
      cases parseFunction? code (register.attachWith trailing).1 number <;> rfl
    · simp only [filler, header, signature, level, Bool.false_eq_true, if_false, if_true,
        List.map_nil]
  by_cases field : balance = 1 ∧ Text.endsWith ';' code
  · simp only [filler, header, signature, field, Bool.false_eq_true, if_false, if_true, and_self]
    rfl
  · simp only [filler, header, signature, field, Bool.false_eq_true, if_false, List.map_nil]

theorem membersOfLine_renumber (before : Int) (closed : Bool) (register : CommentRegister)
    (code trailing : Text) (number : Nat) (opensHere : Bool) :
    membersOfLine before closed register code trailing (numbering.line number) opensHere =
      ((membersOfLine before closed register code trailing number opensHere).1.map
          (EnumMemberDoc.renumber numbering.document),
        (membersOfLine before closed register code trailing number opensHere).2) := by
  unfold membersOfLine
  simp only [← numbering.agrees, attachMembers_renumber]
  by_cases inValue : before > 1 ∧ !closed
  · rw [if_pos inValue, if_pos inValue, List.map_nil]
  · rw [if_neg inValue, if_neg inValue]
    by_cases idle : isIdleSegment (bodySegment code opensHere closed) = true
    · rw [if_pos idle, if_pos idle, List.map_nil]
    · rw [if_neg idle, if_neg idle]

theorem lineRecord_renumber (register : CommentRegister) (code trailing : Text) (number : Nat) :
    lineRecord register code trailing (numbering.line number) =
      ((lineRecord register code trailing number).1.map (ModuleEntry.renumber numbering.document),
        (lineRecord register code trailing number).2) := by
  unfold lineRecord
  simp only [← numbering.agrees, parseFunction?_renumber]
  by_cases filler : isFiller code = true
  · simp only [filler, if_true, List.map_nil]
  cases moduleName? code with
  | some name =>
      simp only [filler, Bool.false_eq_true, if_false]
      rfl
  | none =>
      by_cases imported : isImport code = true
      · simp only [filler, imported, Bool.false_eq_true, if_false, if_true]
        rfl
      by_cases skipped : opensSkippedBlock code = true
      · simp only [filler, imported, skipped, Bool.false_eq_true, if_false, if_true, List.map_nil]
      by_cases signature : isFunction code = true
      · simp only [filler, imported, skipped, signature, Bool.false_eq_true, if_false, if_true]
        cases parseFunction? code (register.attachWith trailing).1 number <;> rfl
      · simp only [filler, imported, skipped, signature, Bool.false_eq_true, if_false,
          List.map_nil]

/-! ### Bodies -/

section Bodies

variable {Member : Type} (change : Member → Member)

def BodyState.map : BodyState Member → BodyState Member
  | .pending balance => .pending balance
  | .inside balance reader members => .inside balance reader (members.map change)

def BodyTurn.map : BodyTurn Member → BodyTurn Member
  | .goes state => .goes (state.map change)
  | .ends members => .ends (members.map change)

theorem BodyState.members_map (state : BodyState Member) :
    (state.map change).members = state.members.map change := by
  cases state <;> rfl

/-- The rules take a renumbered line as the line itself, with renumbered members. -/
structure BodyRules.Carries (rules : BodyRules Member) : Prop where
  header : ∀ line, rules.header (line.renumber numbering) = (rules.header line).map change
  pending : ∀ balance line,
    rules.pending balance (line.renumber numbering) = (rules.pending balance line).map change
  inside : ∀ balance register line, rules.inside balance register (line.renumber numbering) =
    ((rules.inside balance register line).1.map change, (rules.inside balance register line).2)

namespace BodyRules.Carries

variable {numbering} {change} {rules : BodyRules Member} (carries : rules.Carries numbering change)

include carries

theorem step (state : BodyState Member) (line : Line) :
    rules.step (state.map change) (line.renumber numbering) = (rules.step state line).map change := by
  cases state with
  | pending balance => exact carries.pending balance line
  | inside balance reader members =>
      have text : (line.renumber numbering).text = line.text := rfl
      simp only [BodyState.map, BodyRules.step, text]
      cases reader.read? line.text with
      | some next => rfl
      | none =>
          simp only [BodyRules.stepInside, carries.inside]
          rcases rules.inside balance reader.register line with ⟨more, _ | ⟨after, next⟩⟩
          · simp only [BodyTurn.map, List.map_append]
          · simp only [BodyTurn.map, BodyState.map, List.map_append]

theorem finish (turn : BodyTurn Member) (lines : List Line) :
    rules.finish (turn.map change) (lines.map (Line.renumber numbering)) =
      ((rules.finish turn lines).1.map change,
        (rules.finish turn lines).2.map (Line.renumber numbering)) := by
  induction lines generalizing turn with
  | nil =>
      cases turn with
      | ends members => rfl
      | goes state =>
          change ((state.map change).members, _) = _
          rw [BodyState.members_map]
          rfl
  | cons line rest ih =>
      cases turn with
      | ends members => rfl
      | goes state =>
          change rules.run (state.map change)
            (line.renumber numbering :: rest.map (Line.renumber numbering)) =
              ((rules.run state (line :: rest)).1.map change,
                (rules.run state (line :: rest)).2.map (Line.renumber numbering))
          rw [BodyRules.run_cons, BodyRules.run_cons, carries.step]
          exact ih (rules.step state line)

theorem scan (first : Line) (rest : List Line) :
    rules.scan (first.renumber numbering) (rest.map (Line.renumber numbering)) =
      ((rules.scan first rest).1.map change,
        (rules.scan first rest).2.map (Line.renumber numbering)) := by
  unfold BodyRules.scan
  rw [carries.header]
  exact carries.finish (rules.header first) rest

end BodyRules.Carries

end Bodies

theorem pendingAggregateTurn_renumber (balance : Int) (line : Line) :
    pendingAggregateTurn balance (line.renumber numbering) =
      (pendingAggregateTurn balance line).map (AggregateMember.renumber numbering.document) := by
  simp only [pendingAggregateTurn, Line.renumber, ← numbering.agrees, inlineMembers_renumber]
  by_cases opens : opensBrace (codeOf line.text) = true
  · by_cases closed : balance + braceDelta (codeOf line.text) ≤ 0
    · simp only [opens, closed, if_true, BodyTurn.map]
    · simp only [opens, closed, if_true, if_false, BodyTurn.map, BodyState.map]
  · by_cases ends : Text.endsWith ';' (codeOf line.text) = true
    · simp only [opens, ends, Bool.false_eq_true, if_false, if_true, BodyTurn.map, List.map_nil]
    · simp only [opens, ends, Bool.false_eq_true, if_false, BodyTurn.map, BodyState.map]

theorem aggregateRules_carries :
    aggregateRules.Carries numbering (AggregateMember.renumber numbering.document) := by
  constructor
  · exact pendingAggregateTurn_renumber numbering 0
  · exact pendingAggregateTurn_renumber numbering
  · intro balance register line
    simp only [aggregateRules, insideAggregate, Line.renumber, memberOfLine_renumber,
      ← numbering.agrees, inlineMembers_renumber]
    by_cases closes : closesBody (balance + braceDelta (splitLineComment line.text).1)
        (braceDelta (splitLineComment line.text).1) (splitLineComment line.text).1 = true
    · simp only [closes, if_true]
      by_cases level : balance = 1
      · simp only [level, if_true]
      · simp only [level, if_false, List.map_nil]
    · simp only [closes, Bool.false_eq_true, if_false]

theorem enumTurn_map (balance : Int) (closed : Bool) (found : List EnumMemberDoc × CommentRegister)
    (change : EnumMemberDoc → EnumMemberDoc) :
    enumTurn balance closed (found.1.map change, found.2) =
      (enumTurn balance closed found).map change := by
  cases closed <;> rfl

theorem enumRules_carries :
    enumRules.Carries numbering (EnumMemberDoc.renumber numbering.document) := by
  constructor
  · intro line
    simp only [enumRules, enumHeaderTurn, Line.renumber, ← numbering.agrees,
      attachMembers_renumber]
    by_cases opens : opensBrace (splitLineComment line.text).1 = true
    · simp only [opens, if_true]
      rw [← enumTurn_map]
      congr 1
      split <;> rfl
    · by_cases ends : Text.endsWith ';' (splitLineComment line.text).1 = true
      · simp only [opens, ends, Bool.false_eq_true, if_false, if_true, BodyTurn.map, List.map_nil]
      · simp only [opens, ends, Bool.false_eq_true, if_false, BodyTurn.map, BodyState.map]
  · intro balance line
    simp only [enumRules, pendingEnumTurn, Line.renumber, membersOfLine_renumber]
    by_cases opens : opensBrace (splitLineComment line.text).1 = true
    · simp only [opens, if_true, enumTurn_map]
    · by_cases ends : Text.endsWith ';' (splitLineComment line.text).1 = true
      · simp only [opens, ends, Bool.false_eq_true, if_false, if_true, BodyTurn.map, List.map_nil]
      · simp only [opens, ends, Bool.false_eq_true, if_false, BodyTurn.map, BodyState.map]
  · intro balance register line
    simp only [enumRules, insideEnum, Line.renumber, membersOfLine_renumber]

/-! ### Modules -/

def ContainerScope.renumber (scope : ContainerScope) : ContainerScope :=
  { scope with number := numbering.line scope.number }

def WalkMode.renumber : WalkMode → WalkMode
  | .module reader => .module reader
  | .skipping register balance opened unclosed => .skipping register balance opened unclosed
  | .aggregate kind scope state =>
      .aggregate kind (scope.renumber numbering)
        (state.map (AggregateMember.renumber numbering.document))
  | .enum scope state =>
      .enum (scope.renumber numbering) (state.map (EnumMemberDoc.renumber numbering.document))

namespace ContainerScope

theorem aggregate_renumber (scope : ContainerScope) (kind : AggregateKind)
    (members : List AggregateMember) :
    (scope.renumber numbering).aggregate kind
        (members.map (AggregateMember.renumber numbering.document)) =
      (scope.aggregate kind members).map (ModuleEntry.renumber numbering.document) := by
  unfold aggregate
  by_cases anonymous : scope.name.isEmpty = true
  · simp [anonymous, renumber]
  · simp only [anonymous, renumber, ModuleEntry.renumber, AggregateDoc.renumber, List.filterMap_map,
      List.map_filterMap, Function.comp_def, method?_renumber, field?_renumber, numbering.agrees,
      Bool.false_eq_true, if_false, List.map_cons, List.map_nil]

theorem enum_renumber (scope : ContainerScope) (members : List EnumMemberDoc) :
    (scope.renumber numbering).enum (members.map (EnumMemberDoc.renumber numbering.document)) =
      (scope.enum members).map (ModuleEntry.renumber numbering.document) := by
  unfold enum
  by_cases anonymous : scope.name.isEmpty = true
  · simp [anonymous, renumber]
  · simp [anonymous, renumber, ModuleEntry.renumber, EnumDoc.renumber, numbering.agrees]

end ContainerScope

namespace ModuleWalk

def renumber (walk : ModuleWalk) : ModuleWalk :=
  ⟨walk.recorded.map (ModuleEntry.renumber numbering.document), walk.mode.renumber numbering⟩

theorem entries_renumber (walk : ModuleWalk) :
    (walk.renumber numbering).entries =
      walk.entries.map (ModuleEntry.renumber numbering.document) := by
  obtain ⟨recorded, mode⟩ := walk
  unfold renumber entries
  rw [List.map_append]
  congr 1
  cases mode with
  | module reader => rfl
  | skipping register balance opened unclosed => rfl
  | aggregate kind scope state =>
      simp only [WalkMode.renumber, BodyState.members_map, ContainerScope.aggregate_renumber]
  | enum scope state =>
      simp only [WalkMode.renumber, BodyState.members_map, ContainerScope.enum_renumber]

theorem skip_renumber (recorded : List ModuleEntry) (register : CommentRegister) (balance : Int)
    (opened : Bool) :
    skip (recorded.map (ModuleEntry.renumber numbering.document)) register balance opened =
      (skip recorded register balance opened).renumber numbering := by
  unfold skip
  by_cases unclosed : opened = true → 0 < balance
  · rw [dif_pos unclosed, dif_pos unclosed]
    rfl
  · rw [dif_neg unclosed, dif_neg unclosed]
    rfl

theorem skipFrom_renumber (recorded : List ModuleEntry) (register : CommentRegister) (first : Line) :
    skipFrom (recorded.map (ModuleEntry.renumber numbering.document)) register
        (first.renumber numbering) =
      (skipFrom recorded register first).renumber numbering := by
  unfold skipFrom
  simp only [Line.renumber, skip_renumber]
  by_cases ends : (!opensBrace first.text && endsStatement first.text) = true
  · rw [if_pos ends, if_pos ends]
    rfl
  · rw [if_neg ends, if_neg ends]

theorem inAggregate_renumber (recorded : List ModuleEntry) (kind : AggregateKind)
    (scope : ContainerScope) (turn : BodyTurn AggregateMember) :
    inAggregate (recorded.map (ModuleEntry.renumber numbering.document)) kind
        (scope.renumber numbering) (turn.map (AggregateMember.renumber numbering.document)) =
      (inAggregate recorded kind scope turn).renumber numbering := by
  cases turn with
  | goes state => rfl
  | ends members =>
      simp only [inAggregate, BodyTurn.map, ContainerScope.aggregate_renumber, ← List.map_append]
      rfl

theorem inEnum_renumber (recorded : List ModuleEntry) (scope : ContainerScope)
    (turn : BodyTurn EnumMemberDoc) :
    inEnum (recorded.map (ModuleEntry.renumber numbering.document)) (scope.renumber numbering)
        (turn.map (EnumMemberDoc.renumber numbering.document)) =
      (inEnum recorded scope turn).renumber numbering := by
  cases turn with
  | goes state => rfl
  | ends members =>
      simp only [inEnum, BodyTurn.map, ContainerScope.enum_renumber, ← List.map_append]
      rfl

theorem code_renumber (recorded : List ModuleEntry) (register : CommentRegister) (line : Line) :
    code (recorded.map (ModuleEntry.renumber numbering.document)) register
        (line.renumber numbering) =
      (code recorded register line).renumber numbering := by
  have text : (line.renumber numbering).text = line.text := rfl
  have number : (line.renumber numbering).number = numbering.line line.number := rfl
  unfold code
  simp only [text, number, lineRecord_renumber, ← List.map_append]
  cases codeKind (splitLineComment line.text).1 with
  | plain => rfl
  | bodied => exact skipFrom_renumber numbering _ _ line
  | container header =>
      simp only [inContainer]
      cases header.kind with
      | enum =>
          simp only [(enumRules_carries numbering).header]
          exact inEnum_renumber numbering recorded ⟨header.name, register, line.number⟩ _
      | aggregate kind =>
          simp only [(aggregateRules_carries numbering).header]
          exact inAggregate_renumber numbering recorded kind ⟨header.name, register, line.number⟩ _

theorem step_renumber (walk : ModuleWalk) (line : Line) :
    (walk.renumber numbering).step (line.renumber numbering) = (walk.step line).renumber numbering := by
  obtain ⟨recorded, mode⟩ := walk
  have text : (line.renumber numbering).text = line.text := rfl
  cases mode with
  | module reader =>
      simp only [renumber, WalkMode.renumber, step, text]
      cases reader.read? line.text with
      | some next => rfl
      | none => exact code_renumber numbering recorded reader.register line
  | skipping register balance opened unclosed =>
      simp only [renumber, WalkMode.renumber, step, text]
      by_cases ends : (!opened && endsStatement line.text) = true
      · rw [if_pos ends, if_pos ends]
      · rw [if_neg ends, if_neg ends]
        exact skip_renumber numbering recorded register _ _
  | aggregate kind scope state =>
      simp only [renumber, WalkMode.renumber, step, (aggregateRules_carries numbering).step]
      exact inAggregate_renumber numbering recorded kind scope _
  | enum scope state =>
      simp only [renumber, WalkMode.renumber, step, (enumRules_carries numbering).step]
      exact inEnum_renumber numbering recorded scope _

theorem read_renumber (walk : ModuleWalk) (lines : List Line) :
    (walk.renumber numbering).read (lines.map (Line.renumber numbering)) =
      (walk.read lines).renumber numbering := by
  induction lines generalizing walk with
  | nil => rfl
  | cons line rest ih =>
      rw [List.map_cons, read_cons, step_renumber, ih, read_cons]

end ModuleWalk

/-- Renumbered lines give the same entries with moved numbers. -/
theorem moduleEntries_renumber (register : CommentRegister) (lines : List Line) :
    moduleEntries register (lines.map (Line.renumber numbering)) =
      (moduleEntries register lines).map (ModuleEntry.renumber numbering.document) := by
  have moved := ModuleWalk.entries_read [] register (lines.map (Line.renumber numbering))
  have plain := ModuleWalk.entries_read [] register lines
  rw [List.nil_append] at moved plain
  rw [← moved, ← plain, ← ModuleWalk.entries_renumber, ← ModuleWalk.read_renumber]
  rfl

end DocSite
