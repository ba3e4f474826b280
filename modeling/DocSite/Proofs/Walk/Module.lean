/-
Modules, one line at a time.

The walk over a module calls a scan wherever a comment, a container or a body begins, and goes on behind it.
Here the same walk takes one line after the other, and its state says which scan it is in. The main statement
says that the entries of a module are what this walk has recorded at the end, an unfinished container
included. What the walk has read therefore never depends on the lines that follow.
-/
import DocSite.Proofs.Walk.Body

namespace DocSite

/-! ### Kinds of lines -/

inductive CodeKind where
  | plain
  | bodied
  | container (header : ContainerHeader)
  deriving DecidableEq

def codeKind (code : Text) : CodeKind :=
  if isFiller code || (moduleName? code).isSome || isImport code then .plain
  else
    match matchHeader? code with
    | some header => .container header
    | none => if opensSkippedBlock code || isFunction code then .bodied else .plain

def lineRecord (register : CommentRegister) (code trailing : Text) (number : Nat) :
    List ModuleEntry × CommentRegister :=
  if isFiller code then ([], register)
  else
    match moduleName? code with
    | some name =>
        let (comments, next) := register.attachWith trailing
        ([.moduleName name comments], next)
    | none =>
        if isImport code then ([.importLine code], register.discard)
        else if opensSkippedBlock code then ([], register.discard)
        else if isFunction code then
          let (comments, next) := register.attachWith trailing
          (((parseFunction? code comments number).map ModuleEntry.function).toList, next)
        else ([], register.discard)

theorem stepCode_eq (register : CommentRegister) (first : Line) (rest : List Line) :
    stepCode register first rest =
      let (code, trailing) := splitLineComment first.text
      let (entries, next) := lineRecord register code trailing first.number
      match codeKind code with
      | .container header => stepContainer header register first rest
      | .bodied => ⟨entries, next, skipBody first rest⟩
      | .plain => ⟨entries, next, rest⟩ := by
  unfold codeKind stepCode lineRecord
  simp only
  by_cases filler : isFiller (splitLineComment first.text).1 = true
  · simp [filler]
  cases named : moduleName? (splitLineComment first.text).1 with
  | some name => simp [filler]
  | none =>
      by_cases imported : isImport (splitLineComment first.text).1 = true
      · simp [filler, imported]
      cases headed : matchHeader? (splitLineComment first.text).1 with
      | some header => simp [filler, imported]
      | none =>
          by_cases skipped : opensSkippedBlock (splitLineComment first.text).1 = true
          · simp [filler, imported, skipped]
          by_cases signature : isFunction (splitLineComment first.text).1 = true
          · simp [filler, imported, skipped, signature]
          · simp [filler, imported, skipped, signature]

/-! ### States -/

structure ContainerScope where
  name : Text
  register : CommentRegister
  number : Nat
  deriving DecidableEq

namespace ContainerScope

def after (scope : ContainerScope) : CommentRegister :=
  if scope.name.isEmpty then scope.register.discard else scope.register.attach.2

def aggregate (scope : ContainerScope) (kind : AggregateKind) (members : List AggregateMember) :
    List ModuleEntry :=
  if scope.name.isEmpty then []
  else
    [.aggregate { name := scope.name, kind := kind, comments := scope.register.pending
                  methods := members.filterMap AggregateMember.method?
                  fields := members.filterMap AggregateMember.field?
                  line := scope.number }]

def enum (scope : ContainerScope) (members : List EnumMemberDoc) : List ModuleEntry :=
  if scope.name.isEmpty then []
  else
    [.enum { name := scope.name, comments := scope.register.pending, members := members
             line := scope.number }]

end ContainerScope

/-- Which scan a walk is in. A body that is skipped and has opened is not closed yet. -/
inductive WalkMode where
  | module (reader : CommentReader)
  | skipping (register : CommentRegister) (balance : Int) (opened : Bool)
      (unclosed : opened = true → 0 < balance)
  | aggregate (kind : AggregateKind) (scope : ContainerScope) (state : BodyState AggregateMember)
  | enum (scope : ContainerScope) (state : BodyState EnumMemberDoc)
  deriving DecidableEq

structure ModuleWalk where
  recorded : List ModuleEntry
  mode : WalkMode
  deriving DecidableEq

namespace ModuleWalk

abbrev between (recorded : List ModuleEntry) (register : CommentRegister) : ModuleWalk :=
  ⟨recorded, .module (.idle register)⟩

def start : ModuleWalk := between [] .empty

def entries (walk : ModuleWalk) : List ModuleEntry :=
  walk.recorded ++
    match walk.mode with
    | .module _ => []
    | .skipping _ _ _ _ => []
    | .aggregate kind scope state => scope.aggregate kind state.members
    | .enum scope state => scope.enum state.members

def skip (recorded : List ModuleEntry) (register : CommentRegister) (balance : Int)
    (opened : Bool) : ModuleWalk :=
  if unclosed : opened = true → 0 < balance then
    ⟨recorded, .skipping register balance opened unclosed⟩
  else between recorded register

/-- The walk behind the first line of a declaration whose body is skipped. -/
def skipFrom (recorded : List ModuleEntry) (register : CommentRegister) (first : Line) :
    ModuleWalk :=
  if !opensBrace first.text && endsStatement first.text then between recorded register
  else skip recorded register (braceDelta first.text) (opensBrace first.text)

def inAggregate (recorded : List ModuleEntry) (kind : AggregateKind) (scope : ContainerScope) :
    BodyTurn AggregateMember → ModuleWalk
  | .goes state => ⟨recorded, .aggregate kind scope state⟩
  | .ends members => between (recorded ++ scope.aggregate kind members) scope.after

def inEnum (recorded : List ModuleEntry) (scope : ContainerScope) :
    BodyTurn EnumMemberDoc → ModuleWalk
  | .goes state => ⟨recorded, .enum scope state⟩
  | .ends members => between (recorded ++ scope.enum members) scope.after

def inContainer (recorded : List ModuleEntry) (register : CommentRegister) (line : Line)
    (header : ContainerHeader) : ModuleWalk :=
  match header.kind with
  | .enum => inEnum recorded ⟨header.name, register, line.number⟩ (enumRules.header line)
  | .aggregate kind =>
      inAggregate recorded kind ⟨header.name, register, line.number⟩ (aggregateRules.header line)

def code (recorded : List ModuleEntry) (register : CommentRegister) (line : Line) : ModuleWalk :=
  let (code, trailing) := splitLineComment line.text
  let (entries, next) := lineRecord register code trailing line.number
  match codeKind code with
  | .container header => inContainer recorded register line header
  | .bodied => skipFrom (recorded ++ entries) next line
  | .plain => between (recorded ++ entries) next

def step (walk : ModuleWalk) (line : Line) : ModuleWalk :=
  match walk.mode with
  | .module reader =>
      match reader.read? line.text with
      | some next => ⟨walk.recorded, .module next⟩
      | none => code walk.recorded reader.register line
  | .skipping register balance opened _ =>
      if !opened && endsStatement line.text then between walk.recorded register
      else skip walk.recorded register (balance + braceDelta line.text)
        (opened || opensBrace line.text)
  | .aggregate kind scope state =>
      inAggregate walk.recorded kind scope (aggregateRules.step state line)
  | .enum scope state => inEnum walk.recorded scope (enumRules.step state line)

def read (walk : ModuleWalk) (lines : List Line) : ModuleWalk :=
  lines.foldl step walk

theorem read_cons (walk : ModuleWalk) (line : Line) (rest : List Line) :
    walk.read (line :: rest) = (walk.step line).read rest := rfl

theorem step_read {reader next : CommentReader} {line : Line}
    (reads : reader.read? line.text = some next) (recorded : List ModuleEntry) :
    step ⟨recorded, .module reader⟩ line = ⟨recorded, .module next⟩ := by
  simp only [step, reads]

theorem step_code {reader : CommentReader} {line : Line} (ignored : reader.read? line.text = none)
    (recorded : List ModuleEntry) :
    step ⟨recorded, .module reader⟩ line = code recorded reader.register line := by
  simp only [step, ignored]

theorem read_append (walk : ModuleWalk) (front rest : List Line) :
    walk.read (front ++ rest) = (walk.read front).read rest :=
  List.foldl_append

@[simp] theorem entries_between (recorded : List ModuleEntry) (register : CommentRegister) :
    (between recorded register).entries = recorded :=
  List.append_nil recorded

/-! ### Scans on the way -/

/-- A walk is back between two declarations where `remaining` begins. At the end of the lines it may also be
in a scan that has recorded the same. -/
def ReturnsAt (walk : ModuleWalk) (lines remaining : List Line) (recorded : List ModuleEntry)
    (register : CommentRegister) : Prop :=
  ∃ front, lines = front ++ remaining ∧
    (walk.read front = between recorded register ∨
      remaining = [] ∧ (walk.read front).entries = recorded)

section Return

variable {walk : ModuleWalk} {lines remaining : List Line} {recorded : List ModuleEntry}
  {register : CommentRegister}

theorem returnsAt_here (recorded : List ModuleEntry) (register : CommentRegister)
    (lines : List Line) : (between recorded register).ReturnsAt lines lines recorded register :=
  ⟨[], rfl, .inl rfl⟩

theorem ReturnsAt.cons {line : Line}
    (returns : (walk.step line).ReturnsAt lines remaining recorded register) :
    walk.ReturnsAt (line :: lines) remaining recorded register := by
  obtain ⟨front, split, ends⟩ := returns
  exact ⟨line :: front, congrArg (List.cons line) split, ends⟩

theorem ReturnsAt.entries_read (returns : walk.ReturnsAt lines remaining recorded register) :
    (walk.read lines).entries = ((between recorded register).read remaining).entries := by
  obtain ⟨front, split, back | ⟨atEnd, same⟩⟩ := returns
  · rw [split, read_append, back]
  · rw [split, atEnd, List.append_nil, same]
    exact (entries_between recorded register).symm

theorem ReturnsAt.read_eq (returns : walk.ReturnsAt lines remaining recorded register)
    (further : remaining ≠ []) :
    ∃ front, lines = front ++ remaining ∧ walk.read front = between recorded register := by
  obtain ⟨front, split, back | ⟨atEnd, _⟩⟩ := returns
  · exact ⟨front, split, back⟩
  · exact absurd atEnd further

end Return

theorem closed_iff (balance : Int) (opened : Bool) :
    (opened && decide (balance ≤ 0)) = true ↔ ¬(opened = true → 0 < balance) := by
  cases opened <;> simp

theorem returnsAt_skip (recorded : List ModuleEntry) (register : CommentRegister) (balance : Int)
    (opened : Bool) (lines : List Line) :
    (skip recorded register balance opened).ReturnsAt lines
      (if opened && decide (balance ≤ 0) then lines else skipOpenBody balance opened lines)
      recorded register := by
  induction lines generalizing balance opened with
  | nil =>
      unfold skip
      by_cases unclosed : opened = true → 0 < balance
      · rw [dif_pos unclosed, if_neg fun closed => (closed_iff balance opened).mp closed unclosed]
        exact ⟨[], rfl, .inr ⟨rfl, List.append_nil recorded⟩⟩
      · rw [dif_neg unclosed, if_pos ((closed_iff balance opened).mpr unclosed)]
        exact returnsAt_here recorded register []
  | cons line rest ih =>
      rw [skip]
      by_cases unclosed : opened = true → 0 < balance
      · rw [dif_pos unclosed, if_neg fun closed => (closed_iff balance opened).mp closed unclosed]
        apply ReturnsAt.cons
        simp only [step, skipOpenBody]
        by_cases ends : (!opened && endsStatement line.text) = true
        · rw [if_pos ends, if_pos ends]
          exact returnsAt_here recorded register rest
        · rw [if_neg ends, if_neg ends]
          exact ih _ _
      · rw [dif_neg unclosed, if_pos ((closed_iff balance opened).mpr unclosed)]
        exact returnsAt_here recorded register (line :: rest)

theorem returnsAt_skipFrom (recorded : List ModuleEntry) (register : CommentRegister) (first : Line)
    (rest : List Line) :
    (skipFrom recorded register first).ReturnsAt rest (skipBody first rest) recorded register := by
  unfold skipFrom skipBody
  by_cases ends : (!opensBrace first.text && endsStatement first.text) = true
  · rw [if_pos ends, if_pos ends]
    exact returnsAt_here recorded register rest
  · rw [if_neg ends, if_neg ends]
    exact returnsAt_skip recorded register _ _ rest

/-- A walk that hosts the walk over a container is back where that one ends. -/
theorem returnsAt_hosted {Member : Type} (rules : BodyRules Member)
    (host : BodyTurn Member → ModuleWalk) (record : List Member → List ModuleEntry)
    {recorded : List ModuleEntry} {after : CommentRegister}
    (ends : ∀ members, host (.ends members) = between (recorded ++ record members) after)
    (steps : ∀ state line, (host (.goes state)).step line = host (rules.step state line))
    (unfinished : ∀ state, (host (.goes state)).entries = recorded ++ record state.members)
    (turn : BodyTurn Member) (lines : List Line) :
    (host turn).ReturnsAt lines (rules.finish turn lines).2
      (recorded ++ record (rules.finish turn lines).1) after := by
  induction lines generalizing turn with
  | nil =>
      cases turn with
      | ends members =>
          rw [ends]
          exact returnsAt_here _ after []
      | goes state => exact ⟨[], rfl, .inr ⟨rfl, unfinished state⟩⟩
  | cons line rest ih =>
      cases turn with
      | ends members =>
          rw [ends]
          exact returnsAt_here _ after (line :: rest)
      | goes state =>
          apply ReturnsAt.cons
          rw [steps]
          change ReturnsAt _ _ (rules.run state (line :: rest)).2
            (recorded ++ record (rules.run state (line :: rest)).1) after
          rw [BodyRules.run_cons]
          exact ih (rules.step state line)

theorem returnsAt_container (recorded : List ModuleEntry) (header : ContainerHeader)
    (register : CommentRegister) (first : Line) (rest : List Line) :
    (inContainer recorded register first header).ReturnsAt rest
      (stepContainer header register first rest).remaining
      (recorded ++ (stepContainer header register first rest).entries)
      (stepContainer header register first rest).register := by
  unfold inContainer stepContainer
  cases header.kind with
  | enum =>
      have hosted := returnsAt_hosted enumRules (inEnum recorded ⟨header.name, register, first.number⟩)
        (ContainerScope.enum ⟨header.name, register, first.number⟩) (fun members => rfl)
        (fun state line => rfl) (fun state => rfl) (enumRules.header first) rest
      have scanned : enumRules.finish (enumRules.header first) rest = enumBody first rest :=
        scan_enumRules first rest
      rw [scanned] at hosted
      unfold scanEnum
      by_cases anonymous : header.name.isEmpty = true
      · simpa [ContainerScope.enum, ContainerScope.after, anonymous] using hosted
      · simpa [ContainerScope.enum, ContainerScope.after, anonymous] using hosted
  | aggregate kind =>
      have hosted := returnsAt_hosted aggregateRules
        (inAggregate recorded kind ⟨header.name, register, first.number⟩)
        (ContainerScope.aggregate ⟨header.name, register, first.number⟩ kind) (fun members => rfl)
        (fun state line => rfl) (fun state => rfl) (aggregateRules.header first) rest
      have scanned : aggregateRules.finish (aggregateRules.header first) rest =
          aggregateBody first rest := scan_aggregateRules first rest
      rw [scanned] at hosted
      unfold scanAggregate
      by_cases anonymous : header.name.isEmpty = true
      · simpa [ContainerScope.aggregate, ContainerScope.after, anonymous] using hosted
      · simpa [ContainerScope.aggregate, ContainerScope.after, anonymous] using hosted

theorem returnsAt_code (recorded : List ModuleEntry) (register : CommentRegister) (first : Line)
    (rest : List Line) :
    (code recorded register first).ReturnsAt rest (stepCode register first rest).remaining
      (recorded ++ (stepCode register first rest).entries)
      (stepCode register first rest).register := by
  rw [stepCode_eq]
  unfold code
  simp only
  cases codeKind (splitLineComment first.text).1 with
  | plain => exact returnsAt_here _ _ rest
  | bodied => exact returnsAt_skipFrom _ _ first rest
  | container header => exact returnsAt_container recorded header register first rest

theorem read_readAll? {reader next : CommentReader} {front : List Line}
    (reads : reader.readAll? front = some next) (recorded : List ModuleEntry) :
    read ⟨recorded, .module reader⟩ front = ⟨recorded, .module next⟩ := by
  induction front generalizing reader with
  | nil =>
      cases reads
      rfl
  | cons line front ih =>
      rw [CommentReader.readAll?] at reads
      obtain ⟨after, here, further⟩ := Option.bind_eq_some_iff.mp reads
      rw [read_cons, step_read here]
      exact ih further

theorem returnsAt_comment {register next : CommentRegister} {line : Line} {rest remaining : List Line}
    (consumed : register.consume? line rest = some (next, remaining))
    (recorded : List ModuleEntry) :
    (between recorded register).ReturnsAt (line :: rest) remaining recorded next := by
  obtain ⟨front, reader, split, reads, ends⟩ := CommentReader.consume?_read consumed
  have behind := read_readAll? reads recorded
  refine ⟨line :: front, congrArg (List.cons line) split, ?_⟩
  rcases ends with closed | atEnd
  · rw [closed] at behind
    exact .inl behind
  · refine .inr ⟨atEnd, ?_⟩
    rw [behind]
    exact List.append_nil recorded

theorem returnsAt_ignored {register : CommentRegister} {line : Line} {rest : List Line}
    (ignored : register.consume? line rest = none) (recorded : List ModuleEntry) :
    (between recorded register).ReturnsAt (line :: rest) (stepCode register line rest).remaining
      (recorded ++ (stepCode register line rest).entries)
      (stepCode register line rest).register := by
  apply ReturnsAt.cons
  rw [step_code ((CommentReader.read?_idle_eq_none_iff register line rest).mpr ignored)]
  exact returnsAt_code recorded register line rest

/-! ### The whole walk -/

theorem entries_read (recorded : List ModuleEntry) (register : CommentRegister)
    (lines : List Line) :
    ((between recorded register).read lines).entries =
      recorded ++ moduleEntries register lines := by
  -- Each turn of the loop is a stretch of single steps, which the scans above bring back between declarations.
  induction measured : lines.length using Nat.strongRecOn
    generalizing recorded register lines with
  | ind size ih =>
      subst measured
      cases lines with
      | nil =>
          rw [moduleEntries]
          rfl
      | cons line rest =>
          cases found : register.consume? line rest with
          | some turn =>
              obtain ⟨next, remaining⟩ := turn
              have shorter := CommentRegister.consume?_length_le found
              rw [moduleEntries_consumed found, (returnsAt_comment found recorded).entries_read]
              exact ih remaining.length (Nat.lt_succ_of_le shorter) recorded next remaining rfl
          | none =>
              have shorter := stepCode_length_le register line rest
              rw [moduleEntries_ignored found, (returnsAt_ignored found recorded).entries_read,
                ih _ (Nat.lt_succ_of_le shorter) _ _ _ rfl, List.append_assoc]

/-- The entries of a module are those of the walk that takes one line after the other. -/
theorem moduleEntries_eq_read (lines : List Line) :
    moduleEntries .empty lines = (start.read lines).entries :=
  (entries_read [] .empty lines).symm

end ModuleWalk

/-! ### Turns of the module's own loop -/

/-- The loop over a module comes from a register and lines to a later register and the lines that are left,
and records entries in between. -/
inductive Reaches : CommentRegister → List Line → List ModuleEntry → CommentRegister → List Line →
    Prop where
  | start (register : CommentRegister) (lines : List Line) : Reaches register lines [] register lines
  | comment {register next reached : CommentRegister} {line : Line} {rest remaining behind : List Line}
      {entries : List ModuleEntry}
      (consumed : register.consume? line rest = some (next, remaining))
      (further : Reaches next remaining entries reached behind) :
      Reaches register (line :: rest) entries reached behind
  | code {register reached : CommentRegister} {line : Line} {rest behind : List Line}
      {entries : List ModuleEntry} (ignored : register.consume? line rest = none)
      (further : Reaches (stepCode register line rest).register
        (stepCode register line rest).remaining entries reached behind) :
      Reaches register (line :: rest) ((stepCode register line rest).entries ++ entries) reached behind

namespace Reaches

variable {register reached : CommentRegister} {entries : List ModuleEntry}
  {lines behind : List Line}

/-- One turn of the loop and the turns behind it, told of the walk line by line. -/
theorem read_eq_of_turn {next : CommentRegister} {turn : List ModuleEntry} {remaining : List Line}
    (further : behind ≠ [])
    (returns : ∀ recorded, (ModuleWalk.between recorded register).ReturnsAt lines remaining
      (recorded ++ turn) next)
    (later : ∃ back, remaining = back ++ behind ∧ ∀ recorded,
      (ModuleWalk.between recorded next).read back = ModuleWalk.between (recorded ++ entries) reached) :
    ∃ front, lines = front ++ behind ∧ ∀ recorded,
      (ModuleWalk.between recorded register).read front =
        ModuleWalk.between (recorded ++ (turn ++ entries)) reached := by
  obtain ⟨back, split, reads⟩ := later
  have goesOn : remaining ≠ [] := by
    rw [split]
    exact List.append_ne_nil_of_right_ne_nil back further
  obtain ⟨front, splitLines, _⟩ := (returns []).read_eq goesOn
  refine ⟨front ++ back, by rw [splitLines, split, List.append_assoc], ?_⟩
  intro recorded
  obtain ⟨others, again, arrives⟩ := (returns recorded).read_eq goesOn
  have same : others = front := List.append_cancel_right (again.symm.trans splitLines)
  rw [ModuleWalk.read_append, ← same, arrives, reads, List.append_assoc]

/-- Where the loop arrives in front of a line, the walk line by line stands between two declarations. -/
theorem read_eq (reaches : Reaches register lines entries reached behind) (further : behind ≠ []) :
    ∃ front, lines = front ++ behind ∧ ∀ recorded,
      (ModuleWalk.between recorded register).read front =
        ModuleWalk.between (recorded ++ entries) reached := by
  induction reaches with
  | start register lines =>
      refine ⟨[], rfl, ?_⟩
      intro recorded
      rw [List.append_nil]
      rfl
  | @comment register next reached line rest remaining behind entries consumed later ih =>
      have returns (recorded : List ModuleEntry) : (ModuleWalk.between recorded register).ReturnsAt
          (line :: rest) remaining (recorded ++ []) next := by
        rw [List.append_nil]
        exact ModuleWalk.returnsAt_comment consumed recorded
      exact read_eq_of_turn further returns (ih further)
  | code ignored later ih =>
      exact read_eq_of_turn further (ModuleWalk.returnsAt_ignored ignored) (ih further)

/-- What is recorded on the way does not depend on the lines that are left. -/
theorem moduleEntries_eq {front : List Line}
    (reaches : Reaches register (front ++ behind) entries reached behind) (further : behind ≠ [])
    (others : List Line) :
    moduleEntries register (front ++ others) = entries ++ moduleEntries reached others := by
  obtain ⟨same, split, reads⟩ := reaches.read_eq further
  cases List.append_cancel_right split
  have whole := ModuleWalk.entries_read [] register (front ++ others)
  rw [ModuleWalk.read_append, reads, ModuleWalk.entries_read] at whole
  exact whole.symm

end Reaches
end DocSite
