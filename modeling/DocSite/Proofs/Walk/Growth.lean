/-
Walks that read on.

The walk line by line records the entries of what is finished and the members of the container that it is in,
so its entries at any line are those of the lines so far, wherever they stop: inside a comment, a container or
a body. One more line adds to them and changes nothing, and so do any more lines.
-/
import DocSite.Proofs.Doc.Growth
import DocSite.Proofs.Text.Lines
import DocSite.Proofs.Walk.Module

namespace DocSite

/-! ### Containers -/

def BodyTurn.members {Member : Type} : BodyTurn Member → List Member
  | .goes state => state.members
  | .ends members => members

/-- One more line leaves the members of a container in place. -/
theorem BodyRules.members_step {Member : Type} (rules : BodyRules Member) (state : BodyState Member)
    (line : Line) : state.members <+: (rules.step state line).members := by
  cases state with
  | pending balance => exact List.nil_prefix
  | inside balance reader members =>
      simp only [BodyRules.step]
      cases reader.read? line.text with
      | some next => exact List.prefix_refl members
      | none =>
          simp only [BodyRules.stepInside]
          rcases rules.inside balance reader.register line with ⟨more, _ | ⟨after, next⟩⟩
          · exact List.prefix_append members more
          · exact List.prefix_append members more

namespace ContainerScope

theorem aggregate_grown (scope : ContainerScope) (kind : AggregateKind)
    {earlier later : List AggregateMember} (more : earlier <+: later) :
    GrownEntries (scope.aggregate kind earlier) (scope.aggregate kind later) := by
  unfold aggregate
  by_cases anonymous : scope.name.isEmpty = true
  · rw [if_pos anonymous, if_pos anonymous]
    exact .nil []
  · rw [if_neg anonymous, if_neg anonymous]
    exact .cons (.aggregate ⟨rfl, rfl, rfl, rfl, more.filterMap _, more.filterMap _⟩) (.nil [])

theorem enum_grown (scope : ContainerScope) {earlier later : List EnumMemberDoc}
    (more : earlier <+: later) : GrownEntries (scope.enum earlier) (scope.enum later) := by
  unfold enum
  by_cases anonymous : scope.name.isEmpty = true
  · rw [if_pos anonymous, if_pos anonymous]
    exact .nil []
  · rw [if_neg anonymous, if_neg anonymous]
    exact .cons (.enum ⟨rfl, rfl, rfl, more⟩) (.nil [])

end ContainerScope

/-! ### One line -/

namespace ModuleWalk

theorem entries_skip (recorded : List ModuleEntry) (register : CommentRegister) (balance : Int)
    (opened : Bool) : (skip recorded register balance opened).entries = recorded := by
  unfold skip
  by_cases unclosed : opened = true → 0 < balance
  · rw [dif_pos unclosed]
    exact List.append_nil recorded
  · rw [dif_neg unclosed]
    exact entries_between recorded register

theorem entries_skipFrom (recorded : List ModuleEntry) (register : CommentRegister) (first : Line) :
    (skipFrom recorded register first).entries = recorded := by
  unfold skipFrom
  by_cases ends : (!opensBrace first.text && endsStatement first.text) = true
  · rw [if_pos ends]
    exact entries_between recorded register
  · rw [if_neg ends]
    exact entries_skip recorded register _ _

theorem entries_inAggregate (recorded : List ModuleEntry) (kind : AggregateKind)
    (scope : ContainerScope) (turn : BodyTurn AggregateMember) :
    (inAggregate recorded kind scope turn).entries =
      recorded ++ scope.aggregate kind turn.members := by
  cases turn with
  | goes state => rfl
  | ends members => exact entries_between _ _

theorem entries_inEnum (recorded : List ModuleEntry) (scope : ContainerScope)
    (turn : BodyTurn EnumMemberDoc) :
    (inEnum recorded scope turn).entries = recorded ++ scope.enum turn.members := by
  cases turn with
  | goes state => rfl
  | ends members => exact entries_between _ _

/-- A line of code at module scope adds entries behind the recorded ones. -/
theorem entries_code (recorded : List ModuleEntry) (register : CommentRegister) (line : Line) :
    ∃ added, (code recorded register line).entries = recorded ++ added := by
  unfold code
  simp only
  cases codeKind (splitLineComment line.text).1 with
  | plain => exact ⟨_, entries_between _ _⟩
  | bodied => exact ⟨_, entries_skipFrom _ _ line⟩
  | container header =>
      simp only [inContainer]
      cases header.kind with
      | enum => exact ⟨_, entries_inEnum recorded _ _⟩
      | aggregate kind => exact ⟨_, entries_inAggregate recorded kind _ _⟩

theorem step_grown (walk : ModuleWalk) (line : Line) :
    GrownEntries walk.entries (walk.step line).entries := by
  obtain ⟨recorded, mode⟩ := walk
  have behind {earlier later : List ModuleEntry} (grown : GrownEntries earlier later) :
      GrownEntries (recorded ++ earlier) (recorded ++ later) :=
    grown.append_left .same recorded
  cases mode with
  | module reader =>
      cases reads : reader.read? line.text with
      | some next =>
          rw [step_read reads]
          exact behind (.nil [])
      | none =>
          rw [step_code reads]
          obtain ⟨added, same⟩ := entries_code recorded reader.register line
          rw [same]
          exact behind (.nil added)
  | skipping register balance opened unclosed =>
      have finished : entries ⟨recorded, .skipping register balance opened unclosed⟩ = recorded :=
        List.append_nil recorded
      have kept : GrownEntries recorded recorded := Grown.refl ModuleEntry.GrowsTo.same recorded
      rw [finished]
      simp only [step]
      by_cases ends : (!opened && endsStatement line.text) = true
      · rwa [if_pos ends, entries_between]
      · rwa [if_neg ends, entries_skip]
  | aggregate kind scope state =>
      simp only [step, entries_inAggregate]
      exact behind (scope.aggregate_grown kind (aggregateRules.members_step state line))
  | enum scope state =>
      simp only [step, entries_inEnum]
      exact behind (scope.enum_grown (enumRules.members_step state line))

/-! ### More lines -/

theorem read_grown (walk : ModuleWalk) (lines : List Line) :
    GrownEntries walk.entries (walk.read lines).entries := by
  induction lines generalizing walk with
  | nil => exact .refl .same walk.entries
  | cons line rest ih =>
      rw [read_cons]
      exact .trans ModuleEntry.GrowsTo.trans (walk.step_grown line) (ih (walk.step line))

end ModuleWalk

/-- Lines behind other lines take nothing back that the first lines declare, and change nothing of it but the
members of a container that is still open. -/
theorem extractLines_grows (file : FilePath) (front behind : List Text) :
    (extractLines file (numberedLines 1 front)).GrowsTo
      (extractLines file (numberedLines 1 (front ++ behind))) := by
  unfold extractLines
  rw [ModuleWalk.moduleEntries_eq_read, ModuleWalk.moduleEntries_eq_read, numberedLines_append,
    ModuleWalk.read_append]
  exact (ModuleWalk.read_grown _ _).ofEntries file

end DocSite
