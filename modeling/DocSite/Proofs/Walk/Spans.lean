/-
Spans along a walk.

A walk that has read some lines has put everything it has recorded on these lines. The next line appends at most
one entry, all of it on that line, or adds members on that line to the container that the walk is in. So the
entries stay in order, and at the end of a source its declarations take up disjoint stretches of its lines.
-/
import DocSite.Proofs.Doc.Spans
import DocSite.Proofs.Walk.OpenComment
import DocSite.Proofs.Walk.Records

namespace DocSite

/-! ### Members on a line -/

def AggregateMember.line : AggregateMember → Int
  | .method declared => declared.line
  | .field declared => declared.line

theorem AggregateMember.DeclaredOn.number {line : Line} {member : AggregateMember}
    (on : member.DeclaredOn line) : member.line = line.number := by
  cases member with
  | method declared => exact FunctionDoc.DeclaredOn.number on
  | field declared => exact FieldDoc.DeclaredOn.number on

section Members

variable {members : List AggregateMember} {number : Int}

theorem methodLines_eq (all : ∀ member ∈ members, member.line = number) :
    ∀ line ∈ (members.filterMap AggregateMember.method?).map (·.line), line = number := by
  intro line listed
  obtain ⟨declared, inside, equal⟩ := List.mem_map.mp listed
  rw [← equal]
  exact all _ (AggregateMember.mem_of_mem_methods inside)

theorem fieldLines_eq (all : ∀ member ∈ members, member.line = number) :
    ∀ line ∈ (members.filterMap AggregateMember.field?).map (·.line), line = number := by
  intro line listed
  obtain ⟨declared, inside, equal⟩ := List.mem_map.mp listed
  rw [← equal]
  exact all _ (AggregateMember.mem_of_mem_fields inside)

end Members

/-! ### What a line adds -/

theorem ModuleEntry.AddedBy.freshOn {allowed : Text → Prop} {line : Line} {entry : ModuleEntry}
    (added : entry.AddedBy allowed line) : entry.FreshOn line.number := by
  cases entry with
  | moduleName name comments => exact ⟨nofun, nofun⟩
  | importLine declaration => exact ⟨nofun, nofun⟩
  | function declared =>
      refine ⟨?_, nofun⟩
      intro own here
      cases here
      exact added.1.number
  | aggregate declared => exact added.elim
  | enum declared => exact added.elim

structure AddsOn (line : Int) (added : List ModuleEntry) : Prop where
  single : added.length ≤ 1
  fresh : ∀ entry ∈ added, entry.FreshOn line

theorem AddsOn.growsOn {line : Int} {added : List ModuleEntry} (adds : AddsOn line added)
    (entries : List ModuleEntry) : GrowsOn line entries (entries ++ added) := by
  cases added with
  | nil =>
      rw [List.append_nil]
      exact .same entries
  | cons entry rest =>
      have nothing : rest = [] := List.length_eq_zero_iff.mp (Nat.le_zero.mp (Nat.le_of_succ_le_succ adds.single))
      rw [nothing]
      exact .entry entries (adds.fresh entry List.mem_cons_self)

namespace ContainerScope

variable (scope : ContainerScope)

/-- A container whose members stand on the line of its header. -/
theorem aggregate_addsOn (kind : AggregateKind) {members : List AggregateMember}
    (all : ∀ member ∈ members, member.line = scope.number) :
    AddsOn scope.number (scope.aggregate kind members) := by
  unfold aggregate
  split
  · exact ⟨Nat.zero_le 1, nofun⟩
  · refine ⟨Nat.le_refl 1, ?_⟩
    intro entry listed
    rw [List.mem_singleton.mp listed]
    refine ⟨?_, ?_⟩
    · intro own here
      cases here
      rfl
    · intro numbers among number inside
      refine ⟨?_, scope.number, rfl, rfl⟩
      rcases List.mem_cons.mp among with methods | fields
      · rw [methods] at inside
        exact methodLines_eq all number inside
      · rw [List.mem_singleton.mp fields] at inside
        exact fieldLines_eq all number inside

theorem enum_addsOn {members : List EnumMemberDoc}
    (all : ∀ member ∈ members, member.line = scope.number) :
    AddsOn scope.number (scope.enum members) := by
  unfold enum
  split
  · exact ⟨Nat.zero_le 1, nofun⟩
  · refine ⟨Nat.le_refl 1, ?_⟩
    intro entry listed
    rw [List.mem_singleton.mp listed]
    refine ⟨?_, ?_⟩
    · intro own here
      cases here
      rfl
    · intro numbers among number inside
      refine ⟨?_, scope.number, rfl, rfl⟩
      rw [List.mem_singleton.mp among] at inside
      obtain ⟨member, recorded, equal⟩ := List.mem_map.mp inside
      rw [← equal]
      exact all member recorded

theorem aggregate_growsOn (kind : AggregateKind) (recorded : List ModuleEntry) {line : Int}
    (members : List AggregateMember) {added : List AggregateMember}
    (all : ∀ member ∈ added, member.line = line) :
    GrowsOn line (recorded ++ scope.aggregate kind members)
      (recorded ++ scope.aggregate kind (members ++ added)) := by
  unfold aggregate
  by_cases anonymous : scope.name.isEmpty = true
  · rw [if_pos anonymous, if_pos anonymous]
    exact .same _
  · rw [if_neg anonymous, if_neg anonymous]
    refine .members recorded ⟨rfl, rfl, ?_⟩
    intro numbers among
    rcases List.mem_cons.mp among with methods | fields
    · refine ⟨_, List.mem_cons_self, _, ?_, methodLines_eq all⟩
      simp only [methods, List.filterMap_append, List.map_append]
    · refine ⟨_, List.mem_cons_of_mem _ List.mem_cons_self, _, ?_, fieldLines_eq all⟩
      simp only [List.mem_singleton.mp fields, List.filterMap_append, List.map_append]

theorem enum_growsOn (recorded : List ModuleEntry) {line : Int} (members : List EnumMemberDoc)
    {added : List EnumMemberDoc} (all : ∀ member ∈ added, member.line = line) :
    GrowsOn line (recorded ++ scope.enum members) (recorded ++ scope.enum (members ++ added)) := by
  unfold enum
  by_cases anonymous : scope.name.isEmpty = true
  · rw [if_pos anonymous, if_pos anonymous]
    exact .same _
  · rw [if_neg anonymous, if_neg anonymous]
    refine .members recorded ⟨rfl, rfl, ?_⟩
    intro numbers among
    refine ⟨_, List.mem_cons_self, added.map (·.line), ?_, ?_⟩
    · rw [List.mem_singleton.mp among, List.map_append]
    · intro number inside
      obtain ⟨member, listed, equal⟩ := List.mem_map.mp inside
      rw [← equal]
      exact all member listed

end ContainerScope

/-! ### One line -/

namespace ModuleWalk

theorem growsOn_code (recorded : List ModuleEntry) (register : CommentRegister) (line : Line) :
    GrowsOn line.number recorded (code recorded register line).entries := by
  have offers := line.text.offers_anything
  have plain : AddsOn line.number
      (lineRecord register (codeOf line.text) (splitLineComment line.text).2 line.number).1 := by
    refine ⟨length_lineRecord_le _ _ _ _, ?_⟩
    intro entry listed
    exact ((lineRecord_adds offers register.within_anything).1 entry listed).freshOn
  unfold code
  simp only
  cases codeKind (splitLineComment line.text).1 with
  | plain =>
      rw [entries_between]
      exact plain.growsOn recorded
  | bodied =>
      simp only [entries_skipFrom]
      exact plain.growsOn recorded
  | container header =>
      simp only [inContainer]
      cases header.kind with
      | enum =>
          simp only [entries_inEnum]
          apply AddsOn.growsOn
          apply ContainerScope.enum_addsOn ⟨header.name, register, line.number⟩
          intro member listed
          exact ((enumRules_records.header offers).members member listed).declared.number
      | aggregate kind =>
          simp only [entries_inAggregate]
          apply AddsOn.growsOn
          apply ContainerScope.aggregate_addsOn ⟨header.name, register, line.number⟩
          intro member listed
          exact ((aggregateRules_records.header offers).members member listed).declared.number

theorem growsOn_step (walk : ModuleWalk) (line : Line) :
    GrowsOn line.number walk.entries (walk.step line).entries := by
  obtain ⟨recorded, mode⟩ := walk
  cases mode with
  | module reader =>
      have finished : entries ⟨recorded, .module reader⟩ = recorded := List.append_nil recorded
      rw [finished]
      cases reads : reader.read? line.text with
      | some next =>
          rw [step_read reads]
          have still : entries ⟨recorded, .module next⟩ = recorded := List.append_nil recorded
          rw [still]
          exact .same recorded
      | none =>
          rw [step_code reads]
          exact growsOn_code recorded reader.register line
  | skipping register balance opened unclosed =>
      have finished : entries ⟨recorded, .skipping register balance opened unclosed⟩ = recorded :=
        List.append_nil recorded
      have after : (step ⟨recorded, .skipping register balance opened unclosed⟩ line).entries =
          recorded := by
        simp only [step]
        split
        · exact entries_between recorded register
        · exact entries_skip recorded register _ _
      rw [finished, after]
      exact .same recorded
  | aggregate kind scope state =>
      obtain ⟨added, split, fresh⟩ := aggregateRules_records.members_step state line
      simp only [step, entries_inAggregate, split]
      apply scope.aggregate_growsOn kind recorded
      intro member listed
      exact (fresh member listed).declared.number
  | enum scope state =>
      obtain ⟨added, split, fresh⟩ := enumRules_records.members_step state line
      simp only [step, entries_inEnum, split]
      apply scope.enum_growsOn recorded
      intro member listed
      exact (fresh member listed).declared.number

/-! ### All lines -/

theorem laidOut_read (texts : List Text) :
    LaidOutEntries texts.length (start.read (numberedLines 1 texts)).entries := by
  induction texts using List.reverseRecOn with
  | nil => exact .nil 0
  | append_singleton texts text ih =>
      have grows := growsOn_step (start.read (numberedLines 1 texts))
        ⟨1 + texts.length, Text.trim text⟩
      have next : ((1 + texts.length : Nat) : Int) = ((texts ++ [text]).length : Nat) := by
        rw [List.length_append, List.length_singleton, Nat.add_comm]
      rw [numberedLines_append, read_append]
      rw [next] at grows
      apply ih.grow _ _ grows
      · rw [List.length_append, List.length_singleton]
        omega
      · rw [List.length_append, List.length_singleton]
        omega

end ModuleWalk

/-- The declarations of a source take up disjoint stretches of its lines, in order, and the members of a
container stand in order within its stretch. -/
theorem extractModule_laidOut (file : FilePath) (source : Text) :
    (extractModule file source).LaidOut (Text.lines source).length := by
  unfold extractModule extractLines sourceLines
  rw [ModuleWalk.moduleEntries_eq_read]
  exact (ModuleWalk.laidOut_read (Text.lines source)).ofEntries

end DocSite
