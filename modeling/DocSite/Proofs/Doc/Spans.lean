/-
Spans of declarations.

Each declaration of a module takes up a stretch of lines: its own line and those of its members. The stretches
follow each other in the order of the entries, and the members of a container stand in the order of their lines.
This is told for entries first, where one more line appends an entry or adds members to the last one, and then
read off for the lists of the documentation.
-/
import DocSite.Proofs.Doc.Entries
import Mathlib.Data.List.Pairwise
import Mathlib.Data.List.Perm.Basic

namespace DocSite

/-! ### Lines of entries -/

namespace ModuleEntry

def line? : ModuleEntry → Option Int
  | .function declared => some declared.line
  | .aggregate declared => some declared.line
  | .enum declared => some declared.line
  | _ => none

def memberLines : ModuleEntry → List (List Int)
  | .aggregate declared => [declared.methods.map (·.line), declared.fields.map (·.line)]
  | .enum declared => [declared.members.map (·.line)]
  | _ => []

structure LaidOut (bound : Int) (entry : ModuleEntry) : Prop where
  own : ∀ own ∈ entry.line?, 1 ≤ own ∧ own ≤ bound
  sorted : ∀ numbers ∈ entry.memberLines, numbers.Pairwise (· ≤ ·)
  inside : ∀ numbers ∈ entry.memberLines, ∀ number ∈ numbers,
    number ≤ bound ∧ ∃ own ∈ entry.line?, own ≤ number

def Before (entry next : ModuleEntry) : Prop :=
  ∀ start ∈ next.line?, (∀ own ∈ entry.line?, own < start) ∧
    ∀ numbers ∈ entry.memberLines, ∀ number ∈ numbers, number < start

structure FreshOn (line : Int) (entry : ModuleEntry) : Prop where
  own : ∀ own ∈ entry.line?, own = line
  members : ∀ numbers ∈ entry.memberLines, ∀ number ∈ numbers,
    number = line ∧ ∃ own ∈ entry.line?, own = line

/-- An entry has got members on one line. -/
structure ExtendsOn (line : Int) (entry longer : ModuleEntry) : Prop where
  own : longer.line? = entry.line?
  declares : entry.line?.isSome = true
  members : ∀ numbers ∈ longer.memberLines, ∃ old ∈ entry.memberLines, ∃ added,
    numbers = old ++ added ∧ ∀ number ∈ added, number = line

theorem LaidOut.mono {bound more : Int} {entry : ModuleEntry} (laidOut : entry.LaidOut bound)
    (further : bound ≤ more) : entry.LaidOut more := by
  refine ⟨?_, laidOut.sorted, ?_⟩
  · intro own here
    obtain ⟨least, most⟩ := laidOut.own own here
    omega
  · intro numbers listed number member
    obtain ⟨most, starts⟩ := laidOut.inside numbers listed number member
    exact ⟨by omega, starts⟩

theorem FreshOn.laidOut {line : Int} {entry : ModuleEntry} (fresh : entry.FreshOn line)
    (positive : 1 ≤ line) : entry.LaidOut line := by
  refine ⟨?_, ?_, ?_⟩
  · intro own here
    rw [fresh.own own here]
    exact ⟨positive, Int.le_refl line⟩
  · intro numbers listed
    apply List.pairwise_of_forall_mem_list
    intro first inFirst second inSecond
    have firstHere := (fresh.members numbers listed first inFirst).1
    have secondHere := (fresh.members numbers listed second inSecond).1
    exact Int.le_of_eq (firstHere.trans secondHere.symm)
  · intro numbers listed number member
    obtain ⟨same, own, here, equal⟩ := fresh.members numbers listed number member
    exact ⟨by omega, own, here, by omega⟩

theorem ExtendsOn.laidOut {bound line : Int} {entry longer : ModuleEntry}
    (extended : entry.ExtendsOn line longer) (laidOut : entry.LaidOut bound) (later : bound ≤ line) :
    longer.LaidOut line := by
  refine ⟨?_, ?_, ?_⟩
  · rw [extended.own]
    exact (laidOut.mono later).own
  · intro numbers listed
    obtain ⟨old, among, added, split, fresh⟩ := extended.members numbers listed
    rw [split, List.pairwise_append]
    refine ⟨laidOut.sorted old among, ?_, ?_⟩
    · apply List.pairwise_of_forall_mem_list
      intro first inFirst second inSecond
      exact Int.le_of_eq ((fresh first inFirst).trans (fresh second inSecond).symm)
    · intro first inOld second inAdded
      have most := (laidOut.inside old among first inOld).1
      rw [fresh second inAdded]
      omega
  · intro numbers listed number member
    obtain ⟨old, among, added, split, fresh⟩ := extended.members numbers listed
    rw [split] at member
    rw [extended.own]
    rcases List.mem_append.mp member with inOld | inAdded
    · obtain ⟨most, starts⟩ := laidOut.inside old among number inOld
      exact ⟨by omega, starts⟩
    · obtain ⟨own, here⟩ := Option.isSome_iff_exists.mp extended.declares
      have most := (laidOut.own own here).2
      rw [fresh number inAdded]
      exact ⟨Int.le_refl line, own, here, by omega⟩

end ModuleEntry

/-! ### Lists of entries -/

structure LaidOutEntries (bound : Int) (entries : List ModuleEntry) : Prop where
  each : ∀ entry ∈ entries, entry.LaidOut bound
  ordered : entries.Pairwise ModuleEntry.Before

/-- What one line does to the entries so far. -/
inductive GrowsOn (line : Int) : List ModuleEntry → List ModuleEntry → Prop where
  | same (entries : List ModuleEntry) : GrowsOn line entries entries
  | entry (entries : List ModuleEntry) {entry : ModuleEntry} (fresh : entry.FreshOn line) :
      GrowsOn line entries (entries ++ [entry])
  | members (entries : List ModuleEntry) {entry longer : ModuleEntry}
      (extended : entry.ExtendsOn line longer) : GrowsOn line (entries ++ [entry]) (entries ++ [longer])

namespace LaidOutEntries

theorem nil (bound : Int) : LaidOutEntries bound [] :=
  ⟨nofun, List.Pairwise.nil⟩

/-- One more line behind the lines of the entries keeps them in order. -/
theorem grow {bound line : Int} {entries later : List ModuleEntry}
    (laidOut : LaidOutEntries bound entries) (behind : bound < line) (positive : 1 ≤ line)
    (grows : GrowsOn line entries later) : LaidOutEntries line later := by
  have kept {entry : ModuleEntry} (member : entry ∈ entries) : entry.LaidOut line :=
    (laidOut.each entry member).mono (Int.le_of_lt behind)
  cases grows with
  | same entries => exact ⟨fun entry member => kept member, laidOut.ordered⟩
  | @entry _ added fresh =>
      refine ⟨?_, ?_⟩
      · intro entry member
        rcases List.mem_append.mp member with old | new
        · exact kept old
        · rw [List.mem_singleton.mp new]
          exact fresh.laidOut positive
      · rw [List.pairwise_append]
        refine ⟨laidOut.ordered, List.pairwise_singleton _ _, ?_⟩
        intro entry member next new start here
        rw [List.mem_singleton.mp new] at here
        rw [fresh.own start here]
        obtain ⟨own, _, inside⟩ := laidOut.each entry member
        refine ⟨?_, ?_⟩
        · intro number first
          have most := (own number first).2
          omega
        · intro numbers listed number among
          have most := (inside numbers listed number among).1
          omega
  | @members front last longer extended =>
      have isLast : last ∈ front ++ [last] := List.mem_append_right front (List.mem_singleton_self last)
      obtain ⟨early, _, before⟩ := List.pairwise_append.mp laidOut.ordered
      refine ⟨?_, ?_⟩
      · intro entry member
        rcases List.mem_append.mp member with old | new
        · exact kept (List.mem_append_left _ old)
        · rw [List.mem_singleton.mp new]
          exact extended.laidOut (laidOut.each last isLast) (Int.le_of_lt behind)
      · rw [List.pairwise_append]
        refine ⟨early, List.pairwise_singleton _ _, ?_⟩
        intro entry member next new start here
        rw [List.mem_singleton.mp new, extended.own] at here
        exact before entry member last (List.mem_singleton_self last) start here

/-- Of two different entries one ends before the other. -/
theorem before_or_before {bound : Int} {entries : List ModuleEntry}
    (laidOut : LaidOutEntries bound entries) {first second : ModuleEntry} (inFirst : first ∈ entries)
    (inSecond : second ∈ entries) (different : first ≠ second) :
    first.Before second ∨ second.Before first := by
  let either (one other : ModuleEntry) : Prop := one.Before other ∨ other.Before one
  have symmetric : Std.Symm either := ⟨fun one other => Or.symm⟩
  have pairs : entries.Pairwise either := laidOut.ordered.imp fun before => .inl before
  exact pairs.forall inFirst inSecond different

/-- A member of an entry stands before every declaration behind the entry's own line. -/
theorem member_lt {bound : Int} {entries : List ModuleEntry} (laidOut : LaidOutEntries bound entries)
    {entry other : ModuleEntry} (member : entry ∈ entries) (inOther : other ∈ entries) {own start : Int}
    (here : own ∈ entry.line?) (there : start ∈ other.line?) (later : own < start)
    {numbers : List Int} (listed : numbers ∈ entry.memberLines) {number : Int}
    (among : number ∈ numbers) : number < start := by
  have different : entry ≠ other := by
    intro same
    rw [same] at here
    cases Option.mem_unique here there
    exact Int.lt_irrefl _ later
  rcases laidOut.before_or_before member inOther different with before | behind
  · exact (before start there).2 numbers listed number among
  · have earlier := (behind own here).1 start there
    omega

theorem lines_increase {bound : Int} {entries : List ModuleEntry}
    (laidOut : LaidOutEntries bound entries) :
    (entries.filterMap ModuleEntry.line?).Pairwise (· < ·) := by
  apply laidOut.ordered.filterMap
  intro first second before own here start there
  exact (before start there).1 own here

end LaidOutEntries

/-! ### Documentation -/

def AggregateDoc.memberLines (aggregate : AggregateDoc) : List Int :=
  aggregate.methods.map (·.line) ++ aggregate.fields.map (·.line)

def EnumDoc.memberLines (enum : EnumDoc) : List Int :=
  enum.members.map (·.line)

def ModuleDoc.declarationLines (module : ModuleDoc) : List Int :=
  module.functions.map (·.line) ++ module.aggregates.map (·.line) ++ module.enums.map (·.line)

def ModuleDoc.allLines (module : ModuleDoc) : List Int :=
  module.declarationLines ++ module.aggregates.flatMap AggregateDoc.memberLines ++
    module.enums.flatMap EnumDoc.memberLines

/-- A container takes up the lines from its own one on, and no other declaration of the module stands among
them. -/
def ModuleDoc.Encloses (module : ModuleDoc) (own : Int) (members : List Int) : Prop :=
  ∀ member ∈ members, own ≤ member ∧ ∀ other ∈ module.declarationLines, own < other → member < other

/-- The declarations of a module with some number of lines take up disjoint stretches of them, in order. -/
structure ModuleDoc.LaidOut (module : ModuleDoc) (count : Nat) : Prop where
  within : ∀ number ∈ module.allLines, 1 ≤ number ∧ number ≤ count
  functions : (module.functions.map (·.line)).Pairwise (· < ·)
  aggregates : (module.aggregates.map (·.line)).Pairwise (· < ·)
  enums : (module.enums.map (·.line)).Pairwise (· < ·)
  distinct : module.declarationLines.Nodup
  methods : ∀ aggregate ∈ module.aggregates, (aggregate.methods.map (·.line)).Pairwise (· ≤ ·)
  fields : ∀ aggregate ∈ module.aggregates, (aggregate.fields.map (·.line)).Pairwise (· ≤ ·)
  members : ∀ enum ∈ module.enums, (enum.members.map (·.line)).Pairwise (· ≤ ·)
  aggregateSpans : ∀ aggregate ∈ module.aggregates, module.Encloses aggregate.line aggregate.memberLines
  enumSpans : ∀ enum ∈ module.enums, module.Encloses enum.line enum.memberLines

/-- The lists of a module's documentation hold the lines of its entries, in another order. -/
theorem declarationLines_perm (file : FilePath) (entries : List ModuleEntry) :
    (ModuleDoc.ofEntries file entries).declarationLines.Perm (entries.filterMap ModuleEntry.line?) := by
  induction entries with
  | nil => exact .nil
  | cons entry rest ih =>
      cases entry with
      | moduleName name comments => exact ih
      | importLine declaration => exact ih
      | function declared => exact ih.cons declared.line
      | aggregate declared =>
          refine .trans ?_ (ih.cons declared.line)
          simp only [ModuleDoc.declarationLines, List.append_assoc]
          exact List.perm_middle
      | enum declared =>
          refine .trans ?_ (ih.cons declared.line)
          exact List.perm_middle

section Reading

variable {file : FilePath} {entries : List ModuleEntry} {count : Nat}

theorem lines_of_kind {Declared : Type} {read? : ModuleEntry → Option Declared} {line : Declared → Int}
    (reads : ∀ entry declared, read? entry = some declared → entry.line? = some (line declared))
    (laidOut : LaidOutEntries count entries) :
    ((entries.filterMap read?).map line).Pairwise (· < ·) := by
  rw [List.pairwise_map]
  apply laidOut.ordered.filterMap
  intro first second before declared here next there
  exact (before (line next) (reads second next there)).1 (line declared) (reads first declared here)

theorem LaidOutEntries.encloses (laidOut : LaidOutEntries count entries) {entry : ModuleEntry}
    (member : entry ∈ entries) {own : Int} (here : entry.line? = some own) {numbers : List Int}
    (listed : numbers ∈ entry.memberLines) :
    (ModuleDoc.ofEntries file entries).Encloses own numbers := by
  intro number among
  obtain ⟨_, start, atStart, least⟩ := (laidOut.each entry member).inside numbers listed number among
  cases Option.mem_unique atStart here
  refine ⟨least, ?_⟩
  intro other declared later
  obtain ⟨next, inNext, there⟩ :=
    List.mem_filterMap.mp ((declarationLines_perm file entries).mem_iff.mp declared)
  exact laidOut.member_lt member inNext here there later listed among

/-- The members of an entry lie in the same bounds as the entry. -/
theorem LaidOutEntries.within (laidOut : LaidOutEntries count entries) {entry : ModuleEntry}
    (member : entry ∈ entries) {numbers : List Int} (listed : numbers ∈ entry.memberLines) {number : Int}
    (among : number ∈ numbers) : 1 ≤ number ∧ number ≤ count := by
  obtain ⟨most, own, here, least⟩ := (laidOut.each entry member).inside numbers listed number among
  have positive := ((laidOut.each entry member).own own here).1
  omega

theorem LaidOutEntries.ofEntries (laidOut : LaidOutEntries count entries) :
    (ModuleDoc.ofEntries file entries).LaidOut count := by
  have methods (aggregate : AggregateDoc) : aggregate.methods.map (·.line) ∈
      (ModuleEntry.aggregate aggregate).memberLines := List.mem_cons_self
  have fields (aggregate : AggregateDoc) : aggregate.fields.map (·.line) ∈
      (ModuleEntry.aggregate aggregate).memberLines := List.mem_cons_of_mem _ List.mem_cons_self
  have members (enum : EnumDoc) : enum.members.map (·.line) ∈ (ModuleEntry.enum enum).memberLines :=
    List.mem_cons_self
  constructor
  case within =>
    intro number listed
    rcases List.mem_append.mp listed with others | inEnum
    · rcases List.mem_append.mp others with declared | inAggregate
      · obtain ⟨entry, member, here⟩ :=
          List.mem_filterMap.mp ((declarationLines_perm file entries).mem_iff.mp declared)
        exact (laidOut.each entry member).own number here
      · obtain ⟨aggregate, declared, inside⟩ := List.mem_flatMap.mp inAggregate
        have member := mem_of_mem_aggregates declared
        rcases List.mem_append.mp inside with method | field
        · exact laidOut.within member (methods aggregate) method
        · exact laidOut.within member (fields aggregate) field
    · obtain ⟨enum, declared, inside⟩ := List.mem_flatMap.mp inEnum
      exact laidOut.within (mem_of_mem_enums declared) (members enum) inside
  case functions =>
    apply lines_of_kind _ laidOut
    rintro (_ | _) declared found <;> cases found
    rfl
  case aggregates =>
    apply lines_of_kind _ laidOut
    rintro (_ | _) declared found <;> cases found
    rfl
  case enums =>
    apply lines_of_kind _ laidOut
    rintro (_ | _) declared found <;> cases found
    rfl
  case distinct =>
    rw [(declarationLines_perm file entries).nodup_iff]
    exact laidOut.lines_increase.imp Int.ne_of_lt
  case methods =>
    intro aggregate declared
    exact (laidOut.each _ (mem_of_mem_aggregates declared)).sorted _ (methods aggregate)
  case fields =>
    intro aggregate declared
    exact (laidOut.each _ (mem_of_mem_aggregates declared)).sorted _ (fields aggregate)
  case members =>
    intro enum declared
    exact (laidOut.each _ (mem_of_mem_enums declared)).sorted _ (members enum)
  case aggregateSpans =>
    intro aggregate declared number inside
    have member := mem_of_mem_aggregates declared
    rcases List.mem_append.mp inside with method | field
    · exact laidOut.encloses member rfl (methods aggregate) number method
    · exact laidOut.encloses member rfl (fields aggregate) number field
  case enumSpans =>
    intro enum declared
    exact laidOut.encloses (mem_of_mem_enums declared) rfl (members enum)

end Reading
end DocSite
