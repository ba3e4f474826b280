/-
Documentation that grows.

Reading on may add declarations at the end of a module and members at the end of a container, and takes nothing
back. A container keeps its name, comment and line. The relation is told for containers, for lists by position,
for entries, and for the documentation that entries amount to.
-/
import DocSite.Proofs.Doc.Entries

namespace DocSite

structure AggregateDoc.GrowsTo (earlier later : AggregateDoc) : Prop where
  kind : later.kind = earlier.kind
  name : later.name = earlier.name
  comments : later.comments = earlier.comments
  line : later.line = earlier.line
  methods : earlier.methods <+: later.methods
  fields : earlier.fields <+: later.fields

structure EnumDoc.GrowsTo (earlier later : EnumDoc) : Prop where
  name : later.name = earlier.name
  comments : later.comments = earlier.comments
  line : later.line = earlier.line
  members : earlier.members <+: later.members

theorem AggregateDoc.GrowsTo.refl (declared : AggregateDoc) : declared.GrowsTo declared :=
  ⟨rfl, rfl, rfl, rfl, List.prefix_refl _, List.prefix_refl _⟩

theorem EnumDoc.GrowsTo.refl (declared : EnumDoc) : declared.GrowsTo declared :=
  ⟨rfl, rfl, rfl, List.prefix_refl _⟩

theorem AggregateDoc.GrowsTo.trans {first second third : AggregateDoc} (early : first.GrowsTo second)
    (late : second.GrowsTo third) : first.GrowsTo third := by
  constructor
  · exact late.kind.trans early.kind
  · exact late.name.trans early.name
  · exact late.comments.trans early.comments
  · exact late.line.trans early.line
  · exact early.methods.trans late.methods
  · exact early.fields.trans late.fields

theorem EnumDoc.GrowsTo.trans {first second third : EnumDoc} (early : first.GrowsTo second)
    (late : second.GrowsTo third) : first.GrowsTo third := by
  constructor
  · exact late.name.trans early.name
  · exact late.comments.trans early.comments
  · exact late.line.trans early.line
  · exact early.members.trans late.members

/-! ### Lists -/

/-- Each item of the earlier list has grown to the item at its position in the later one, which may go on. -/
inductive Grown {Item : Type} (grows : Item → Item → Prop) : List Item → List Item → Prop where
  | nil (added : List Item) : Grown grows [] added
  | cons {item next : Item} {items later : List Item} (here : grows item next)
      (further : Grown grows items later) : Grown grows (item :: items) (next :: later)

namespace Grown

variable {Item : Type} {grows : Item → Item → Prop}

theorem refl (reflexive : ∀ item, grows item item) (items : List Item) : Grown grows items items := by
  induction items with
  | nil => exact .nil []
  | cons item rest ih => exact .cons (reflexive item) ih

theorem trans (transitive : ∀ first second third, grows first second → grows second third →
      grows first third)
    {first second third : List Item} (early : Grown grows first second)
    (late : Grown grows second third) : Grown grows first third := by
  induction early generalizing third with
  | nil added => exact .nil third
  | cons here further ih =>
      cases late with
      | cons there later => exact .cons (transitive _ _ _ here there) (ih later)

theorem append_left (reflexive : ∀ item, grows item item) (front : List Item) {earlier later : List Item}
    (grown : Grown grows earlier later) : Grown grows (front ++ earlier) (front ++ later) := by
  induction front with
  | nil => exact grown
  | cons item rest ih => exact .cons (reflexive item) ih

end Grown

/-! ### Entries -/

inductive ModuleEntry.GrowsTo : ModuleEntry → ModuleEntry → Prop where
  | same (entry : ModuleEntry) : GrowsTo entry entry
  | aggregate {earlier later : AggregateDoc} (grows : earlier.GrowsTo later) :
      GrowsTo (.aggregate earlier) (.aggregate later)
  | enum {earlier later : EnumDoc} (grows : earlier.GrowsTo later) :
      GrowsTo (.enum earlier) (.enum later)

theorem ModuleEntry.GrowsTo.trans (first second third : ModuleEntry) (early : first.GrowsTo second)
    (late : second.GrowsTo third) : first.GrowsTo third := by
  cases early with
  | same entry => exact late
  | aggregate grows =>
      cases late with
      | same entry => exact .aggregate grows
      | aggregate further => exact .aggregate (grows.trans further)
  | enum grows =>
      cases late with
      | same entry => exact .enum grows
      | enum further => exact .enum (grows.trans further)

abbrev GrownEntries : List ModuleEntry → List ModuleEntry → Prop :=
  Grown ModuleEntry.GrowsTo

section Lists

variable {earlier later : List ModuleEntry}

/-- Declarations that no later line belongs to stay as they are. -/
theorem GrownEntries.prefix_of_closed {Declared : Type} {read? : ModuleEntry → Option Declared}
    (aggregates : ∀ declared, read? (.aggregate declared) = none)
    (enums : ∀ declared, read? (.enum declared) = none) (grown : GrownEntries earlier later) :
    earlier.filterMap read? <+: later.filterMap read? := by
  induction grown with
  | nil added => exact List.nil_prefix
  | @cons item next items later here further ih =>
      cases here with
      | same entry =>
          cases found : read? item with
          | none => simpa only [List.filterMap_cons_none found] using ih
          | some declared =>
              simpa only [List.filterMap_cons_some found, List.cons_prefix_cons, true_and] using ih
      | aggregate grows =>
          simpa only [List.filterMap_cons_none (aggregates _)] using ih
      | enum grows => simpa only [List.filterMap_cons_none (enums _)] using ih

theorem GrownEntries.aggregates (grown : GrownEntries earlier later) :
    Grown AggregateDoc.GrowsTo (earlier.filterMap ModuleEntry.aggregate?)
      (later.filterMap ModuleEntry.aggregate?) := by
  induction grown with
  | nil added => exact .nil _
  | @cons item next items later here further ih =>
      cases here with
      | same entry =>
          cases item with
          | aggregate declared => exact .cons (.refl declared) ih
          | _ => exact ih
      | aggregate grows => exact .cons grows ih
      | enum grows => exact ih

theorem GrownEntries.enums (grown : GrownEntries earlier later) :
    Grown EnumDoc.GrowsTo (earlier.filterMap ModuleEntry.enum?)
      (later.filterMap ModuleEntry.enum?) := by
  induction grown with
  | nil added => exact .nil _
  | @cons item next items later here further ih =>
      cases here with
      | same entry =>
          cases item with
          | enum declared => exact .cons (.refl declared) ih
          | _ => exact ih
      | aggregate grows => exact ih
      | enum grows => exact .cons grows ih

end Lists

/-! ### Modules -/

/-- Every declaration of the earlier documentation stands at its position in the later one. -/
structure ModuleDoc.GrowsTo (earlier later : ModuleDoc) : Prop where
  imports : earlier.imports <+: later.imports
  functions : earlier.functions <+: later.functions
  aggregates : Grown AggregateDoc.GrowsTo earlier.aggregates later.aggregates
  enums : Grown EnumDoc.GrowsTo earlier.enums later.enums

theorem GrownEntries.ofEntries {earlier later : List ModuleEntry} (file : FilePath)
    (grown : GrownEntries earlier later) :
    (ModuleDoc.ofEntries file earlier).GrowsTo (ModuleDoc.ofEntries file later) := by
  constructor
  · exact grown.prefix_of_closed (fun declared => rfl) (fun declared => rfl)
  · exact grown.prefix_of_closed (fun declared => rfl) (fun declared => rfl)
  · exact grown.aggregates
  · exact grown.enums

end DocSite
