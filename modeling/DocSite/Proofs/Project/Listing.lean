/-
The list of sources.

A walk through a directory lists every file with the suffix of a source that is reached through directories
which are neither ignored nor hidden and which may be listed and searched, each once and in the order of paths,
whose components are compared one by one. Names of files and of the directory itself have no say in this, apart
from the suffix. There is no list if the walk looks at a path that is too long.
-/
import DocSite.Proofs.Project.Walk

namespace DocSite

open Reading (bind_eq_ok_iff value_bind value_look)

/-! ### Trees -/

namespace FileNode

/-- Whether a directory may be listed and searched. -/
def IsOpenAt (tree : FileNode) (names : List Text) : Prop :=
  ∃ rights, tree.HasRightsAt names rights ∧ rights.lists = true ∧ rights.searches = true

def IsVisible (ignored : List Text) (directory : Text) : Prop :=
  directory ∉ ignored ∧ directory.head? ≠ some '.'

/-- Whether open directories that are neither ignored nor hidden lead to a file with the suffix of a source. -/
structure LeadsToSource (ignored : List Text) (tree : FileNode) (directories : List Text) (name : Text) :
    Prop where
  file : ∃ content, tree.descend? (directories ++ [name]) = some (.file content)
  source : HasSourceSuffix name
  visible : ∀ directory ∈ directories, IsVisible ignored directory
  isOpen : ∀ front, front <+: directories → tree.IsOpenAt front

/-- The names that lead to the entries which a walk through a tree looks at: those of a directory that may be
listed, and if it may be searched as well, those below them. -/
inductive Visits (ignored : List Text) : FileNode → List Text → Prop
  | entry {entries : List (Text × FileNode)} {rights : Rights} {name : Text} {node : FileNode}
      (lists : rights.lists = true) (present : entries.lookup name = some node) :
      Visits ignored (.directory entries rights) [name]
  | within {entries : List (Text × FileNode)} {rights : Rights} {name : Text} {node : FileNode}
      {names : List Text} (lists : rights.lists = true) (searches : rights.searches = true)
      (present : entries.lookup name = some node) (visible : IsVisible ignored name)
      (further : Visits ignored node names) : Visits ignored (.directory entries rights) (name :: names)

section Directories

variable {ignored : List Text} {entries : List (Text × FileNode)} {rights : Rights}

theorem isOpenAt_nil : IsOpenAt (.directory entries rights) [] ↔ rights.lists = true ∧ rights.searches = true := by
  constructor
  · rintro ⟨_, ⟨_, same⟩, both⟩
    cases same
    exact both
  · exact fun both => ⟨rights, ⟨entries, rfl⟩, both⟩

theorem isOpenAt_cons {name : Text} {names : List Text} :
    IsOpenAt (.directory entries rights) (name :: names) ↔
      ∃ node, entries.lookup name = some node ∧ node.IsOpenAt names := by
  unfold IsOpenAt
  simp only [hasRightsAt_cons]
  constructor
  · rintro ⟨own, ⟨node, present, further⟩, both⟩
    exact ⟨node, present, own, further, both⟩
  · rintro ⟨node, present, own, further, both⟩
    exact ⟨own, ⟨node, present, further⟩, both⟩

theorem leadsToSource_nil {name : Text} : LeadsToSource ignored (.directory entries rights) [] name ↔
    (rights.lists = true ∧ rights.searches = true) ∧ HasSourceSuffix name ∧
      ∃ content, entries.lookup name = some (.file content) := by
  have file : ∀ content, (directory entries rights).descend? [name] = some (.file content) ↔
      entries.lookup name = some (.file content) := by
    intro content
    rw [descend?, Option.bind_eq_some_iff]
    simp only [descend?, Option.some.injEq, exists_eq_right]
  constructor
  · rintro ⟨⟨content, found⟩, source, -, isOpen⟩
    exact ⟨isOpenAt_nil.mp (isOpen [] List.nil_prefix), source, content, (file content).mp found⟩
  · rintro ⟨isOpen, source, content, found⟩
    refine ⟨⟨content, (file content).mpr found⟩, source, List.forall_mem_nil _, fun front above => ?_⟩
    rw [List.prefix_nil.mp above]
    exact isOpenAt_nil.mpr isOpen

theorem leadsToSource_cons {first name : Text} {directories : List Text} :
    LeadsToSource ignored (.directory entries rights) (first :: directories) name ↔
      (rights.lists = true ∧ rights.searches = true) ∧ IsVisible ignored first ∧
        ∃ node, entries.lookup first = some node ∧ node.LeadsToSource ignored directories name := by
  constructor
  · rintro ⟨⟨content, found⟩, source, visible, isOpen⟩
    rw [List.cons_append, descend?] at found
    obtain ⟨node, present, further⟩ := Option.bind_eq_some_iff.mp found
    obtain ⟨isVisible, others⟩ := List.forall_mem_cons.mp visible
    refine ⟨isOpenAt_nil.mp (isOpen [] List.nil_prefix), isVisible, node, present, ⟨content, further⟩, source,
      others, fun front above => ?_⟩
    obtain ⟨inner, same, opened⟩ := isOpenAt_cons.mp (isOpen (first :: front) (List.prefix_cons_inj first |>.mpr above))
    rwa [Option.some.inj (present.symm.trans same)]
  · rintro ⟨isOpen, isVisible, node, present, ⟨content, found⟩, source, visible, further⟩
    refine ⟨⟨content, ?_⟩, source, List.forall_mem_cons.mpr ⟨isVisible, visible⟩, fun front above => ?_⟩
    · rw [List.cons_append, descend?, present]
      exact found
    · cases front with
      | nil => exact isOpenAt_nil.mpr isOpen
      | cons other front =>
          obtain ⟨rfl, below⟩ := List.cons_prefix_cons.mp above
          exact isOpenAt_cons.mpr ⟨node, present, further front below⟩

theorem not_visits_file {content : Bytes} {names : List Text} : ¬Visits ignored (.file content) names := by
  intro visits
  cases visits

theorem visits_cons {name : Text} {names : List Text} :
    Visits ignored (.directory entries rights) (name :: names) ↔
      rights.lists = true ∧ ∃ node, entries.lookup name = some node ∧
        (names = [] ∨ rights.searches = true ∧ IsVisible ignored name ∧ node.Visits ignored names) := by
  constructor
  · intro visits
    cases visits with
    | entry lists present => exact ⟨lists, _, present, .inl rfl⟩
    | within lists searches present visible further =>
        exact ⟨lists, _, present, .inr ⟨searches, visible, further⟩⟩
  · rintro ⟨lists, node, present, rfl | ⟨searches, visible, further⟩⟩
    · exact .entry lists present
    · exact .within lists searches present visible further

end Directories

end FileNode

/-! ### Walks -/

/-- Whether a reading is a walk that looks at certain paths and lists certain files. -/
structure IsWalk (reading : Reading (List FilePath)) (visits leads : FilePath → Prop) : Prop where
  made : (∀ path, visits path → path.Fits) →
    ∃ files, reading.run.value = .ok files ∧ files.Nodup ∧ ∀ path, path ∈ files ↔ leads path
  broken : ∀ path, visits path → ¬path.Fits → reading.run.value = .error (.file .nameTooLong)

namespace IsWalk

variable {reading rest : Reading (List FilePath)} {visits leads visitsRest leadsRest : FilePath → Prop}

theorem of_value {files : List FilePath} (done : reading.run.value = .ok files) (distinct : files.Nodup)
    (fit : ∀ path, visits path → path.Fits) (mem_iff : ∀ path, path ∈ files ↔ leads path) :
    IsWalk reading visits leads where
  made := fun _ => ⟨files, done, distinct, mem_iff⟩
  broken := fun path visited long => absurd (fit path visited) long

theorem of_tooLong (failed : reading.run.value = .error (.file .nameTooLong)) {path : FilePath}
    (visited : visits path) (long : ¬path.Fits) : IsWalk reading visits leads where
  made := fun fit => absurd (fit path visited) long
  broken := fun _ _ _ => failed

theorem congr {others targets : FilePath → Prop} (walk : IsWalk reading visits leads)
    (sameVisits : ∀ path, others path ↔ visits path) (sameLeads : ∀ path, targets path ↔ leads path) :
    IsWalk reading others targets := by
  obtain rfl : others = visits := funext fun path => propext (sameVisits path)
  obtain rfl : targets = leads := funext fun path => propext (sameLeads path)
  exact walk

section Outcome

variable (walk : IsWalk reading visits leads)
include walk

theorem done_or_tooLong :
    (∀ path, visits path → path.Fits) ∧
        (∃ files, reading.run.value = .ok files ∧ files.Nodup ∧ ∀ path, path ∈ files ↔ leads path) ∨
      (¬∀ path, visits path → path.Fits) ∧ reading.run.value = .error (.file .nameTooLong) := by
  by_cases fit : ∀ path, visits path → path.Fits
  · exact .inl ⟨fit, walk.made fit⟩
  · refine .inr ⟨fit, ?_⟩
    push Not at fit
    obtain ⟨path, visited, long⟩ := fit
    exact walk.broken path visited long

theorem exists_iff : (∃ files, reading.run.value = .ok files) ↔ ∀ path, visits path → path.Fits := by
  rcases walk.done_or_tooLong with ⟨fit, files, done, -⟩ | ⟨long, failed⟩
  · exact iff_of_true ⟨files, done⟩ fit
  · rw [failed]
    exact iff_of_false nofun long

theorem listed {files : List FilePath} (done : reading.run.value = .ok files) :
    files.Nodup ∧ ∀ path, path ∈ files ↔ leads path := by
  obtain ⟨walked, same, distinct, mem_iff⟩ := walk.made (walk.exists_iff.mp ⟨files, done⟩)
  rw [done] at same
  cases same
  exact ⟨distinct, mem_iff⟩

/-- The list of a walk may be put into another order. -/
theorem mergeSort (notAfter : FilePath → FilePath → Bool) :
    IsWalk (do return (← reading).mergeSort notAfter) visits leads := by
  constructor
  · intro fit
    obtain ⟨files, done, distinct, mem_iff⟩ := walk.made fit
    refine ⟨files.mergeSort notAfter, ?_, (List.mergeSort_perm files notAfter).nodup_iff.mpr distinct, fun path => ?_⟩
    · rw [value_bind, done]
      rfl
    · rw [List.mem_mergeSort, mem_iff]
  · intro path visited long
    rw [value_bind, walk.broken path visited long]

end Outcome

/-- Two walks one after the other. The first one that looks at a path which is too long breaks both off. -/
theorem append (walk : IsWalk reading visits leads) (walkRest : IsWalk rest visitsRest leadsRest)
    (apart : ∀ path, leads path → ¬leadsRest path) :
    IsWalk (do return (← reading) ++ (← rest)) (fun path => visits path ∨ visitsRest path)
      fun path => leads path ∨ leadsRest path := by
  constructor
  · intro fit
    obtain ⟨files, done, distinct, mem_iff⟩ := walk.made fun path visited => fit path (.inl visited)
    obtain ⟨more, doneRest, distinctRest, mem_iff_rest⟩ := walkRest.made fun path visited => fit path (.inr visited)
    refine ⟨files ++ more, ?_, ?_, fun path => ?_⟩
    · rw [value_bind, done]
      dsimp only
      rw [value_bind, doneRest]
      rfl
    · exact List.nodup_append.mpr ⟨distinct, distinctRest, fun path listed other listedToo same =>
        apart path ((mem_iff path).mp listed) ((mem_iff_rest path).mp (same ▸ listedToo))⟩
    · rw [List.mem_append, mem_iff, mem_iff_rest]
  · intro path visited long
    rw [value_bind]
    rcases walk.done_or_tooLong with ⟨fit, files, done, -⟩ | ⟨-, failed⟩
    · rw [done]
      dsimp only
      rw [value_bind, walkRest.broken path (visited.resolve_left fun early => long (fit path early)) long]
    · rw [failed]

theorem gather {Item : Type} {items : List Item} {read : Item → Reading (List FilePath)}
    {visits leads : Item → FilePath → Prop} (distinct : items.Nodup)
    (each : ∀ item ∈ items, IsWalk (read item) (visits item) (leads item))
    (apart : ∀ first second path, leads first path → leads second path → first = second) :
    IsWalk (gather items read) (fun path => ∃ item ∈ items, visits item path)
      fun path => ∃ item ∈ items, leads item path := by
  induction items with
  | nil => exact of_value rfl List.nodup_nil (by simp) (by simp)
  | cons item items ih =>
      rw [List.nodup_cons] at distinct
      have further := ih distinct.2 fun later member => each later (List.mem_cons_of_mem _ member)
      rw [gather_cons]
      refine ((each item List.mem_cons_self).append further ?_).congr
        (fun path => List.exists_mem_cons_iff ..) fun path => List.exists_mem_cons_iff ..
      rintro path here ⟨later, member, there⟩
      exact distinct.1 (apart item later path here there ▸ member)

end IsWalk

section Walks

variable {workspace : Workspace} {ignored : List Text} {directory : FilePath}
  {entries : List (Text × FileNode)} {rights : Rights}

theorem isIgnored_eq_false_iff {name : Text} :
    isIgnored ignored name = false ↔ FileNode.IsVisible ignored name := by
  rw [isIgnored, Bool.or_eq_false_iff, beq_eq_false_iff_ne, ← Bool.not_eq_true, List.contains_iff_mem]
  exact Iff.rfl

/-- What a walk looks at from an entry on: the entry itself, and what is visited in the directory there. -/
def VisitsFromEntry (ignored : List Text) (directory : FilePath) (searches : Bool) (name : Text)
    (node : FileNode) (path : FilePath) : Prop :=
  ∃ names, path = directory.below (name :: names) ∧
    (names = [] ∨ searches = true ∧ FileNode.IsVisible ignored name ∧ node.Visits ignored names)

/-- What a walk comes to under an entry: a source, or what the directory there leads to. -/
def LeadsFromEntry (ignored : List Text) (directory : FilePath) (name : Text) (node : FileNode)
    (path : FilePath) : Prop :=
  (HasSourceSuffix name ∧ (∃ content, node = .file content) ∧ path = directory.below [name]) ∨
    FileNode.IsVisible ignored name ∧ ∃ directories last,
      path = directory.below (name :: directories ++ [last]) ∧ node.LeadsToSource ignored directories last

theorem LeadsFromEntry.exists_below {name : Text} {node : FileNode} {path : FilePath}
    (leads : LeadsFromEntry ignored directory name node path) : ∃ names, path = directory.below (name :: names) := by
  rcases leads with ⟨-, -, same⟩ | ⟨-, directories, last, same, -⟩
  · exact ⟨[], same⟩
  · exact ⟨directories ++ [last], same⟩

/-- Below a directory that may be listed, the visits are those from its entries on. -/
theorem exists_visits_iff (lists : rights.lists = true) {path : FilePath} :
    (∃ names, path = directory.below names ∧ (FileNode.directory entries rights).Visits ignored names) ↔
      ∃ name ∈ visitOrder (entries.map Prod.fst), ∃ node, entries.lookup name = some node ∧
        VisitsFromEntry ignored directory rights.searches name node path := by
  constructor
  · rintro ⟨_ | ⟨name, names⟩, same, visits⟩
    · cases visits
    · obtain ⟨-, node, present, further⟩ := FileNode.visits_cons.mp visits
      exact ⟨name, mem_visitOrder.mpr (FileNode.mem_names_of_lookup present), node, present, names, same, further⟩
  · rintro ⟨name, -, node, present, names, same, further⟩
    exact ⟨name :: names, same, FileNode.visits_cons.mpr ⟨lists, node, present, further⟩⟩

theorem exists_leads_iff (lists : rights.lists = true) {path : FilePath} :
    (∃ directories last, path = directory.below (directories ++ [last]) ∧
        FileNode.LeadsToSource ignored (.directory entries rights) directories last) ↔
      ∃ name ∈ visitOrder (entries.map Prod.fst), ∃ node, entries.lookup name = some node ∧
        rights.searches = true ∧ LeadsFromEntry ignored directory name node path := by
  constructor
  · rintro ⟨_ | ⟨first, directories⟩, last, same, leads⟩
    · obtain ⟨⟨-, searches⟩, suffix, content, present⟩ := FileNode.leadsToSource_nil.mp leads
      exact ⟨last, mem_visitOrder.mpr (FileNode.mem_names_of_lookup present), _, present, searches,
        .inl ⟨suffix, ⟨content, rfl⟩, same⟩⟩
    · obtain ⟨⟨-, searches⟩, visible, node, present, further⟩ := FileNode.leadsToSource_cons.mp leads
      exact ⟨first, mem_visitOrder.mpr (FileNode.mem_names_of_lookup present), node, present, searches,
        .inr ⟨visible, directories, last, same, further⟩⟩
  · rintro ⟨name, -, node, present, searches, ⟨suffix, ⟨content, rfl⟩, same⟩ |
      ⟨visible, directories, last, same, further⟩⟩
    · exact ⟨[], name, same, FileNode.leadsToSource_nil.mpr ⟨⟨lists, searches⟩, suffix, content, present⟩⟩
    · exact ⟨name :: directories, last, same,
        FileNode.leadsToSource_cons.mpr ⟨⟨lists, searches⟩, visible, node, present, further⟩⟩

section Entry

variable {name : Text}

section Fits

variable (fits : (directory.child name).Fits)
include fits

/-- Where nothing is visited behind an entry, its own path is the only one that has to fit. -/
theorem fits_of_visitsFromEntry {searches : Bool} {node : FileNode} {path : FilePath}
    (visits : VisitsFromEntry ignored directory searches name node path)
    (ends : searches = true → FileNode.IsVisible ignored name → ∀ names, ¬node.Visits ignored names) :
    path.Fits := by
  obtain ⟨names, rfl, rfl | ⟨searched, visible, further⟩⟩ := visits
  · exact fits
  · exact absurd further (ends searched visible names)

theorem isWalk_visit_file {content : Bytes}
    (looked : workspace.node? (directory.child name) = .ok (some (.file content))) :
    IsWalk (visit workspace ignored directory name) (VisitsFromEntry ignored directory true name (.file content))
      (LeadsFromEntry ignored directory name (.file content)) := by
  have taken : (visit workspace ignored directory name).run.value =
      .ok (if isSourceFile (directory.child name) then [directory.child name] else []) := by
    rw [visit, visitEntry_file looked]
    rfl
  refine .of_value taken (by split <;> simp)
    (fun path visits => fits_of_visitsFromEntry fits visits fun _ _ _ => FileNode.not_visits_file) fun path => ?_
  have source : isSourceFile (directory.child name) = true ↔ HasSourceSuffix name := by
    rw [isSourceFile_iff, FilePath.name_child]
  have noFurther : ¬∃ directories last, path = directory.below (name :: directories ++ [last]) ∧
      (FileNode.file content).LeadsToSource ignored directories last := by
    rintro ⟨directories, last, -, ⟨other, reached⟩, -⟩
    cases directories <;> cases reached
  rw [LeadsFromEntry, or_iff_left fun both => noFurther both.2]
  by_cases suffix : HasSourceSuffix name
  · rw [if_pos (source.mpr suffix), List.mem_singleton, and_iff_right suffix, and_iff_right ⟨content, rfl⟩]
    exact Iff.rfl
  · rw [if_neg fun isSource => suffix (source.mp isSource)]
    exact iff_of_false List.not_mem_nil fun both => suffix both.1

section Directory

variable {inner : List (Text × FileNode)} {own : Rights}
  (looked : workspace.node? (directory.child name) = .ok (some (.directory inner own)))
include looked

theorem isWalk_visit_hidden (hidden : ¬FileNode.IsVisible ignored name) :
    IsWalk (visit workspace ignored directory name)
      (VisitsFromEntry ignored directory true name (.directory inner own))
      (LeadsFromEntry ignored directory name (.directory inner own)) := by
  have skipped : isIgnored ignored name = true := by
    rw [← isIgnored_eq_false_iff, Bool.not_eq_false] at hidden
    exact hidden
  have nothing : (visit workspace ignored directory name).run.value = .ok [] := by
    rw [visit_directory looked, skipped]
    rfl
  refine .of_value nothing List.nodup_nil
    (fun path visits => fits_of_visitsFromEntry fits visits fun _ visible => absurd visible hidden) fun path => ?_
  refine iff_of_false List.not_mem_nil ?_
  rintro (⟨-, ⟨content, isFile⟩, -⟩ | ⟨visible, -⟩)
  · cases isFile
  · exact hidden visible

/-- A walk that enters a directory looks at its own path besides those below it, which makes no difference where
that one fits. -/
theorem isWalk_visit_entered (visible : FileNode.IsVisible ignored name)
    (walk : IsWalk (sourcesBelow workspace ignored (directory.child name))
      (fun path => ∃ names, path = (directory.child name).below names ∧
        (FileNode.directory inner own).Visits ignored names)
      fun path => ∃ directories last, path = (directory.child name).below (directories ++ [last]) ∧
        FileNode.LeadsToSource ignored (.directory inner own) directories last) :
    IsWalk (visit workspace ignored directory name)
      (VisitsFromEntry ignored directory true name (.directory inner own))
      (LeadsFromEntry ignored directory name (.directory inner own)) := by
  rw [visit_directory looked, isIgnored_eq_false_iff.mpr visible, if_neg Bool.false_ne_true]
  simp only [FilePath.below_child] at walk
  constructor
  · intro fit
    obtain ⟨files, done, distinct, mem_iff⟩ := walk.made fun path ⟨names, same, visits⟩ =>
      fit path ⟨names, same, .inr ⟨rfl, visible, visits⟩⟩
    have noFile : ¬∃ content, FileNode.directory inner own = .file content := nofun
    refine ⟨files, done, distinct, fun path => ?_⟩
    rw [mem_iff, LeadsFromEntry, or_iff_right fun both => noFile both.2.1, and_iff_right visible]
    rfl
  · rintro path ⟨names, rfl, rfl | ⟨-, -, visits⟩⟩ long
    · exact absurd fits long
    · exact walk.broken _ ⟨names, rfl, visits⟩ long

end Directory

end Fits

theorem isWalk_visit (found : workspace.node? directory = .ok (some (.directory entries rights)))
    (named : FileNode.IsEntryName name) {node : FileNode} (present : entries.lookup name = some node)
    (further : ∀ inner own, node = .directory inner own →
      workspace.node? (directory.child name) = .ok (some node) →
        IsWalk (sourcesBelow workspace ignored (directory.child name))
          (fun path => ∃ names, path = (directory.child name).below names ∧ node.Visits ignored names)
          fun path => ∃ directories last, path = (directory.child name).below (directories ++ [last]) ∧
            node.LeadsToSource ignored directories last) :
    IsWalk (visit workspace ignored directory name) (VisitsFromEntry ignored directory rights.searches name node)
      fun path => rights.searches = true ∧ LeadsFromEntry ignored directory name node path := by
  have looked := Workspace.node?_child found named
  by_cases fits : (directory.child name).Fits
  swap
  · rw [if_pos fits] at looked
    refine IsWalk.of_tooLong ?_ ⟨[], rfl, .inl rfl⟩ fits
    rw [visit, visitEntry_error looked FileError.noConfusion]
    rfl
  rw [if_neg (not_not_intro fits)] at looked
  cases searches : rights.searches with
  | false =>
      rw [searches, if_neg Bool.false_ne_true] at looked
      have passed : (visit workspace ignored directory name).run.value = .ok [] := by
        rw [visit, visitEntry_denied looked]
        rfl
      exact .of_value passed List.nodup_nil (fun path visits => fits_of_visitsFromEntry fits visits
        fun impossible => absurd impossible Bool.false_ne_true) (by simp)
  | true =>
      rw [searches, if_pos rfl, present] at looked
      simp only [true_and]
      cases node with
      | file content => exact isWalk_visit_file fits looked
      | directory inner own =>
          by_cases visible : FileNode.IsVisible ignored name
          · exact isWalk_visit_entered fits looked visible (further inner own rfl looked)
          · exact isWalk_visit_hidden fits looked visible

end Entry

/-- A directory that may not be listed is passed over. -/
theorem isWalk_passOver (closed : rights.lists = false) :
    IsWalk (passOver directory)
      (fun path => ∃ names, path = directory.below names ∧ (FileNode.directory entries rights).Visits ignored names)
      fun path => ∃ directories last, path = directory.below (directories ++ [last]) ∧
        FileNode.LeadsToSource ignored (.directory entries rights) directories last := by
  refine .of_value rfl List.nodup_nil ?_ fun path => iff_of_false List.not_mem_nil ?_
  · rintro path ⟨_ | ⟨name, names⟩, -, visits⟩
    · cases visits
    · rw [(FileNode.visits_cons.mp visits).1] at closed
      cases closed
  · rintro ⟨directories, last, -, leads⟩
    have isOpen : rights.lists = true := by
      cases directories with
      | nil => exact (FileNode.leadsToSource_nil.mp leads).1.1
      | cons first directories => exact (FileNode.leadsToSource_cons.mp leads).1.1
    rw [isOpen] at closed
    cases closed

/-- A walk through a directory of a proper tree looks at the paths of the entries that are visited, and lists the
sources that the directory leads to. -/
theorem isWalk_sourcesBelow (proper : workspace.root.Proper) (directory : FilePath) {node : FileNode}
    (isThere : ∃ entries rights, node = .directory entries rights)
    (found : workspace.node? directory = .ok (some node)) :
    IsWalk (sourcesBelow workspace ignored directory)
      (fun path => ∃ names, path = directory.below names ∧ node.Visits ignored names)
      fun path => ∃ directories last, path = directory.below (directories ++ [last]) ∧
        node.LeadsToSource ignored directories last := by
  induction directory using walk_induction workspace generalizing node with
  | step directory ih =>
      obtain ⟨entries, rights, rfl⟩ := isThere
      obtain ⟨above, -, reached⟩ := Workspace.node?_eq_some.mp found
      have properDirectory := proper.descend? reached
      rw [sourcesBelow_eq found]
      cases lists : rights.lists with
      | false =>
          rw [if_neg Bool.false_ne_true]
          exact isWalk_passOver lists
      | true =>
          rw [if_pos rfl]
          have each : ∀ name ∈ visitOrder (entries.map Prod.fst),
              IsWalk (visit workspace ignored directory name)
                (fun path => ∃ node, entries.lookup name = some node ∧
                  VisitsFromEntry ignored directory rights.searches name node path)
                fun path => ∃ node, entries.lookup name = some node ∧ rights.searches = true ∧
                  LeadsFromEntry ignored directory name node path := by
            intro name listed
            obtain ⟨node, present⟩ :=
              FileNode.exists_lookup_of_mem_names properDirectory.nodup (mem_visitOrder.mp listed)
            refine (isWalk_visit found (properDirectory.isEntryName present) present
              fun inner own same looked => ?_).congr (fun path => by simp [present]) fun path => by simp [present]
            have isDirectory : workspace.isDirectory (directory.child name) = .ok true := by
              rw [Workspace.isDirectory, looked, same]
              rfl
            exact ih name isDirectory ⟨inner, own, same⟩ looked
          refine (IsWalk.gather (nodup_visitOrder.mpr properDirectory.nodup) each ?_).congr
            (fun path => exists_visits_iff lists) fun path => exists_leads_iff lists
          rintro first second path ⟨_, -, -, leads⟩ ⟨_, -, -, leadsToo⟩
          obtain ⟨names, rfl⟩ := leads.exists_below
          obtain ⟨others, same⟩ := leadsToo.exists_below
          exact (List.cons.inj (FilePath.below_inj.mp same)).1

end Walks

/-! ### Order -/

theorem findSources_of_error {workspace : Workspace} {ignored : List Text} {path : FilePath} {error : FileError}
    (failed : workspace.node? path = .error error) :
    findSources workspace ignored path = throw (.file error) := by
  unfold findSources Workspace.isFile
  rw [failed]
  rfl

theorem findSources_of_none {workspace : Workspace} {ignored : List Text} {path : FilePath}
    (nothing : workspace.node? path = .ok none) : findSources workspace ignored path = pure [] := by
  unfold findSources Workspace.isFile Workspace.isDirectory
  rw [nothing]
  rfl

theorem findSources_of_file {workspace : Workspace} {ignored : List Text} {path : FilePath} {content : Bytes}
    (found : workspace.node? path = .ok (some (.file content))) :
    findSources workspace ignored path = pure (if isSourceFile path then [path] else []) := by
  unfold findSources Workspace.isFile
  rw [found]
  rfl

theorem findSources_of_directory {workspace : Workspace} {path : FilePath} {entries : List (Text × FileNode)}
    {rights : Rights} (ignored : List Text)
    (found : workspace.node? path = .ok (some (.directory entries rights))) :
    findSources workspace ignored path = do
      return (← sourcesBelow workspace ignored path).mergeSort FilePath.notAfter := by
  unfold findSources Workspace.isFile Workspace.isDirectory
  rw [found]
  rfl

/-- An open directory with one source and nothing else. -/
theorem findSources_single {workspace : Workspace} {path : FilePath} {name : Text} {content : Bytes}
    (ignored : List Text) (found : workspace.node? path = .ok (some (.directory [(name, .file content)])))
    (named : FileNode.IsEntryName name) (fits : (path.child name).Fits)
    (source : isSourceFile (path.child name) = true) :
    findSources workspace ignored path = pure [path.child name] := by
  have looked : workspace.node? (path.child name) = .ok (some (.file content)) := by
    rw [Workspace.node?_child found named, if_neg (not_not_intro fits), if_pos rfl, List.lookup_cons_self]
  have single : visitOrder [name] = [name] := List.mergeSort_singleton name
  have visited : visit workspace ignored path name = pure [path.child name] := by
    rw [visit, visitEntry_file looked, if_pos source]
  have nothing : gather [] (visit workspace ignored path) = pure [] := rfl
  rw [findSources_of_directory ignored found, sourcesBelow_eq found, if_pos rfl, List.map_singleton, single,
    gather_cons, visited, nothing]
  simp only [pure_bind, List.append_nil, List.mergeSort_singleton]

section Directories

variable {workspace : Workspace} {root : FilePath} {entries : List (Text × FileNode)} {rights : Rights}

theorem isWalk_findSources (ignored : List Text) (proper : workspace.root.Proper)
    (found : workspace.node? root = .ok (some (.directory entries rights))) :
    IsWalk (findSources workspace ignored root)
      (fun path => ∃ names, path = root.below names ∧ (FileNode.directory entries rights).Visits ignored names)
      fun path => ∃ directories name, path = root.below (directories ++ [name]) ∧
        FileNode.LeadsToSource ignored (.directory entries rights) directories name := by
  rw [findSources_of_directory ignored found]
  exact (isWalk_sourcesBelow proper root ⟨entries, rights, rfl⟩ found).mergeSort _

theorem exists_findSources_directory_iff (ignored : List Text) (proper : workspace.root.Proper)
    (found : workspace.node? root = .ok (some (.directory entries rights))) :
    (∃ files, (findSources workspace ignored root).run.value = .ok files) ↔
      ∀ names, (FileNode.directory entries rights).Visits ignored names → (root.below names).Fits := by
  rw [(isWalk_findSources ignored proper found).exists_iff]
  constructor
  · exact fun fit names visits => fit _ ⟨names, rfl, visits⟩
  · rintro fit path ⟨names, rfl, visits⟩
    exact fit names visits

end Directories

end DocSite
