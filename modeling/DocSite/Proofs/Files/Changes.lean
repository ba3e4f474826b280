/-
Changes of file trees.

A tree changes by files that are written, at some names only and never in the place of a directory, and by
directories that are made where nothing is. Any number of such changes keeps every directory and every
file, and a file has another content or is new only where files may be written.
-/
import Mathlib.Logic.Relation
import DocSite.Proofs.Files.Laws

namespace DocSite

namespace FileNode

/-- What stands at a place after a node without entries has been put where no directory was: what stood
there before, the node itself, or a directory with the node put into it. -/
theorem descend?_put_cases {tree node : FileNode} {target : List Text} (free : ¬tree.IsDirectoryAt target)
    (bare : ∀ name rest, node.descend? (name :: rest) = none) (names : List Text) :
    (tree.put target node).descend? names = tree.descend? names ∨
      (names = target ∧ (tree.put target node).descend? names = some node) ∨
        ∃ rest entries rights, target = names ++ rest ∧
          tree.descend? names = some (.directory entries rights) ∧ rest ≠ [] ∧
            (tree.put target node).descend? names = some ((FileNode.directory entries rights).put rest node) := by
  by_cases above : names <+: target
  · obtain ⟨rest, rfl⟩ := above
    cases rest with
    | nil =>
        rcases descend?_put_below tree node (names ++ []) with unchanged | inside
        · exact .inl (by rw [unchanged])
        · have found := inside []
          rw [List.append_nil, descend?] at found
          refine .inr (.inl ⟨(List.append_nil names).symm, ?_⟩)
          simpa only [List.append_nil] using found
    | cons name rest =>
        have reached : (tree.put (names ++ name :: rest) node).descend? names =
            (tree.descend? names).map fun above => above.put (name :: rest) node :=
          descend?_put_above names (List.cons_ne_nil name rest)
        cases found : tree.descend? names with
        | none => exact .inl (by rw [reached, found, Option.map_none])
        | some above =>
            rw [found, Option.map_some] at reached
            cases above with
            | file content => exact .inl (by rw [reached, put_file])
            | directory entries rights =>
                exact .inr (.inr ⟨name :: rest, entries, rights, rfl, rfl, List.cons_ne_nil _ _, reached⟩)
  · by_cases below : target <+: names
    · obtain ⟨rest, rfl⟩ := below
      cases rest with
      | nil => exact absurd ⟨[], by rw [List.append_nil, List.append_nil]⟩ above
      | cons name rest =>
          have nothing : tree.descend? (target ++ name :: rest) = none := by
            rw [descend?_append]
            cases found : tree.descend? target with
            | none => rfl
            | some old =>
                cases old with
                | file content => rfl
                | directory entries rights => exact absurd ⟨rights, entries, found⟩ free
          rcases descend?_put_below tree node target with unchanged | inside
          · exact .inl (by rw [unchanged])
          · exact .inl (by rw [inside, bare, nothing])
    · exact .inl (descend?_put_of_apart above below)

structure IsEntryName (name : Text) : Prop where
  ordinary : name ≠ ['.', '.']
  noNull : '\x00' ∉ name
  short : (encodeUtf8 name).length ≤ nameLimit

theorem isEntryName_iff {name : Text} : IsEntryName name ↔
    name ≠ ['.', '.'] ∧ '\x00' ∉ name ∧ (encodeUtf8 name).length ≤ nameLimit :=
  ⟨fun named => ⟨named.ordinary, named.noNull, named.short⟩, fun ⟨ordinary, noNull, short⟩ =>
    ⟨ordinary, noNull, short⟩⟩

instance (name : Text) : Decidable (IsEntryName name) := decidable_of_iff' _ isEntryName_iff

/-- Whether a new node can come to stand somewhere: in a directory that may be searched. -/
def Receives (tree : FileNode) (names : List Text) : Prop :=
  ∃ above name, names = above ++ [name] ∧ tree.IsSearchableAt above ∧ IsEntryName name

/-- One change: a file is written at names where files may be written and no directory is, or an empty
directory is made where nothing is. -/
inductive Change (writable : List Text → Prop) : FileNode → FileNode → Prop where
  | write {tree : FileNode} {names : List Text} (content : Bytes) (permitted : writable names)
      (receives : tree.Receives names) (free : ¬tree.IsDirectoryAt names) :
      Change writable tree (tree.put names (.file content))
  | make {tree : FileNode} {names : List Text} (receives : tree.Receives names)
      (absent : tree.descend? names = none) : Change writable tree (tree.put names (.directory []))

abbrev Changes (writable : List Text → Prop) : FileNode → FileNode → Prop :=
  Relation.ReflTransGen (Change writable)

/-- What may become of a place in the course of changes. Directories that are made may be listed and
searched. -/
inductive Becomes (mayWrite : Prop) : Option FileNode → Option FileNode → Prop where
  | stays (node : Option FileNode) : Becomes mayWrite node node
  | written {old : Option FileNode} (content : Bytes) (permitted : mayWrite)
      (free : ∀ entries rights, old ≠ some (.directory entries rights)) :
      Becomes mayWrite old (some (.file content))
  | filled (entries later : List (Text × FileNode)) (rights : Rights) :
      Becomes mayWrite (some (.directory entries rights)) (some (.directory later rights))
  | made (entries : List (Text × FileNode)) : Becomes mayWrite none (some (.directory entries))

section Kept

variable {mayWrite : Prop} {node : FileNode}

theorem Becomes.exists_some {later : Option FileNode} (becomes : Becomes mayWrite (some node) later) :
    ∃ newer, later = some newer := by
  cases becomes <;> exact ⟨_, rfl⟩

/-- A file stays a file, and a directory one with the same rights. -/
theorem Becomes.sameKind {newer : FileNode} (becomes : Becomes mayWrite (some node) (some newer)) :
    (∃ content newerContent, node = .file content ∧ newer = .file newerContent) ∨
      ∃ inner innerLater own, node = .directory inner own ∧ newer = .directory innerLater own := by
  cases becomes with
  | stays =>
      cases node with
      | file content => exact .inl ⟨_, _, rfl, rfl⟩
      | directory inner own => exact .inr ⟨_, _, _, rfl, rfl⟩
  | written content permitted free =>
      cases node with
      | file content => exact .inl ⟨_, _, rfl, rfl⟩
      | directory inner own => exact absurd rfl (free inner own)
  | filled inner innerLater own => exact .inr ⟨_, _, _, rfl, rfl⟩

end Kept

theorem Becomes.trans {mayWrite : Prop} {first second third : Option FileNode}
    (earlier : Becomes mayWrite first second) (later : Becomes mayWrite second third) :
    Becomes mayWrite first third := by
  cases earlier with
  | stays => exact later
  | written content permitted free =>
      cases later with
      | stays => exact .written content permitted free
      | written newer => exact .written newer permitted free
  | filled entries between rights =>
      cases later with
      | stays => exact .filled entries between rights
      | written newer permitted free => exact absurd rfl (free between rights)
      | filled _ last => exact .filled entries last rights
  | made between =>
      cases later with
      | stays => exact .made between
      | written newer permitted free => exact absurd rfl (free between {})
      | filled _ last => exact .made last

theorem exists_put_directory (entries : List (Text × FileNode)) (rights : Rights) {rest : List Text}
    (filled : rest ≠ []) (node : FileNode) :
    ∃ later, (directory entries rights).put rest node = .directory later rights := by
  cases rest with
  | nil => exact absurd rfl filled
  | cons name rest =>
      cases found : entries.lookup name with
      | some below => exact ⟨_, put_present found rest node⟩
      | none =>
          cases rest with
          | nil => exact ⟨_, put_new found node⟩
          | cons next rest => exact ⟨_, put_beyond found (List.cons_ne_nil _ _) node⟩

theorem descend?_file_cons (content : Bytes) (name : Text) (rest : List Text) :
    (file content).descend? (name :: rest) = none := by
  rw [descend?]

theorem descend?_empty_cons (name : Text) (rest : List Text) :
    (directory []).descend? (name :: rest) = none := by
  rw [descend?]
  rfl

variable {writable : List Text → Prop} {tree before after : FileNode}

theorem free_of_absent {names : List Text} (absent : tree.descend? names = none) :
    ¬tree.IsDirectoryAt names := by
  rintro ⟨rights, entries, found⟩
  rw [absent] at found
  cases found

theorem becomes_write {target : List Text} (free : ¬tree.IsDirectoryAt target) (content : Bytes)
    {mayWrite : Prop} {names : List Text} (permitted : names = target → mayWrite) :
    Becomes mayWrite (tree.descend? names) ((tree.put target (.file content)).descend? names) := by
  rcases descend?_put_cases free (descend?_file_cons content) names with same | ⟨rfl, found⟩ |
    ⟨rest, entries, rights, -, there, filled, found⟩
  · rw [same]
    exact .stays _
  · rw [found]
    exact .written content (permitted rfl) fun entries rights present => free ⟨rights, entries, present⟩
  · obtain ⟨later, shape⟩ := exists_put_directory entries rights filled (.file content)
    rw [found, there, shape]
    exact .filled entries later rights

theorem becomes_make {target : List Text} (absent : tree.descend? target = none) (mayWrite : Prop)
    (names : List Text) :
    Becomes mayWrite (tree.descend? names) ((tree.put target (.directory [])).descend? names) := by
  rcases descend?_put_cases (free_of_absent absent) descend?_empty_cons names with same |
    ⟨rfl, found⟩ | ⟨rest, entries, rights, -, there, filled, found⟩
  · rw [same]
    exact .stays _
  · rw [found, absent]
    exact .made []
  · obtain ⟨later, shape⟩ := exists_put_directory entries rights filled (.directory [])
    rw [found, there, shape]
    exact .filled entries later rights

theorem Change.becomes (change : Change writable before after) (names : List Text) :
    Becomes (writable names) (before.descend? names) (after.descend? names) := by
  cases change with
  | write content permitted _ free => exact becomes_write free content fun same => same ▸ permitted
  | make _ absent => exact becomes_make absent _ names

namespace Changes

theorem becomes (changes : Changes writable before after) (names : List Text) :
    Becomes (writable names) (before.descend? names) (after.descend? names) := by
  induction changes with
  | refl => exact .stays _
  | tail _ last ih => exact ih.trans (last.becomes names)

theorem hasRightsAt (changes : Changes writable before after) {names : List Text} {rights : Rights}
    (directory : before.HasRightsAt names rights) : after.HasRightsAt names rights := by
  obtain ⟨entries, found⟩ := directory
  have becomes := changes.becomes names
  rw [found] at becomes
  generalize reached : after.descend? names = node at becomes
  cases becomes with
  | stays => exact ⟨entries, reached⟩
  | written content permitted free => exact absurd rfl (free entries rights)
  | filled _ later => exact ⟨later, reached⟩

theorem isDirectoryAt (changes : Changes writable before after) {names : List Text}
    (directory : before.IsDirectoryAt names) : after.IsDirectoryAt names :=
  directory.imp fun _ => changes.hasRightsAt

theorem isSearchableAt (changes : Changes writable before after) {names : List Text}
    (searchable : before.IsSearchableAt names) : after.IsSearchableAt names :=
  searchable.imp fun _ => And.imp_left changes.hasRightsAt

/-- A file is kept, and so is its content where nothing may be written. -/
theorem file (changes : Changes writable before after) {names : List Text} {content : Bytes}
    (found : before.descend? names = some (.file content)) :
    ∃ later, after.descend? names = some (.file later) ∧ (¬writable names → later = content) := by
  have becomes := changes.becomes names
  rw [found] at becomes
  generalize after.descend? names = node at becomes
  cases becomes with
  | stays => exact ⟨content, rfl, fun _ => rfl⟩
  | written later permitted free => exact ⟨later, rfl, fun spared => absurd permitted spared⟩

/-- A file was there before with its content, or it is where files may be written. -/
theorem file_before (changes : Changes writable before after) {names : List Text} {content : Bytes}
    (found : after.descend? names = some (.file content)) :
    before.descend? names = some (.file content) ∨ writable names := by
  have becomes := changes.becomes names
  rw [found] at becomes
  generalize before.descend? names = node at becomes
  cases becomes with
  | stays => exact .inl rfl
  | written content permitted free => exact .inr permitted

theorem mono {others : List Text → Prop} (permitted : ∀ names, writable names → others names)
    (changes : Changes writable before after) : Changes others before after := by
  refine Relation.ReflTransGen.mono ?_ _ _ changes
  rintro first second change
  cases change with
  | write content found receives free => exact .write content (permitted _ found) receives free
  | make receives absent => exact .make receives absent

end Changes

end FileNode

end DocSite
