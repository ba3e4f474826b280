/-
Proper file trees.

In a proper tree no directory has two entries of one name, and every name is one that a path can end in. Changes
keep a tree proper.
-/
import DocSite.Proofs.Files.Changes
import Mathlib.Data.List.Nodup

namespace DocSite

namespace FileNode

inductive Proper : FileNode → Prop
  | file (content : Bytes) : Proper (.file content)
  | directory {entries : List (Text × FileNode)} {rights : Rights} (distinct : (entries.map Prod.fst).Nodup)
      (named : ∀ entry ∈ entries, IsEntryName entry.1) (below : ∀ entry ∈ entries, Proper entry.2) :
      Proper (.directory entries rights)

section Entries

variable {entries : List (Text × FileNode)} {name : Text} {node : FileNode}

theorem mem_of_lookup (present : entries.lookup name = some node) : (name, node) ∈ entries := by
  obtain ⟨before, after, rfl, -⟩ := List.lookup_eq_some_iff.mp present
  exact List.mem_append_right before List.mem_cons_self

theorem lookup_of_mem {entry : Text × FileNode} (distinct : (entries.map Prod.fst).Nodup)
    (member : entry ∈ entries) : entries.lookup entry.1 = some entry.2 := by
  obtain ⟨before, after, rfl⟩ := List.append_of_mem member
  refine List.lookup_eq_some_iff.mpr ⟨before, after, rfl, fun other earlier => bne_iff_ne.mpr fun same => ?_⟩
  rw [List.map_append, List.map_cons, List.nodup_append] at distinct
  exact distinct.2.2 other.1 (List.mem_map_of_mem earlier) entry.1 List.mem_cons_self same.symm

theorem mem_names_of_lookup (present : entries.lookup name = some node) : name ∈ entries.map Prod.fst :=
  List.mem_map_of_mem (mem_of_lookup present)

theorem exists_lookup_of_mem_names (distinct : (entries.map Prod.fst).Nodup)
    (listed : name ∈ entries.map Prod.fst) : ∃ node, entries.lookup name = some node := by
  obtain ⟨entry, member, rfl⟩ := List.mem_map.mp listed
  exact ⟨entry.2, lookup_of_mem distinct member⟩

theorem mem_putEntry {entry : Text × FileNode} (member : entry ∈ putEntry name node entries) :
    entry = (name, node) ∨ entry ∈ entries := by
  induction entries with
  | nil => exact .inl (List.mem_singleton.mp member)
  | cons first entries ih =>
      rw [putEntry] at member
      split at member
      · exact (List.mem_cons.mp member).imp_right (List.mem_cons_of_mem _)
      · rcases List.mem_cons.mp member with rfl | further
        · exact .inr List.mem_cons_self
        · exact (ih further).imp_right (List.mem_cons_of_mem _)

theorem nodup_putEntry (distinct : (entries.map Prod.fst).Nodup) :
    ((putEntry name node entries).map Prod.fst).Nodup := by
  induction entries with
  | nil => exact List.nodup_singleton name
  | cons first entries ih =>
      rw [List.map_cons, List.nodup_cons] at distinct
      rw [putEntry]
      split
      · rename_i same
        rw [List.map_cons, List.nodup_cons, ← same]
        exact distinct
      · rename_i other
        rw [List.map_cons, List.nodup_cons]
        refine ⟨fun listed => ?_, ih distinct.2⟩
        obtain ⟨entry, member, same⟩ := List.mem_map.mp listed
        rcases mem_putEntry member with rfl | further
        · exact other same.symm
        · exact distinct.1 (same ▸ List.mem_map_of_mem further)

end Entries

namespace Proper

theorem single {name : Text} (named : IsEntryName name) (content : Bytes) (rights : Rights) :
    Proper (.directory [(name, .file content)] rights) :=
  .directory (List.nodup_singleton _) (List.forall_mem_singleton.mpr named)
    (List.forall_mem_singleton.mpr (.file content))

variable {tree node : FileNode} {entries : List (Text × FileNode)} {rights : Rights} {name : Text}

theorem lookup (proper : Proper (.directory entries rights)) (present : entries.lookup name = some node) :
    node.Proper := by
  cases proper with
  | directory distinct named below => exact below _ (mem_of_lookup present)

theorem isEntryName (proper : Proper (.directory entries rights)) (present : entries.lookup name = some node) :
    IsEntryName name := by
  cases proper with
  | directory distinct named below => exact named _ (mem_of_lookup present)

theorem nodup (proper : Proper (.directory entries rights)) : (entries.map Prod.fst).Nodup := by
  cases proper with
  | directory distinct named below => exact distinct

/-- What stands in a proper tree is proper. -/
theorem descend? (proper : tree.Proper) {names : List Text} (found : tree.descend? names = some node) :
    node.Proper := by
  induction names generalizing tree with
  | nil =>
      rw [FileNode.descend?, Option.some.injEq] at found
      exact found ▸ proper
  | cons name names ih =>
      cases tree with
      | file content => cases found
      | directory entries rights =>
          rw [FileNode.descend?] at found
          obtain ⟨below, present, further⟩ := Option.bind_eq_some_iff.mp found
          exact ih (proper.lookup present) further

theorem putEntry (proper : Proper (.directory entries rights)) (named : IsEntryName name)
    (properNode : node.Proper) : Proper (.directory (FileNode.putEntry name node entries) rights) := by
  cases proper with
  | directory distinct namedEntries below =>
      refine .directory (nodup_putEntry distinct) (fun entry member => ?_) fun entry member => ?_
      · rcases mem_putEntry member with rfl | there
        · exact named
        · exact namedEntries entry there
      · rcases mem_putEntry member with rfl | there
        · exact properNode
        · exact below entry there

theorem put (proper : tree.Proper) (above : List Text) (named : IsEntryName name) (properNode : node.Proper) :
    (tree.put (above ++ [name]) node).Proper := by
  induction above generalizing tree with
  | nil =>
      cases tree with
      | file content => exact .file content
      | directory entries rights =>
          rw [List.nil_append]
          cases found : entries.lookup name with
          | some below =>
              rw [put_present found, put_nil]
              exact proper.putEntry named properNode
          | none =>
              rw [put_new found]
              exact proper.putEntry named properNode
  | cons first above ih =>
      cases tree with
      | file content => exact .file content
      | directory entries rights =>
          rw [List.cons_append]
          cases found : entries.lookup first with
          | some below =>
              rw [put_present found]
              exact proper.putEntry (proper.isEntryName found) (ih (proper.lookup found))
          | none =>
              rw [put_beyond found (List.append_ne_nil_of_right_ne_nil _ (List.cons_ne_nil _ _))]
              exact proper

end Proper

theorem Change.proper {writable : List Text → Prop} {before after : FileNode}
    (change : Change writable before after) (proper : before.Proper) : after.Proper := by
  cases change with
  | write content permitted receives free =>
      obtain ⟨above, name, rfl, -, named⟩ := receives
      exact proper.put above named (.file content)
  | make receives absent =>
      obtain ⟨above, name, rfl, -, named⟩ := receives
      exact proper.put above named (.directory List.nodup_nil (List.forall_mem_nil _) (List.forall_mem_nil _))

/-- Files that are written and directories that are made leave a proper tree. -/
theorem Changes.proper {writable : List Text → Prop} {before after : FileNode}
    (changes : Changes writable before after) (proper : before.Proper) : after.Proper := by
  induction changes with
  | refl => exact proper
  | tail _ last ih => exact last.proper ih

end FileNode

end DocSite
