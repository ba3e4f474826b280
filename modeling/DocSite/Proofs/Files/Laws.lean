/-
Laws of file trees.

A node that has been put at the end of a way is what is found there, the last of several nodes put at one
place stays, and nodes put at different places do not depend on their order. What is found at the end of
another way follows from how the two ways lie to each other: apart, one above the other, or one below it.
-/
import DocSite.Proofs.Files.Writing

namespace DocSite

namespace FileNode

/-! ### Entries -/

section Entries

variable {name other : Text} {entries : List (Text × FileNode)}

theorem putEntry_putEntry (first second : FileNode) :
    putEntry name second (putEntry name first entries) = putEntry name second entries := by
  induction entries with
  | nil => simp [putEntry]
  | cons entry entries ih =>
      by_cases same : entry.1 = name
      · simp [putEntry, same]
      · simp only [putEntry, if_neg same, ih]

theorem putEntry_eq_self {node : FileNode} (present : entries.lookup name = some node) :
    putEntry name node entries = entries := by
  induction entries with
  | nil => cases present
  | cons entry entries ih =>
      rw [List.lookup_cons] at present
      by_cases same : entry.1 = name
      · rw [← same, beq_self_eq_true] at present
        cases present
        rw [putEntry, if_pos same, ← same]
      · rw [beq_eq_false_iff_ne.mpr (Ne.symm same)] at present
        rw [putEntry, if_neg same, ih present]

/-- Entries that are there keep their places, so two of them are replaced in either order. -/
theorem putEntry_comm (apart : name ≠ other) {node : FileNode} (present : entries.lookup name = some node)
    (first second : FileNode) :
    putEntry other second (putEntry name first entries) =
      putEntry name first (putEntry other second entries) := by
  induction entries with
  | nil => cases present
  | cons entry entries ih =>
      rw [List.lookup_cons] at present
      by_cases same : entry.1 = name
      · have stays : entry.1 ≠ other := fun equal => apart (same.symm.trans equal)
        simp [putEntry, same, apart]
      · rw [beq_eq_false_iff_ne.mpr (Ne.symm same)] at present
        by_cases equal : entry.1 = other
        · simp [putEntry, equal, Ne.symm apart]
        · simp only [putEntry, if_neg same, if_neg equal, ih present]

end Entries

/-! ### One place -/

theorem descend?_append (tree : FileNode) (front rest : List Text) :
    tree.descend? (front ++ rest) = (tree.descend? front).bind fun below => below.descend? rest := by
  induction front generalizing tree with
  | nil =>
      rw [List.nil_append, descend?]
      rfl
  | cons name front ih =>
      cases tree with
      | file content => rfl
      | directory entries rights =>
          rw [List.cons_append, descend?, descend?, Option.bind_assoc]
          exact congrArg _ (funext ih)

theorem put_nil (tree node : FileNode) : tree.put [] node = node := by
  rw [put]

theorem put_file (content : Bytes) (name : Text) (rest : List Text) (node : FileNode) :
    (file content).put (name :: rest) node = .file content := by
  rw [put]

theorem put_present {entries : List (Text × FileNode)} {rights : Rights} {name : Text} {below : FileNode}
    (present : entries.lookup name = some below) (rest : List Text) (node : FileNode) :
    (directory entries rights).put (name :: rest) node =
      .directory (putEntry name (below.put rest node) entries) rights := by
  rw [put]
  simp only [present]

theorem put_new {entries : List (Text × FileNode)} {rights : Rights} {name : Text}
    (absent : entries.lookup name = none) (node : FileNode) :
    (directory entries rights).put [name] node = .directory (putEntry name node entries) rights := by
  rw [put]
  simp only [absent, List.isEmpty_nil, if_pos]

theorem put_beyond {entries : List (Text × FileNode)} {rights : Rights} {name : Text}
    (absent : entries.lookup name = none) {rest : List Text} (filled : rest ≠ []) (node : FileNode) :
    (directory entries rights).put (name :: rest) node = .directory entries rights := by
  have isFilled : rest.isEmpty = false := List.isEmpty_eq_false_iff.mpr filled
  rw [put]
  simp only [absent, isFilled, if_neg Bool.false_ne_true]

theorem put_put (tree : FileNode) (names : List Text) (first second : FileNode) :
    (tree.put names first).put names second = tree.put names second := by
  induction names generalizing tree with
  | nil => rw [put_nil, put_nil]
  | cons name rest ih =>
      cases tree with
      | file content => rw [put_file, put_file]
      | directory entries rights =>
          cases found : entries.lookup name with
          | some below =>
              rw [put_present found, put_present found, put_present (lookup_putEntry _ _ _), ih,
                putEntry_putEntry]
          | none =>
              cases rest with
              | nil =>
                  rw [put_new found, put_new found, put_present (lookup_putEntry _ _ _), put_nil,
                    putEntry_putEntry]
              | cons next rest =>
                  rw [put_beyond found (List.cons_ne_nil _ _), put_beyond found (List.cons_ne_nil _ _)]

theorem put_eq_self {tree node : FileNode} {names : List Text} (found : tree.descend? names = some node) :
    tree.put names node = tree := by
  induction names generalizing tree with
  | nil =>
      rw [descend?, Option.some.injEq] at found
      rw [put_nil, found]
  | cons name rest ih =>
      cases tree with
      | file content => cases found
      | directory entries rights =>
          rw [descend?] at found
          obtain ⟨below, present, further⟩ := Option.bind_eq_some_iff.mp found
          rw [put_present present, ih further, putEntry_eq_self present]

/-! ### Two places -/

/-- Files that are there are replaced in either order. -/
theorem put_comm {tree : FileNode} {names others : List Text} (apart : names ≠ others) {old older : Bytes}
    (present : tree.descend? names = some (.file old)) (presentToo : tree.descend? others = some (.file older))
    (first second : FileNode) :
    (tree.put names first).put others second = (tree.put others second).put names first := by
  induction names generalizing tree others with
  | nil =>
      rw [descend?, Option.some.injEq] at present
      cases others with
      | nil => exact absurd rfl apart
      | cons name others =>
          rw [present] at presentToo
          cases presentToo
  | cons name names ih =>
      cases tree with
      | file content => cases present
      | directory entries rights =>
          rw [descend?] at present
          obtain ⟨below, isBelow, further⟩ := Option.bind_eq_some_iff.mp present
          cases others with
          | nil => cases presentToo
          | cons other others =>
              rw [descend?] at presentToo
              obtain ⟨beside, isBeside, furtherToo⟩ := Option.bind_eq_some_iff.mp presentToo
              by_cases same : name = other
              · subst same
                obtain rfl : below = beside := Option.some.inj (isBelow.symm.trans isBeside)
                have inner := ih (fun equal => apart (congrArg _ equal)) further furtherToo
                rw [put_present isBelow, put_present isBelow, put_present (lookup_putEntry _ _ _),
                  put_present (lookup_putEntry _ _ _), inner, putEntry_putEntry, putEntry_putEntry]
              · have stays := lookup_putEntry_of_ne name (below.put names first) entries (Ne.symm same)
                have staysToo := lookup_putEntry_of_ne other (beside.put others second) entries same
                rw [put_present isBelow, put_present isBeside, put_present (stays.trans isBeside),
                  put_present (staysToo.trans isBelow), putEntry_comm same isBelow]

section Descent

variable {tree node : FileNode} {names target : List Text}

/-- Ways of which none goes on from the other do not meet. -/
theorem descend?_put_of_apart (notAbove : ¬names <+: target) (notBelow : ¬target <+: names) :
    (tree.put target node).descend? names = tree.descend? names := by
  induction target generalizing tree names with
  | nil => exact absurd (List.nil_prefix) notBelow
  | cons name target ih =>
      cases names with
      | nil => exact absurd (List.nil_prefix) notAbove
      | cons first names =>
          cases tree with
          | file content => rw [put_file]
          | directory entries rights =>
              by_cases same : first = name
              · subst same
                rw [List.prefix_cons_inj] at notAbove notBelow
                cases found : entries.lookup first with
                | some below =>
                    rw [put_present found, descend?, descend?, lookup_putEntry, found, Option.bind_some,
                      Option.bind_some, ih notAbove notBelow]
                | none =>
                    have filled : target ≠ [] := fun empty => notBelow (empty ▸ List.nil_prefix)
                    rw [put_beyond found filled]
              · cases found : entries.lookup name with
                | some below =>
                    rw [put_present found, descend?, descend?, lookup_putEntry_of_ne _ _ _ same]
                | none =>
                    cases target with
                    | nil => rw [put_new found, descend?, descend?, lookup_putEntry_of_ne _ _ _ same]
                    | cons next target => rw [put_beyond found (List.cons_ne_nil _ _)]

/-- What stands above the place of a new node has the node put into it. -/
theorem descend?_put_above (names : List Text) {rest : List Text} (filled : rest ≠ []) :
    (tree.put (names ++ rest) node).descend? names =
      (tree.descend? names).map fun above => above.put rest node := by
  induction names generalizing tree with
  | nil => rw [List.nil_append, descend?, descend?, Option.map_some]
  | cons name names ih =>
      cases tree with
      | file content =>
          rw [List.cons_append, put_file]
          rfl
      | directory entries rights =>
          rw [List.cons_append]
          cases found : entries.lookup name with
          | some below =>
              rw [put_present found, descend?, descend?, lookup_putEntry, found, Option.bind_some,
                Option.bind_some, ih]
          | none =>
              have further : names ++ rest ≠ [] := fun empty => filled (List.append_eq_nil_iff.mp empty).2
              rw [put_beyond found further, descend?, found]
              rfl

/-- Below the place of a new node stands what is in the node, unless the way leads through something that
is no directory, and nothing has changed. -/
theorem descend?_put_below (tree node : FileNode) (target : List Text) :
    tree.put target node = tree ∨
      ∀ rest, (tree.put target node).descend? (target ++ rest) = node.descend? rest := by
  induction target generalizing tree with
  | nil => exact .inr fun rest => by rw [put_nil, List.nil_append]
  | cons name target ih =>
      cases tree with
      | file content => exact .inl (put_file content name target node)
      | directory entries rights =>
          cases found : entries.lookup name with
          | some below =>
              rw [put_present found]
              rcases ih below with unchanged | inside
              · exact .inl (by rw [unchanged, putEntry_eq_self found])
              · refine .inr fun rest => ?_
                rw [List.cons_append, descend?, lookup_putEntry, Option.bind_some, inside]
          | none =>
              cases target with
              | nil =>
                  refine .inr fun rest => ?_
                  rw [put_new found, List.singleton_append, descend?, lookup_putEntry, Option.bind_some]
              | cons next target => exact .inl (put_beyond found (List.cons_ne_nil _ _) node)

end Descent

end FileNode

end DocSite
