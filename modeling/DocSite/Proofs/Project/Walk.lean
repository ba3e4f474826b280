/-
The walk through directories.

A walk lists a directory, visits the entries in the order of their names, and enters the directories among them
that are neither ignored nor hidden. It passes over a directory that may not be listed and over the entries of one
that may not be searched. The only thing that breaks it off is a path that is too long to be looked at, so whether
a walk comes to an end is told by the paths that it looks at.
-/
import DocSite.Proofs.Files.Looking
import DocSite.Proofs.Files.Proper
import DocSite.Proofs.Project.Suffixes

namespace DocSite

open Reading (value_bind)

/-! ### Paths below a path -/

namespace FilePath

def below (path : FilePath) (names : List Text) : FilePath :=
  ⟨path.anchor, path.parts ++ names⟩

theorem below_child (path : FilePath) (name : Text) (names : List Text) :
    (path.child name).below names = path.below (name :: names) :=
  congrArg (FilePath.mk path.anchor) (List.append_assoc ..)

theorem below_inj {path : FilePath} {names others : List Text} :
    path.below names = path.below others ↔ names = others := by
  rw [below, below, FilePath.mk.injEq, and_iff_right rfl, List.append_cancel_left_eq]

def Fits (path : FilePath) : Prop := (encodeUtf8 path.text).length ≤ pathLimit

instance (path : FilePath) : Decidable path.Fits := inferInstanceAs (Decidable (_ ≤ _))

end FilePath

/-! ### Entries -/

namespace Workspace

variable {workspace : Workspace} {directory : FilePath} {entries : List (Text × FileNode)} {rights : Rights}
  {name : Text}

theorem follow_append {root : FileNode} {reached front middle : List Text}
    (leads : follow root reached front = .ok middle) (rest : List Text) :
    follow root reached (front ++ rest) = follow root middle rest := by
  induction front generalizing reached with
  | nil =>
      cases leads
      rfl
  | cons part front ih =>
      obtain ⟨⟨rights, ⟨entries, found⟩, searches⟩, short, further⟩ := follow_cons_eq_ok.mp leads
      rw [List.cons_append, follow, found]
      dsimp only
      rw [searches, Bool.not_true, if_neg Bool.false_ne_true, if_neg (Nat.not_lt.mpr short)]
      exact ih further

/-- What is seen at an entry of a directory. -/
theorem node?_child (found : workspace.node? directory = .ok (some (.directory entries rights)))
    (named : FileNode.IsEntryName name) :
    workspace.node? (directory.child name) =
      if ¬(directory.child name).Fits then .error .nameTooLong
      else if rights.searches then .ok (entries.lookup name) else .error .denied := by
  obtain ⟨above, resolved, reached⟩ := node?_eq_some.mp found
  obtain ⟨noNull, -, leads⟩ := resolve_eq_ok.mp resolved
  have noNullChild : (directory.child name).hasNull = false := by
    have last : name.contains '\x00' = false := by
      rw [← Bool.not_eq_true, List.contains_iff_mem]
      exact named.noNull
    unfold FilePath.hasNull at noNull ⊢
    rw [FilePath.child, List.any_append, noNull, List.any_cons, last]
    rfl
  by_cases fits : (directory.child name).Fits
  · have further : workspace.resolve (directory.child name) = follow workspace.root above [name] := by
      rw [resolve, noNullChild, if_neg Bool.false_ne_true, if_neg (Nat.not_lt.mpr fits)]
      exact follow_append leads [name]
    rw [if_neg (not_not_intro fits)]
    rw [follow, reached] at further
    dsimp only at further
    cases searches : rights.searches with
    | false =>
        rw [searches, Bool.not_false, if_pos rfl] at further
        exact node?_of_error further
    | true =>
        rw [searches, Bool.not_true, if_neg Bool.false_ne_true, if_neg (Nat.not_lt.mpr named.short),
          if_neg named.ordinary, follow] at further
        rw [if_pos rfl, node?_of_resolve further, FileNode.descend?_append, reached, Option.bind_some,
          FileNode.descend?]
        cases entries.lookup name <;> rfl
  · have failed : workspace.resolve (directory.child name) = .error .nameTooLong := by
      rw [resolve, noNullChild, if_neg Bool.false_ne_true, if_pos (Nat.lt_of_not_le fits)]
    rw [if_pos fits]
    exact node?_of_error failed

theorem node_of_node? {node : FileNode} (found : workspace.node? directory = .ok (some node)) :
    workspace.node directory = .ok node := by
  unfold node? at found
  split at found <;> cases found
  assumption

theorem list_eq (found : workspace.node? directory = .ok (some (.directory entries rights))) :
    workspace.list directory = if rights.lists then .ok (entries.map Prod.fst) else .error .denied := by
  unfold list
  rw [node_of_node? found]
  rfl

end Workspace

section Entries

variable {workspace : Workspace} {ignored : List Text} {path : FilePath}
  {enter : workspace.isDirectory path = .ok true → Reading (List FilePath)}

theorem visitEntry_error {error : FileError} (looked : workspace.node? path = .error error)
    (other : error ≠ .denied) : visitEntry workspace ignored path enter = throw (.file error) := by
  have isDirectory : workspace.isDirectory path = .error error := by
    rw [Workspace.isDirectory, looked]
    rfl
  unfold visitEntry
  split <;> rename_i same <;> rw [isDirectory] at same <;> cases same
  · exact absurd rfl other
  · rfl

theorem visitEntry_denied (looked : workspace.node? path = .error .denied) :
    visitEntry workspace ignored path enter = passOver path := by
  have isDirectory : workspace.isDirectory path = .error .denied := by
    rw [Workspace.isDirectory, looked]
    rfl
  unfold visitEntry
  split <;> rename_i same
  · rfl
  · rename_i other
    rw [isDirectory] at same
    cases same
    exact absurd rfl other
  · rw [isDirectory] at same
    cases same
  · rw [isDirectory] at same
    cases same

theorem visitEntry_file {content : Bytes} (looked : workspace.node? path = .ok (some (.file content))) :
    visitEntry workspace ignored path enter = pure (if isSourceFile path then [path] else []) := by
  have isDirectory : workspace.isDirectory path = .ok false := by
    rw [Workspace.isDirectory, looked]
    rfl
  have isFile : workspace.isFile path = .ok true := by
    rw [Workspace.isFile, looked]
    rfl
  unfold visitEntry
  split <;> rename_i same <;> rw [isDirectory] at same <;> cases same
  rw [isFile]
  rfl

theorem visitEntry_directory {entries : List (Text × FileNode)} {rights : Rights}
    (looked : workspace.node? path = .ok (some (.directory entries rights)))
    {further : Reading (List FilePath)} (entered : ∀ isThere, enter isThere = further) :
    visitEntry workspace ignored path enter = if isIgnored ignored path.name then pure [] else further := by
  have isDirectory : workspace.isDirectory path = .ok true := by
    rw [Workspace.isDirectory, looked]
    rfl
  unfold visitEntry
  split <;> rename_i same <;> rw [isDirectory] at same <;> cases same
  rw [entered]

end Entries

/-! ### Gathering -/

def gather {Item : Type} (items : List Item) (read : Item → Reading (List FilePath)) :
    Reading (List FilePath) := do
  return (← items.mapM read).flatten

section Gathering

variable {Item : Type} {items : List Item} {read other : Item → Reading (List FilePath)}

theorem gather_cons (item : Item) (items : List Item) (read : Item → Reading (List FilePath)) :
    gather (item :: items) read = do
      let first ← read item
      let rest ← gather items read
      return first ++ rest := by
  unfold gather
  rw [List.mapM_cons]
  simp only [bind_assoc, pure_bind, List.flatten_cons]

theorem gather_congr (same : ∀ item ∈ items, read item = other item) : gather items read = gather items other := by
  induction items with
  | nil => rfl
  | cons item items ih =>
      rw [gather_cons, gather_cons, same item List.mem_cons_self,
        ih fun later member => same later (List.mem_cons_of_mem _ member)]

/-- Items that contribute nothing can be left out. -/
theorem gather_filter (keep : Item → Bool) (idle : ∀ item ∈ items, keep item = false → read item = pure []) :
    gather items read = gather (items.filter keep) read := by
  induction items with
  | nil => rfl
  | cons item items ih =>
      have further := ih fun later member => idle later (List.mem_cons_of_mem _ member)
      cases kept : keep item with
      | true => rw [List.filter_cons_of_pos kept, gather_cons, gather_cons, further]
      | false =>
          have nothing := idle item List.mem_cons_self kept
          rw [List.filter_cons_of_neg (Bool.eq_false_iff.mp kept), gather_cons, nothing, pure_bind, further]
          exact bind_pure _

theorem gather_idle (idle : ∀ item ∈ items, read item = pure []) : gather items read = pure [] := by
  rw [gather_filter (fun _ => false) fun item member _ => idle item member, List.filter_false]
  rfl

end Gathering

theorem mem_visitOrder {name : Text} {names : List Text} : name ∈ visitOrder names ↔ name ∈ names :=
  List.mem_mergeSort

theorem nodup_visitOrder {names : List Text} : (visitOrder names).Nodup ↔ names.Nodup :=
  (List.mergeSort_perm names _).nodup_iff

section Walk

variable {workspace : Workspace} {ignored : List Text} {directory : FilePath}
  {entries : List (Text × FileNode)} {rights : Rights}

def visit (workspace : Workspace) (ignored : List Text) (directory : FilePath) (name : Text) :
    Reading (List FilePath) :=
  visitEntry workspace ignored (directory.child name) fun _ =>
    sourcesBelow workspace ignored (directory.child name)

theorem visit_directory {name : Text} {inner : List (Text × FileNode)} {own : Rights}
    (looked : workspace.node? (directory.child name) = .ok (some (.directory inner own))) :
    visit workspace ignored directory name =
      if isIgnored ignored name then pure [] else sourcesBelow workspace ignored (directory.child name) := by
  rw [visit, visitEntry_directory looked fun _ => rfl, FilePath.name_child]

/-- The walk through a directory that is there. -/
theorem sourcesBelow_eq (found : workspace.node? directory = .ok (some (.directory entries rights))) :
    sourcesBelow workspace ignored directory =
      if rights.lists then gather (visitOrder (entries.map Prod.fst)) (visit workspace ignored directory)
      else passOver directory := by
  rw [sourcesBelow, Workspace.list_eq found]
  cases rights.lists <;> rfl

/-- A walk goes down for as long as paths can be looked at, so what holds of a directory if it holds of the
directories in it holds of every directory. -/
theorem walk_induction (workspace : Workspace) {holds : FilePath → Prop}
    (step : ∀ directory, (∀ name, workspace.isDirectory (directory.child name) = .ok true →
      holds (directory.child name)) → holds directory) (directory : FilePath) : holds directory := by
  generalize size : pathLimit + 2 - directory.parts.length = left
  induction left using Nat.strong_induction_on generalizing directory with
  | _ left ih =>
      refine step directory fun name isThere => ih _ ?_ _ rfl
      have bound := Workspace.length_parts_le_of_isDirectory isThere
      unfold FilePath.child at bound ⊢
      rw [List.length_append, List.length_singleton] at bound ⊢
      omega

end Walk

end DocSite
