/-
Files that have been written.

A file is written at a path that leads to no directory. Writing changes the tree at the end of that path
only: every directory is still reached by the names that led to it, so the path is resolved as before and
leads to the new content.
-/
import DocSite.Files.Tree
import DocSite.Proofs.Files.Encoding

namespace DocSite

namespace FileNode

/-! ### Entries -/

section Entries

variable (name : Text) (node : FileNode) (entries : List (Text × FileNode))

theorem lookup_putEntry : (putEntry name node entries).lookup name = some node := by
  induction entries with
  | nil => simp [putEntry]
  | cons entry entries ih =>
      rw [putEntry]
      split
      · simp
      · rename_i other
        have apart : (name == entry.1) = false := beq_eq_false_iff_ne.mpr (Ne.symm other)
        rw [List.lookup_cons, apart]
        exact ih

theorem lookup_putEntry_of_ne {other : Text} (apart : other ≠ name) :
    (putEntry name node entries).lookup other = entries.lookup other := by
  induction entries with
  | nil =>
      have noEntry : (other == name) = false := beq_eq_false_iff_ne.mpr apart
      rw [putEntry, List.lookup_cons, noEntry]
  | cons entry entries ih =>
      rw [putEntry]
      split
      · rename_i same
        have noEntry : (other == name) = false := beq_eq_false_iff_ne.mpr apart
        rw [List.lookup_cons, List.lookup_cons, same, noEntry]
      · rw [List.lookup_cons, List.lookup_cons, ih]

end Entries

/-! ### Directories on a way -/

/-- Whether names lead to a directory with which certain things may be done. -/
def HasRightsAt (tree : FileNode) (names : List Text) (rights : Rights) : Prop :=
  ∃ entries, tree.descend? names = some (.directory entries rights)

def IsDirectoryAt (tree : FileNode) (names : List Text) : Prop :=
  ∃ rights, tree.HasRightsAt names rights

def IsSearchableAt (tree : FileNode) (names : List Text) : Prop :=
  ∃ rights, tree.HasRightsAt names rights ∧ rights.searches = true

theorem IsSearchableAt.isDirectoryAt {tree : FileNode} {names : List Text}
    (searchable : tree.IsSearchableAt names) : tree.IsDirectoryAt names :=
  searchable.imp fun _ both => both.1

theorem not_isDirectoryAt_file (content : Bytes) (names : List Text) :
    ¬IsDirectoryAt (.file content) names := by
  rintro ⟨rights, entries, found⟩
  cases names with
  | nil => cases found
  | cons name names => cases found

theorem hasRightsAt_cons {entries : List (Text × FileNode)} {above rights : Rights} {name : Text}
    {names : List Text} :
    HasRightsAt (.directory entries above) (name :: names) rights ↔
      ∃ below, entries.lookup name = some below ∧ below.HasRightsAt names rights := by
  unfold HasRightsAt
  rw [descend?]
  constructor
  · rintro ⟨inner, found⟩
    obtain ⟨below, isBelow, further⟩ := Option.bind_eq_some_iff.mp found
    exact ⟨below, isBelow, inner, further⟩
  · rintro ⟨below, isBelow, inner, further⟩
    exact ⟨inner, Option.bind_eq_some_iff.mpr ⟨below, isBelow, further⟩⟩

theorem isDirectoryAt_cons {entries : List (Text × FileNode)} {above : Rights} {name : Text}
    {names : List Text} :
    IsDirectoryAt (.directory entries above) (name :: names) ↔
      ∃ below, entries.lookup name = some below ∧ below.IsDirectoryAt names := by
  unfold IsDirectoryAt
  simp only [hasRightsAt_cons]
  constructor
  · rintro ⟨rights, below, isBelow, further⟩
    exact ⟨below, isBelow, rights, further⟩
  · rintro ⟨below, isBelow, rights, further⟩
    exact ⟨rights, below, isBelow, further⟩

/-- What leads to a directory has led to directories. -/
theorem isDirectoryAt_dropLast {tree : FileNode} {names : List Text} (directory : tree.IsDirectoryAt names) :
    tree.IsDirectoryAt names.dropLast := by
  induction names generalizing tree with
  | nil => exact directory
  | cons name names ih =>
      cases tree with
      | file content => exact absurd directory (not_isDirectoryAt_file content _)
      | directory entries rights =>
          obtain ⟨below, isBelow, further⟩ := isDirectoryAt_cons.mp directory
          cases names with
          | nil => exact ⟨rights, entries, rfl⟩
          | cons next names =>
              rw [List.dropLast_cons_cons]
              exact isDirectoryAt_cons.mpr ⟨below, isBelow, ih further⟩

/-! ### Trees with a new node -/

theorem descend?_put {tree : FileNode} {parent : List Text} (directory : tree.IsDirectoryAt parent)
    (name : Text) (node : FileNode) :
    (tree.put (parent ++ [name]) node).descend? (parent ++ [name]) = some node := by
  induction parent generalizing tree with
  | nil =>
      cases tree with
      | file content => exact absurd directory (not_isDirectoryAt_file content _)
      | directory entries rights =>
          have placed : (FileNode.directory entries rights).put [name] node =
              .directory (putEntry name node entries) rights := by
            rw [put]
            cases found : entries.lookup name with
            | none => rfl
            | some below =>
                dsimp only
                rw [put]
          rw [List.nil_append, placed, descend?, lookup_putEntry]
          rfl
  | cons first parent ih =>
      cases tree with
      | file content => exact absurd directory (not_isDirectoryAt_file content _)
      | directory entries rights =>
          obtain ⟨below, isBelow, further⟩ := isDirectoryAt_cons.mp directory
          rw [List.cons_append, put, isBelow]
          dsimp only
          rw [descend?, lookup_putEntry]
          exact ih further

theorem hasRightsAt_putEntry {entries : List (Text × FileNode)} {own rights : Rights} {name : Text}
    {node : FileNode} {reached : List Text} (directory : (FileNode.directory entries own).HasRightsAt reached rights)
    (inside : ∀ inner rest, entries.lookup name = some inner → inner.HasRightsAt rest rights →
      node.HasRightsAt rest rights) :
    (FileNode.directory (putEntry name node entries) own).HasRightsAt reached rights := by
  cases reached with
  | nil =>
      obtain ⟨_, same⟩ := directory
      cases same
      exact ⟨_, rfl⟩
  | cons first reached =>
      obtain ⟨below, isBelow, further⟩ := hasRightsAt_cons.mp directory
      by_cases same : first = name
      · subst same
        exact hasRightsAt_cons.mpr ⟨node, lookup_putEntry _ _ _, inside below reached isBelow further⟩
      · refine hasRightsAt_cons.mpr ⟨below, ?_, further⟩
        rw [lookup_putEntry_of_ne _ _ _ same, isBelow]

/-- Putting a node where no directory is leaves every directory where it was, and as it may be used. -/
theorem hasRightsAt_put {tree : FileNode} {target reached : List Text} {rights : Rights} (node : FileNode)
    (free : ¬tree.IsDirectoryAt target) (directory : tree.HasRightsAt reached rights) :
    (tree.put target node).HasRightsAt reached rights := by
  induction target generalizing tree reached with
  | nil =>
      cases tree with
      | file content => exact absurd ⟨rights, directory⟩ (not_isDirectoryAt_file content _)
      | directory entries own => exact absurd ⟨own, entries, rfl⟩ free
  | cons name target ih =>
      cases tree with
      | file content => exact absurd ⟨rights, directory⟩ (not_isDirectoryAt_file content _)
      | directory entries own =>
          rw [put]
          cases found : entries.lookup name with
          | none =>
              dsimp only
              split
              · refine hasRightsAt_putEntry directory fun inner rest present => ?_
                rw [found] at present
                cases present
              · exact directory
          | some inner =>
              dsimp only
              refine hasRightsAt_putEntry directory fun other rest present further => ?_
              obtain rfl := Option.some.inj (found.symm.trans present)
              exact ih (fun inside => free (isDirectoryAt_cons.mpr ⟨_, found, inside⟩)) further

theorem isSearchableAt_put {tree : FileNode} {target reached : List Text} (node : FileNode)
    (free : ¬tree.IsDirectoryAt target) (searchable : tree.IsSearchableAt reached) :
    (tree.put target node).IsSearchableAt reached :=
  searchable.imp fun _ => And.imp_left (hasRightsAt_put node free)

end FileNode

namespace Workspace

open FileNode (HasRightsAt IsDirectoryAt IsSearchableAt)

/-! ### Following a path -/

/-- One component of a path: it is followed from a directory that may be searched. -/
theorem follow_cons_eq_ok {root : FileNode} {reached rest names : List Text} {part : Text} :
    follow root reached (part :: rest) = .ok names ↔
      root.IsSearchableAt reached ∧ (encodeUtf8 part).length ≤ nameLimit ∧
        follow root (if part = ['.', '.'] then reached.dropLast else reached ++ [part]) rest = .ok names := by
  rw [follow]
  unfold IsSearchableAt HasRightsAt
  cases found : root.descend? reached with
  | none => simp
  | some node =>
      cases node with
      | file content => simp
      | directory entries rights =>
          dsimp only
          cases searches : rights.searches with
          | false =>
              refine iff_of_false (fun failed => nomatch failed) fun step => ?_
              obtain ⟨⟨other, ⟨_, same⟩, searchable⟩, -⟩ := step
              cases same
              rw [searches] at searchable
              cases searchable
          | true =>
              rw [Bool.not_true, if_neg Bool.false_ne_true]
              split
              · rename_i long
                exact iff_of_false (fun failed => nomatch failed)
                  fun short => absurd short.2.1 (Nat.not_le.mpr long)
              · rename_i short
                exact ⟨fun further => ⟨⟨rights, ⟨entries, rfl⟩, searches⟩, Nat.le_of_not_lt short, further⟩,
                  fun step => step.2.2⟩

theorem follow_append_eq_ok {root : FileNode} {reached front rest names : List Text} :
    follow root reached (front ++ rest) = .ok names ↔
      ∃ middle, follow root reached front = .ok middle ∧ follow root middle rest = .ok names := by
  induction front generalizing reached with
  | nil => exact ⟨fun leads => ⟨reached, rfl, leads⟩, fun ⟨_, same, leads⟩ => Except.ok.inj same ▸ leads⟩
  | cons part front ih =>
      rw [List.cons_append, follow_cons_eq_ok, ih]
      simp only [follow_cons_eq_ok, and_assoc, exists_and_left]

/-- A path leads to a directory or to a name in a directory that may be searched. -/
theorem isDirectoryAt_of_follow {root : FileNode} {reached parts names : List Text}
    (filled : parts ≠ []) (leads : follow root reached parts = .ok names) :
    root.IsDirectoryAt names ∨
      ∃ parent name, names = parent ++ [name] ∧ root.IsSearchableAt parent ∧ name ∈ parts ∧
        name ≠ ['.', '.'] ∧ (encodeUtf8 name).length ≤ nameLimit := by
  induction parts generalizing reached with
  | nil => exact absurd rfl filled
  | cons part parts ih =>
      obtain ⟨searchable, short, further⟩ := follow_cons_eq_ok.mp leads
      cases parts with
      | nil =>
          rw [follow, Except.ok.injEq] at further
          rw [← further]
          split
          · exact .inl (FileNode.isDirectoryAt_dropLast searchable.isDirectoryAt)
          · rename_i ordinary
            exact .inr ⟨reached, part, rfl, searchable, List.mem_cons_self, ordinary, short⟩
      | cons next parts =>
          refine (ih (List.cons_ne_nil _ _) further).imp_right ?_
          rintro ⟨parent, name, equal, searchable, member, rest⟩
          exact ⟨parent, name, equal, searchable, List.mem_cons_of_mem _ member, rest⟩

/-- A path is followed as before when a node has been put where no directory is. -/
theorem follow_put {root : FileNode} {target reached parts names : List Text} (node : FileNode)
    (free : ¬root.IsDirectoryAt target) (leads : follow root reached parts = .ok names) :
    follow (root.put target node) reached parts = .ok names := by
  induction parts generalizing reached with
  | nil => exact leads
  | cons part parts ih =>
      obtain ⟨searchable, short, further⟩ := follow_cons_eq_ok.mp leads
      exact follow_cons_eq_ok.mpr ⟨FileNode.isSearchableAt_put node free searchable, short, ih further⟩

/-! ### Writing and reading -/

def start (workspace : Workspace) (path : FilePath) : List Text :=
  match path.anchor with
  | .here => workspace.here
  | _ => []

theorem resolve_eq_ok {workspace : Workspace} {path : FilePath} {names : List Text} :
    workspace.resolve path = .ok names ↔
      path.hasNull = false ∧ (encodeUtf8 path.text).length ≤ pathLimit ∧
        follow workspace.root (workspace.start path) path.parts = .ok names := by
  unfold resolve
  cases path.hasNull with
  | true => simp
  | false =>
      rw [if_neg Bool.false_ne_true]
      split
      · rename_i long
        exact iff_of_false (fun failed => nomatch failed)
          fun short => absurd short.2.1 (Nat.not_le.mpr long)
      · rename_i short
        exact ⟨fun leads => ⟨rfl, Nat.le_of_not_lt short, leads⟩, fun leads => leads.2.2⟩

/-- Whether a file can be written at a path: the working directory is there, and the path leads to no
directory. -/
structure Accepts (workspace : Workspace) (path : FilePath) : Prop where
  grounded : workspace.root.IsDirectoryAt workspace.here
  leads : ∃ names, workspace.resolve path = .ok names ∧ ¬workspace.root.IsDirectoryAt names

/-- A path without components leads to a directory. -/
theorem Accepts.filled {workspace : Workspace} {path : FilePath} (accepts : workspace.Accepts path) :
    path.parts ≠ [] := by
  intro empty
  have top : workspace.root.IsDirectoryAt [] := by
    have grounded := accepts.grounded
    cases shape : workspace.root with
    | file content =>
        rw [shape] at grounded
        exact absurd grounded (FileNode.not_isDirectoryAt_file content _)
    | directory entries rights => exact ⟨rights, entries, rfl⟩
  have begins : workspace.root.IsDirectoryAt (workspace.start path) := by
    unfold start
    split
    · exact accepts.grounded
    · exact top
  obtain ⟨names, resolved, free⟩ := accepts.leads
  obtain ⟨-, -, leads⟩ := resolve_eq_ok.mp resolved
  rw [empty, follow, Except.ok.injEq] at leads
  exact free (leads ▸ begins)

/-- A file that has been written is read with the content that has been written. -/
theorem Accepts.read_write {workspace : Workspace} {path : FilePath} (accepts : workspace.Accepts path)
    (content : Bytes) :
    ∃ changed, workspace.write path content = .ok changed ∧ changed.read path = .ok content := by
  obtain ⟨names, resolved, free⟩ := accepts.leads
  obtain ⟨noNull, short, leads⟩ := resolve_eq_ok.mp resolved
  obtain ⟨parent, name, rfl, searchable, -⟩ := (isDirectoryAt_of_follow accepts.filled leads).resolve_left free
  let changed : Workspace := { workspace with root := workspace.root.put (parent ++ [name]) (.file content) }
  have written : workspace.write path content = .ok changed := by
    have isFilled : path.parts.isEmpty = false := List.isEmpty_eq_false_iff.mpr accepts.filled
    unfold write
    rw [noNull, resolved, if_neg Bool.false_ne_true]
    dsimp only [bind, Except.bind, pure, Except.pure]
    rw [isFilled, if_neg Bool.false_ne_true]
    split
    · rename_i entries rights found
      exact absurd ⟨rights, entries, found⟩ free
    · rfl
  have resolvedAgain : changed.resolve path = .ok (parent ++ [name]) :=
    resolve_eq_ok.mpr ⟨noNull, short, follow_put (.file content) free leads⟩
  have found : changed.root.descend? (parent ++ [name]) = some (.file content) :=
    FileNode.descend?_put searchable.isDirectoryAt name (.file content)
  refine ⟨changed, written, ?_⟩
  have reached : changed.node path = .ok (.file content) := by
    unfold node
    rw [resolvedAgain]
    dsimp only [bind, Except.bind]
    rw [found]
  unfold read
  rw [noNull, if_neg Bool.false_ne_true, reached]

end Workspace

/-- A text that has been written to a file is read back from the file. -/
theorem writeText_read {workspace : Workspace} {path : FilePath} (accepts : workspace.Accepts path)
    (text : Text) : ∃ changed, (writeText path text).run.run workspace = (.ok (), changed) ∧
      changed.read path = .ok (encodeUtf8 text) := by
  obtain ⟨changed, written, back⟩ := accepts.read_write (encodeUtf8 text)
  refine ⟨changed, ?_, back⟩
  have fetched : (get : FileAction Workspace).run.run workspace = (.ok workspace, workspace) := rfl
  unfold writeText
  rw [ExceptT.run_bind, StateT.run_bind, fetched]
  dsimp only [bind]
  rw [written]
  rfl

end DocSite
