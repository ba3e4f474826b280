/-
Files that are written into one directory, one after the other.

Of two files with one name the later one stays, so afterwards every file holds the text that was written to it
last. Where this is so already, writing the files once more succeeds and changes nothing.
-/
import DocSite.Proofs.Files.Operations

namespace DocSite

namespace FileNode

def putFiles (tree : FileNode) (files : List (List Text × Bytes)) : FileNode :=
  files.foldl (fun tree file => tree.put file.1 (.file file.2)) tree

/-- Whether each of the files is there with the content that comes last among those for its place. -/
def HoldsLast (tree : FileNode) (files : List (List Text × Bytes)) : Prop :=
  ∀ front file rest, files = front ++ file :: rest → (∀ later ∈ rest, later.1 ≠ file.1) →
    tree.descend? file.1 = some (.file file.2)

section Files

variable {tree : FileNode} {file : List Text × Bytes} {files : List (List Text × Bytes)}

theorem HoldsLast.tail (holds : tree.HoldsLast (file :: files)) : tree.HoldsLast files := by
  intro front later rest shape last
  exact holds (file :: front) later rest (congrArg _ shape) last

/-- The last file for a place is found among files that have the place. -/
theorem exists_last {place : List Text} (member : ∃ file ∈ files, file.1 = place) :
    ∃ front file rest, files = front ++ file :: rest ∧ file.1 = place ∧ ∀ later ∈ rest, later.1 ≠ place := by
  induction files with
  | nil =>
      obtain ⟨file, found, -⟩ := member
      cases found
  | cons first files ih =>
      by_cases further : ∃ file ∈ files, file.1 = place
      · obtain ⟨front, file, rest, rfl, same, last⟩ := ih further
        exact ⟨first :: front, file, rest, rfl, same, last⟩
      · obtain ⟨file, found, same⟩ := member
        rcases List.mem_cons.mp found with rfl | later
        · exact ⟨[], file, files, rfl, same, fun later member equal => further ⟨later, member, equal⟩⟩
        · exact absurd ⟨file, later, same⟩ further

theorem HoldsLast.exists_file (holds : tree.HoldsLast files) (member : file ∈ files) :
    ∃ content, tree.descend? file.1 = some (.file content) := by
  obtain ⟨front, last, rest, shape, same, final⟩ := exists_last ⟨file, member, rfl⟩
  refine ⟨last.2, ?_⟩
  rw [← same]
  exact holds front last rest shape fun later found => same.symm ▸ final later found

theorem exists_file_put {names place : List Text} {content old : Bytes}
    (found : tree.descend? names = some (.file content)) (present : tree.descend? place = some (.file old))
    (newer : Bytes) : ∃ later, (tree.put place (.file newer)).descend? names = some (.file later) := by
  have free : ¬tree.IsDirectoryAt place := by
    rintro ⟨rights, entries, shape⟩
    rw [present] at shape
    cases shape
  have becomes : Becomes True (tree.descend? names) _ := becomes_write free newer fun _ => trivial
  rw [found] at becomes
  generalize (tree.put place (.file newer)).descend? names = node at becomes ⊢
  cases becomes with
  | stays => exact ⟨content, rfl⟩
  | written later => exact ⟨later, rfl⟩

/-- A content that is written over later leaves no trace. -/
theorem putFiles_put {place : List Text} {old : Bytes} (later : ∃ file ∈ files, file.1 = place)
    (present : tree.descend? place = some (.file old))
    (there : ∀ file ∈ files, ∃ content, tree.descend? file.1 = some (.file content)) (content : Bytes) :
    (tree.put place (.file content)).putFiles files = tree.putFiles files := by
  induction files generalizing tree old with
  | nil =>
      obtain ⟨file, found, -⟩ := later
      cases found
  | cons file files ih =>
      have here := there file List.mem_cons_self
      obtain ⟨current, isHere⟩ := here
      unfold putFiles
      rw [List.foldl_cons, List.foldl_cons]
      by_cases same : file.1 = place
      · rw [same, put_put]
      · have furtherOn : ∃ file ∈ files, file.1 = place := by
          obtain ⟨other, found, equal⟩ := later
          rcases List.mem_cons.mp found with rfl | further
          · exact absurd equal same
          · exact ⟨other, further, equal⟩
        have stays : ∃ later, (tree.put file.1 (.file file.2)).descend? place = some (.file later) :=
          exists_file_put present isHere file.2
        obtain ⟨kept, presentStill⟩ := stays
        rw [put_comm (Ne.symm same) present isHere]
        refine ih furtherOn presentStill fun other found => ?_
        obtain ⟨content, isThere⟩ := there other (List.mem_cons_of_mem _ found)
        exact exists_file_put isThere isHere file.2

/-- Files that hold their last contents are the same after another series. -/
theorem HoldsLast.putFiles (holds : tree.HoldsLast files) : tree.putFiles files = tree := by
  induction files with
  | nil => rfl
  | cons file files ih =>
      have unfolded : tree.putFiles (file :: files) = (tree.put file.1 (.file file.2)).putFiles files := rfl
      rw [unfolded]
      -- a content that is not the last one for its place is written over, the last one is there already
      by_cases later : ∃ other ∈ files, other.1 = file.1
      · obtain ⟨content, present⟩ := holds.exists_file (@List.mem_cons_self _ file files)
        rw [putFiles_put later present fun other found => holds.exists_file (List.mem_cons_of_mem _ found)]
        exact ih holds.tail
      · have present := holds [] file files rfl fun other found same => later ⟨other, found, same⟩
        rw [put_eq_self present]
        exact ih holds.tail

end Files

end FileNode

namespace Workspace

open FileNode (IsDirectoryAt IsSearchableAt)

theorem follow_concat {root : FileNode} {reached parts names : List Text} {part : Text}
    (leads : follow root reached (parts ++ [part]) = .ok names) :
    ∃ above, follow root reached parts = .ok above ∧ root.IsSearchableAt above ∧
      names = if part = ['.', '.'] then above.dropLast else above ++ [part] := by
  obtain ⟨above, leadsAbove, last⟩ := follow_append_eq_ok.mp leads
  obtain ⟨searchable, -, further⟩ := follow_cons_eq_ok.mp last
  rw [follow, Except.ok.injEq] at further
  exact ⟨above, leadsAbove, searchable, further.symm⟩

/-- What a name in a directory leads to. -/
theorem resolve_child {workspace : Workspace} {directory : FilePath} {name : Text}
    {above names : List Text} (leads : workspace.resolve directory = .ok above) (ordinary : name ≠ ['.', '.'])
    (resolved : workspace.resolve (directory.child name) = .ok names) :
    names = above ++ [name] ∧ workspace.root.IsSearchableAt above := by
  obtain ⟨-, -, leadsAbove⟩ := resolve_eq_ok.mp leads
  obtain ⟨-, -, leadsBelow⟩ := resolve_eq_ok.mp resolved
  obtain ⟨reached, toReached, present, equal⟩ := follow_concat leadsBelow
  obtain rfl : above = reached := Except.ok.inj (leadsAbove.symm.trans toReached)
  rw [if_neg ordinary] at equal
  exact ⟨equal, present⟩

end Workspace

/-! ### Writing a series -/

def writeFiles (directory : FilePath) (files : List (Text × Text)) : FileAction (List FilePath) :=
  files.mapM fun file => do
    writeText (directory.child file.1) file.2
    return directory.child file.1

theorem writeText_run (path : FilePath) (text : Text) (workspace : Workspace) :
    (writeText path text).run.run workspace =
      match workspace.write path (encodeUtf8 text) with
      | .ok changed => (.ok (), changed)
      | .error error => (.error error, workspace) := by
  have fetched : (get : FileAction Workspace).run.run workspace = (.ok workspace, workspace) := rfl
  unfold writeText
  rw [run_bind, fetched]
  dsimp only
  cases workspace.write path (encodeUtf8 text) with
  | ok changed => rfl
  | error error => rfl

theorem writeFiles_cons (directory : FilePath) (file : Text × Text) (files : List (Text × Text)) :
    writeFiles directory (file :: files) = (do
      writeText (directory.child file.1) file.2
      let paths ← writeFiles directory files
      return directory.child file.1 :: paths) := by
  unfold writeFiles
  rw [List.mapM_cons, bind_assoc]
  refine bind_congr fun _ => ?_
  rw [pure_bind]

theorem writeFiles_cons_run (directory : FilePath) (file : Text × Text) (files : List (Text × Text))
    (workspace : Workspace) :
    (writeFiles directory (file :: files)).run.run workspace =
      match workspace.write (directory.child file.1) (encodeUtf8 file.2) with
      | .error error => (.error error, workspace)
      | .ok changed =>
          match (writeFiles directory files).run.run changed with
          | (.ok paths, after) => (.ok (directory.child file.1 :: paths), after)
          | (.error error, after) => (.error error, after) := by
  rw [writeFiles_cons, run_bind, writeText_run]
  cases workspace.write (directory.child file.1) (encodeUtf8 file.2) with
  | error error => rfl
  | ok changed =>
      dsimp only
      rw [run_bind]
      rcases (writeFiles directory files).run.run changed with ⟨outcome, after⟩
      cases outcome <;> rfl

section Runs

variable {workspace after : Workspace} {directory : FilePath} {above : List Text}
  {files : List (Text × Text)} {paths : List FilePath}

def OrdinaryNames (files : List (Text × Text)) : Prop := ∀ file ∈ files, file.1 ≠ ['.', '.']

def placed (above : List Text) (files : List (Text × Text)) : List (List Text × Bytes) :=
  files.map fun file => (above ++ [file.1], encodeUtf8 file.2)

/-- A series changes files at its own places only, also when it breaks off. -/
theorem writeFiles_changes (leads : workspace.resolve directory = .ok above)
    (ordinary : OrdinaryNames files) :
    workspace.ChangesTo (fun names => ∃ file ∈ files, names = above ++ [file.1])
      ((writeFiles directory files).run.run workspace).2 := by
  induction files generalizing workspace with
  | nil => exact .refl workspace
  | cons file files ih =>
      rw [writeFiles_cons_run]
      cases written : workspace.write (directory.child file.1) (encodeUtf8 file.2) with
      | error error => exact .refl workspace
      | ok changed =>
          have first : workspace.ChangesTo (fun names => ∃ other ∈ file :: files, names = above ++ [other.1])
              changed :=
            Workspace.write_changes written fun names resolved => ⟨file, List.mem_cons_self,
              (Workspace.resolve_child leads (ordinary file List.mem_cons_self) resolved).1⟩
          have rest := ih (first.resolve leads) fun other found => ordinary other (List.mem_cons_of_mem _ found)
          have further := first.trans (rest.mono fun names ⟨other, found, equal⟩ =>
            ⟨other, List.mem_cons_of_mem _ found, equal⟩)
          dsimp only
          cases ran : (writeFiles directory files).run.run changed with
          | mk outcome last =>
              rw [ran] at further
              cases outcome with
              | ok paths => exact further
              | error error => exact further

/-- After a series every file can be read with the text that has been written to it last. -/
theorem writeFiles_holds (leads : workspace.resolve directory = .ok above) (ordinary : OrdinaryNames files)
    (done : (writeFiles directory files).run.run workspace = (.ok paths, after)) :
    paths = files.map (fun file => directory.child file.1) ∧
      (∀ file ∈ files, after.resolve (directory.child file.1) = .ok (above ++ [file.1])) ∧
        after.root.HoldsLast (placed above files) := by
  induction files generalizing workspace paths with
  | nil =>
      cases done
      refine ⟨rfl, ?_, ?_⟩
      · intro file found
        cases found
      · intro front file rest shape
        exact absurd (congrArg List.length shape) (by simp [placed])
  | cons file files ih =>
      have isOrdinary := ordinary file List.mem_cons_self
      have ordinaryRest : OrdinaryNames files := fun other found => ordinary other (List.mem_cons_of_mem _ found)
      rw [writeFiles_cons_run] at done
      cases written : workspace.write (directory.child file.1) (encodeUtf8 file.2) with
      | error error =>
          rw [written] at done
          cases done
      | ok changed =>
          rw [written] at done
          dsimp only at done
          cases ran : (writeFiles directory files).run.run changed with
          | mk outcome last =>
              rw [ran] at done
              cases outcome with
              | error error => cases done
              | ok rest =>
                  cases done
                  have first : workspace.ChangesTo (fun _ => True) changed :=
                    Workspace.write_changes written fun _ _ => trivial
                  have leadsOn := first.resolve leads
                  obtain ⟨same, resolves, holds⟩ := ih leadsOn ordinaryRest ran
                  have further := writeFiles_changes leadsOn ordinaryRest
                  rw [ran] at further
                  obtain ⟨-, -, names, resolved, free, rfl⟩ := Workspace.write_eq_ok.mp written
                  obtain ⟨rfl, present⟩ := Workspace.resolve_child leads isOrdinary resolved
                  refine ⟨congrArg _ same, fun other found => ?_, fun front other behind shape final => ?_⟩
                  · rcases List.mem_cons.mp found with rfl | later
                    · exact further.resolve (first.resolve resolved)
                    · exact resolves other later
                  · cases front with
                    | cons before front => exact holds front other behind (List.cons.inj shape).2 final
                    | nil =>
                        -- the rest of the series is written to other names, so it spares this file
                        obtain ⟨rfl, rfl⟩ := List.cons.inj shape
                        obtain ⟨content, kept, unchanged⟩ :=
                          further.root.file
                            (FileNode.descend?_put present.isDirectoryAt file.1 (.file (encodeUtf8 file.2)))
                        rw [kept, unchanged]
                        rintro ⟨other, later, equal⟩
                        exact final _ (List.mem_map_of_mem later) equal.symm

end Runs

end DocSite
