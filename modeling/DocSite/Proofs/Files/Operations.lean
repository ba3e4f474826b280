/-
What operations on files change.

Writing a file and making directories are changes of the tree, whether the operation succeeds in the end or
breaks off on the way. Changes take no directory away, so a path that leads somewhere leads to the same
names afterwards; in particular a directory that has been made is found again.
-/
import DocSite.Proofs.Files.Changes

namespace DocSite

namespace Workspace

open FileNode (IsDirectoryAt Change Changes)

/-! ### Changed workspaces -/

structure ChangesTo (writable : List Text → Prop) (before after : Workspace) : Prop where
  here : after.here = before.here
  root : Changes writable before.root after.root

namespace ChangesTo

variable {writable : List Text → Prop} {before between after : Workspace}

theorem refl (workspace : Workspace) : ChangesTo writable workspace workspace where
  here := rfl
  root := .refl

theorem trans (earlier : ChangesTo writable before between) (later : ChangesTo writable between after) :
    ChangesTo writable before after where
  here := later.here.trans earlier.here
  root := earlier.root.trans later.root

theorem mono {others : List Text → Prop} (permitted : ∀ names, writable names → others names)
    (changes : ChangesTo writable before after) : ChangesTo others before after where
  here := changes.here
  root := changes.root.mono permitted

theorem start (changes : ChangesTo writable before after) (path : FilePath) :
    after.start path = before.start path := by
  unfold Workspace.start
  rw [changes.here]

theorem follow {root later : FileNode} (changes : Changes writable root later)
    {reached parts names : List Text} (leads : Workspace.follow root reached parts = .ok names) :
    Workspace.follow later reached parts = .ok names := by
  induction parts generalizing reached with
  | nil => exact leads
  | cons part parts ih =>
      obtain ⟨searchable, short, further⟩ := follow_cons_eq_ok.mp leads
      exact follow_cons_eq_ok.mpr ⟨changes.isSearchableAt searchable, short, ih further⟩

/-- A path leads to the same names as before. -/
theorem resolve (changes : ChangesTo writable before after) {path : FilePath} {names : List Text}
    (resolved : before.resolve path = .ok names) : after.resolve path = .ok names := by
  obtain ⟨noNull, short, leads⟩ := resolve_eq_ok.mp resolved
  have leadsOn := follow changes.root leads
  rw [← changes.start path] at leadsOn
  exact resolve_eq_ok.mpr ⟨noNull, short, leadsOn⟩

end ChangesTo

/-! ### Writing -/

/-- What a path with components leads to is a directory, or it can be put where the path leads. -/
theorem isDirectoryAt_or_receives {workspace : Workspace} {path : FilePath} {names : List Text}
    (filled : path.parts ≠ []) (resolved : workspace.resolve path = .ok names) :
    workspace.root.IsDirectoryAt names ∨ workspace.root.Receives names := by
  obtain ⟨noNull, -, leads⟩ := resolve_eq_ok.mp resolved
  refine (isDirectoryAt_of_follow filled leads).imp_right ?_
  rintro ⟨above, name, equal, searchable, member, ordinary, short⟩
  refine ⟨above, name, equal, searchable, ordinary, fun null => ?_, short⟩
  have hasNull : path.hasNull = true :=
    List.any_eq_true.mpr ⟨name, member, List.contains_iff_mem.mpr null⟩
  rw [noNull] at hasNull
  cases hasNull

theorem write_eq_ok {workspace changed : Workspace} {path : FilePath} {content : Bytes} :
    workspace.write path content = .ok changed ↔
      path.hasNull = false ∧ path.parts ≠ [] ∧ ∃ names, workspace.resolve path = .ok names ∧
        ¬workspace.root.IsDirectoryAt names ∧
          changed = { workspace with root := workspace.root.put names (.file content) } := by
  unfold write
  cases path.hasNull with
  | true => exact iff_of_false (fun failed => nomatch failed) fun fits => nomatch fits.1
  | false =>
      rw [if_neg Bool.false_ne_true, and_iff_right rfl]
      cases resolved : workspace.resolve path with
      | error error =>
          exact iff_of_false (fun failed => nomatch failed) fun ⟨_, _, leads, _⟩ => nomatch leads
      | ok names =>
          dsimp only [bind, Except.bind, pure, Except.pure]
          rw [← List.isEmpty_eq_false_iff]
          cases path.parts.isEmpty with
          | true => exact iff_of_false (fun failed => nomatch failed) fun fits => nomatch fits.1
          | false =>
              rw [if_neg Bool.false_ne_true, and_iff_right rfl]
              constructor
              · intro written
                split at written
                · cases written
                · rename_i noDirectory
                  cases written
                  exact ⟨names, rfl, fun ⟨rights, entries, found⟩ => noDirectory entries rights found, rfl⟩
              · rintro ⟨others, leads, free, rfl⟩
                obtain rfl : names = others := Except.ok.inj leads
                split
                · rename_i entries rights found
                  exact absurd ⟨rights, entries, found⟩ free
                · rfl

theorem write_changes {writable : List Text → Prop} {workspace changed : Workspace} {path : FilePath}
    {content : Bytes} (written : workspace.write path content = .ok changed)
    (permitted : ∀ names, workspace.resolve path = .ok names → writable names) :
    ChangesTo writable workspace changed := by
  obtain ⟨-, filled, names, resolved, free, rfl⟩ := write_eq_ok.mp written
  have receives := (isDirectoryAt_or_receives filled resolved).resolve_left free
  exact ⟨rfl, .single (.write content (permitted names resolved) receives free)⟩

/-! ### Making directories -/

theorem makeDirectory_eq_ok {workspace changed : Workspace} {path : FilePath} :
    workspace.makeDirectory path = .ok changed ↔
      path.hasNull = false ∧ path.parts ≠ [] ∧ ∃ names, workspace.resolve path = .ok names ∧
        workspace.root.descend? names = none ∧
          changed = { workspace with root := workspace.root.put names (.directory []) } := by
  unfold makeDirectory
  cases path.hasNull with
  | true => exact iff_of_false (fun failed => nomatch failed) fun fits => nomatch fits.1
  | false =>
      rw [if_neg Bool.false_ne_true, and_iff_right rfl]
      cases resolved : workspace.resolve path with
      | error error =>
          exact iff_of_false (fun failed => nomatch failed) fun ⟨_, _, leads, _⟩ => nomatch leads
      | ok names =>
          dsimp only [bind, Except.bind, pure, Except.pure]
          rw [← List.isEmpty_eq_false_iff]
          cases path.parts.isEmpty with
          | true => exact iff_of_false (fun failed => nomatch failed) fun fits => nomatch fits.1
          | false =>
              rw [if_neg Bool.false_ne_true, and_iff_right rfl]
              constructor
              · intro made
                split at made
                · cases made
                · rename_i absent
                  cases made
                  exact ⟨names, rfl, absent, rfl⟩
              · rintro ⟨others, leads, absent, rfl⟩
                obtain rfl : names = others := Except.ok.inj leads
                rw [absent]

theorem makeDirectory_changes {writable : List Text → Prop} {workspace changed : Workspace}
    {path : FilePath} (made : workspace.makeDirectory path = .ok changed) :
    ChangesTo writable workspace changed := by
  obtain ⟨-, filled, names, resolved, absent, rfl⟩ := makeDirectory_eq_ok.mp made
  have receives := (isDirectoryAt_or_receives filled resolved).resolve_left (FileNode.free_of_absent absent)
  exact ⟨rfl, .single (.make receives absent)⟩

theorem settled (looked : Except FileError Bool) (workspace : Workspace) (error : FileError) :
    let result : Except FileError Unit × Workspace :=
      match looked with
      | .ok true => (.ok (), workspace)
      | .ok false => (.error error, workspace)
      | .error other => (.error other, workspace)
    result.2 = workspace ∧ (result.1 = .ok () → looked = .ok true) := by
  cases looked with
  | error other => exact ⟨rfl, fun failed => nomatch failed⟩
  | ok isThere =>
      cases isThere with
      | true => exact ⟨rfl, fun _ => rfl⟩
      | false => exact ⟨rfl, fun failed => nomatch failed⟩

/-- The last step of making a directory with its parents, from the workspace that the step starts with: the
directory is made, or nothing changes and success means that it is there. -/
theorem ensureDirectory_cons (anchor : Anchor) (workspace : Workspace) (part : Text) (parents : List Text) :
    ∃ base, (base = workspace ∨ base = (ensureDirectory anchor workspace parents).2) ∧
      let path : FilePath := ⟨anchor, (part :: parents).reverse⟩
      let result := ensureDirectory anchor workspace (part :: parents)
      (∃ made, base.makeDirectory path = .ok made ∧ result = (.ok (), made)) ∨
        (result.2 = base ∧ (result.1 = .ok () → base.isDirectory path = .ok true)) := by
  rw [ensureDirectory]
  dsimp only
  cases made : workspace.makeDirectory ⟨anchor, (part :: parents).reverse⟩ with
  | ok changed => exact ⟨workspace, .inl rfl, .inl ⟨changed, made, rfl⟩⟩
  | error error =>
      cases error with
      | notFound =>
          dsimp only
          cases above : ensureDirectory anchor workspace parents with
          | mk outcome changed =>
              refine ⟨changed, .inr rfl, ?_⟩
              cases outcome with
              | error error => exact .inr ⟨rfl, fun failed => nomatch failed⟩
              | ok _ =>
                  dsimp only
                  cases madeThen : changed.makeDirectory ⟨anchor, (part :: parents).reverse⟩ with
                  | ok later => exact .inl ⟨later, rfl, rfl⟩
                  | error error =>
                      cases error with
                      | notFound => exact .inr ⟨rfl, fun failed => nomatch failed⟩
                      | _ => exact .inr (settled _ _ _)
      | _ => exact ⟨workspace, .inl rfl, .inr (settled _ _ _)⟩

/-- Directories that have been made before an error stay, and nothing else changes. -/
theorem ensureDirectory_changes {writable : List Text → Prop} (anchor : Anchor) (parts : List Text)
    (workspace : Workspace) : ChangesTo writable workspace (ensureDirectory anchor workspace parts).2 := by
  induction parts with
  | nil => exact .refl workspace
  | cons part parents ih =>
      obtain ⟨base, origin, outcome⟩ := ensureDirectory_cons anchor workspace part parents
      have first : ChangesTo writable workspace base := by
        rcases origin with rfl | rfl
        · exact .refl _
        · exact ih
      rcases outcome with ⟨made, step, result⟩ | ⟨result, -⟩
      · rw [result]
        exact first.trans (makeDirectory_changes step)
      · rw [result]
        exact first

/-! ### Looking at paths -/

theorem node?_of_resolve {workspace : Workspace} {path : FilePath} {names : List Text}
    (resolved : workspace.resolve path = .ok names) :
    workspace.node? path = .ok (workspace.root.descend? names) := by
  unfold node? node
  rw [resolved]
  dsimp only [bind, Except.bind]
  cases workspace.root.descend? names with
  | none => rfl
  | some found => rfl

theorem node?_of_error {workspace : Workspace} {path : FilePath} {error : FileError}
    (failed : workspace.resolve path = .error error) :
    workspace.node? path =
      if error = .nameTooLong ∨ error = .denied then .error error else .ok none := by
  unfold node? node
  rw [failed]
  cases error <;> rfl

theorem isDirectory_of_resolve {workspace : Workspace} {path : FilePath} {names : List Text}
    (resolved : workspace.resolve path = .ok names) :
    workspace.isDirectory path = .ok true ↔ workspace.root.IsDirectoryAt names := by
  unfold isDirectory IsDirectoryAt FileNode.HasRightsAt
  rw [node?_of_resolve resolved]
  cases workspace.root.descend? names with
  | none => exact iff_of_false (fun looked => nomatch looked) fun ⟨_, _, found⟩ => nomatch found
  | some node =>
      cases node with
      | file content =>
          exact iff_of_false (fun looked => nomatch looked) fun ⟨_, _, found⟩ => nomatch found
      | directory entries rights => exact iff_of_true rfl ⟨rights, entries, rfl⟩

theorem read_eq_ok {workspace : Workspace} {path : FilePath} {content : Bytes} :
    workspace.read path = .ok content ↔
      ∃ names, workspace.resolve path = .ok names ∧ workspace.root.descend? names = some (.file content) := by
  constructor
  · intro done
    unfold read node at done
    cases null : path.hasNull with
    | true =>
        rw [null, if_pos rfl] at done
        cases done
    | false =>
        rw [null, if_neg Bool.false_ne_true] at done
        cases resolved : workspace.resolve path with
        | error error =>
            rw [resolved] at done
            cases done
        | ok names =>
            rw [resolved] at done
            dsimp only [bind, Except.bind] at done
            cases found : workspace.root.descend? names with
            | none =>
                rw [found] at done
                cases done
            | some node =>
                rw [found] at done
                cases node with
                | directory entries rights => cases done
                | file content =>
                    cases done
                    exact ⟨names, rfl, found⟩
  · rintro ⟨names, resolved, found⟩
    obtain ⟨noNull, -, -⟩ := resolve_eq_ok.mp resolved
    have reached : workspace.node path = .ok (.file content) := by
      unfold node
      rw [resolved]
      dsimp only [bind, Except.bind]
      rw [found]
    unfold read
    rw [noNull, if_neg Bool.false_ne_true, reached]

theorem exists_resolve_of_isDirectory {workspace : Workspace} {path : FilePath}
    (looked : workspace.isDirectory path = .ok true) :
    ∃ names, workspace.resolve path = .ok names ∧ workspace.root.IsDirectoryAt names := by
  cases resolved : workspace.resolve path with
  | ok names => exact ⟨names, rfl, (isDirectory_of_resolve resolved).mp looked⟩
  | error error =>
      unfold isDirectory at looked
      rw [node?_of_error resolved] at looked
      cases error <;> cases looked

/-- A directory that has been made is there. -/
theorem isDirectory_of_makeDirectory {workspace changed : Workspace} {path : FilePath}
    (made : workspace.makeDirectory path = .ok changed) : changed.isDirectory path = .ok true := by
  have changes : ChangesTo (fun _ => False) workspace changed := makeDirectory_changes made
  obtain ⟨-, filled, names, resolved, absent, rfl⟩ := makeDirectory_eq_ok.mp made
  rcases isDirectoryAt_or_receives filled resolved with present | ⟨parent, name, rfl, above, -⟩
  · exact absurd present (FileNode.free_of_absent absent)
  · exact (isDirectory_of_resolve (changes.resolve resolved)).mpr
      ⟨{}, [], FileNode.descend?_put above.isDirectoryAt name (.directory [])⟩

theorem ensureDirectories_changes {writable : List Text → Prop} (workspace : Workspace) (path : FilePath) :
    ChangesTo writable workspace (workspace.ensureDirectories path).2 :=
  ensureDirectory_changes path.anchor path.parts.reverse workspace

theorem isDirectory_of_ensureDirectories {workspace changed : Workspace} {path : FilePath}
    (filled : path.parts ≠ []) (ensured : workspace.ensureDirectories path = (.ok (), changed)) :
    changed.isDirectory path = .ok true := by
  obtain ⟨anchor, parts⟩ := path
  unfold ensureDirectories at ensured
  dsimp only at filled ensured
  obtain ⟨part, parents, shape⟩ := List.exists_cons_of_ne_nil (List.reverse_ne_nil_iff.mpr filled)
  obtain rfl : parts = (part :: parents).reverse := by rw [← shape, List.reverse_reverse]
  rw [List.reverse_reverse] at ensured
  obtain ⟨base, -, outcome⟩ := ensureDirectory_cons anchor workspace part parents
  dsimp only at outcome
  rw [ensured] at outcome
  rcases outcome with ⟨made, step, result⟩ | ⟨result, there⟩
  · obtain ⟨-, rfl⟩ := Prod.mk.inj result
    exact isDirectory_of_makeDirectory step
  · obtain rfl : changed = base := result
    exact there rfl

/-- The directory that has been made with its parents is found where its path leads. -/
theorem exists_resolve_of_ensureDirectories {workspace changed : Workspace} {path : FilePath}
    (ensured : workspace.ensureDirectories path = (.ok (), changed)) :
    ∃ names, changed.resolve path = .ok names := by
  by_cases filled : path.parts = []
  · refine ⟨changed.start path, resolve_eq_ok.mpr ⟨?_, ?_, ?_⟩⟩
    · rw [FilePath.hasNull, filled]
      rfl
    · obtain ⟨anchor, parts⟩ := path
      obtain rfl : parts = [] := filled
      cases anchor <;> decide
    · rw [filled, follow]
  · obtain ⟨names, resolved, -⟩ :=
      exists_resolve_of_isDirectory (isDirectory_of_ensureDirectories filled ensured)
    exact ⟨names, resolved⟩

end Workspace

/-! ### Actions -/

/-- Work that breaks off with its first error, step by step. -/
theorem run_bind {State Error First Second : Type} (first : ExceptT Error (StateM State) First)
    (next : First → ExceptT Error (StateM State) Second) (state : State) :
    (first >>= next).run.run state =
      match first.run.run state with
      | (.ok value, changed) => (next value).run.run changed
      | (.error error, changed) => (.error error, changed) := by
  rw [ExceptT.run_bind, StateT.run_bind]
  cases first.run.run state with
  | mk outcome changed => cases outcome <;> rfl

theorem exists_run_eq_ok {Value : Type} {action : FileAction Value} {workspace : Workspace}
    (succeeds : (action.run.run workspace).1.isOk = true) :
    ∃ value, action.run.run workspace = (.ok value, (action.run.run workspace).2) := by
  cases ran : action.run.run workspace with
  | mk outcome changed =>
      rw [ran] at succeeds
      cases outcome with
      | ok value => exact ⟨value, rfl⟩
      | error error => cases succeeds

theorem makeDirectories_run (path : FilePath) (workspace : Workspace) :
    (makeDirectories path).run.run workspace = workspace.ensureDirectories path := by
  have fetched : (get : FileAction Workspace).run.run workspace = (.ok workspace, workspace) := rfl
  unfold makeDirectories
  rw [run_bind, fetched]
  dsimp only
  cases workspace.ensureDirectories path with
  | mk outcome changed => cases outcome <;> rfl

end DocSite
