/-
The files of a site.

A site is a series of named texts that are written into one directory: the index page, the search script and
the pages of the modules. Page names are no injective image of module names, and the page of a module named
like the index page has the name of the index page, so the texts of a site need not all be kept.
-/
import Mathlib.Data.List.Nodup
import DocSite.Page.Site
import DocSite.Proofs.Files.Series
import DocSite.Proofs.Index.Records

namespace DocSite

def indexModuleName : Text := "index".toList

def Site.files (site : Site) (modules : List ModuleDoc) : List (Text × Text) :=
  (indexPageName, site.indexPage modules) :: (searchScriptName, searchScript modules) ::
    modules.map fun module => (pageName module.name, site.modulePage module)

/-! ### Names of pages -/

theorem pageName_length (name : Text) : (pageName name).length = name.length + 5 := by
  rw [pageName, List.length_append, List.length_map]
  rfl

theorem pageName_ordinary (name : Text) : pageName name ≠ ['.', '.'] := by
  intro same
  have length := pageName_length name
  rw [same, List.length_cons, List.length_cons, List.length_nil] at length
  omega

theorem pageName_ne_searchScriptName (name : Text) : pageName name ≠ searchScriptName := by
  intro same
  have last := congrArg List.getLast? same
  rw [pageName, List.getLast?_append] at last
  have different : some 'l' ≠ searchScriptName.getLast? := by decide
  exact different last

theorem pageName_eq_indexPageName {name : Text} : pageName name = indexPageName ↔ name = indexModuleName := by
  constructor
  · intro same
    have split : indexPageName = indexModuleName ++ ".html".toList := by decide
    rw [pageName, split] at same
    have mapped := List.append_cancel_right same
    -- no letter of the name can have been replaced, for there is no underscore in the result
    have kept : ∀ character ∈ name,
        (if character = '.' ∨ character = '/' ∨ character = '\\' then '_' else character) = character := by
      intro character member
      by_cases replaced : character = '.' ∨ character = '/' ∨ character = '\\'
      · have underscore : '_' ∈ indexModuleName := by
          rw [← mapped]
          exact List.mem_map.mpr ⟨character, member, if_pos replaced⟩
        exact absurd underscore (by decide)
      · exact if_neg replaced
    rw [← mapped, List.map_congr_left kept, List.map_id']
  · rintro rfl
    decide

theorem Site.files_ordinary (site : Site) (modules : List ModuleDoc) : OrdinaryNames (site.files modules) := by
  intro file found
  have index : indexPageName ≠ ['.', '.'] := by decide
  have script : searchScriptName ≠ ['.', '.'] := by decide
  rcases List.mem_cons.mp found with rfl | found
  · exact index
  rcases List.mem_cons.mp found with rfl | found
  · exact script
  obtain ⟨module, -, rfl⟩ := List.mem_map.mp found
  exact pageName_ordinary module.name

/-! ### Writing -/

theorem writeSite_eq (modules : List ModuleDoc) (directory : FilePath) (projectName license : Text) :
    writeSite modules directory projectName license = (do
      makeDirectories directory
      writeFiles directory ((Site.ofModules modules projectName license).files modules)) := by
  have pages (site : Site) : modules.mapM (site.writeModulePage directory) =
      writeFiles directory (modules.map fun module => (pageName module.name, site.modulePage module)) := by
    unfold writeFiles
    rw [List.mapM_map]
    rfl
  unfold writeSite Site.files
  refine bind_congr fun _ => ?_
  rw [writeFiles_cons, writeFiles_cons, pages]
  simp only [writeSearchScript_eq, bind_assoc, pure_bind]

theorem FilePath.child_injective (directory : FilePath) : Function.Injective directory.child := by
  intro name other same
  exact List.singleton_inj.mp (List.append_cancel_left (congrArg FilePath.parts same))

/-- The names of the files are different exactly if the page names are, and none of the modules is named like
the index page. -/
theorem Site.files_nodup (site : Site) (modules : List ModuleDoc) :
    ((site.files modules).map Prod.fst).Nodup ↔
      (modules.map fun module => pageName module.name).Nodup ∧
        ∀ module ∈ modules, module.name ≠ indexModuleName := by
  have names : (site.files modules).map Prod.fst =
      indexPageName :: searchScriptName :: modules.map fun module => pageName module.name := by
    rw [Site.files, List.map_cons, List.map_cons, List.map_map]
    rfl
  have apart : indexPageName ≠ searchScriptName := by decide
  have noScript : searchScriptName ∉ modules.map fun module => pageName module.name := by
    intro found
    obtain ⟨module, -, same⟩ := List.mem_map.mp found
    exact pageName_ne_searchScriptName module.name same
  rw [names, List.nodup_cons, List.nodup_cons, List.mem_cons, not_or]
  constructor
  · rintro ⟨⟨-, noIndex⟩, -, distinct⟩
    refine ⟨distinct, fun module member named => noIndex ?_⟩
    exact List.mem_map.mpr ⟨module, member, pageName_eq_indexPageName.mpr named⟩
  · rintro ⟨distinct, unnamed⟩
    refine ⟨⟨apart, fun found => ?_⟩, noScript, distinct⟩
    obtain ⟨module, member, same⟩ := List.mem_map.mp found
    exact unnamed module member (pageName_eq_indexPageName.mp same)

/-- What can be read in the directory of a site: the search script in any case, the index page unless a
module is named like it, and the page of every module that no later module shares the page name with. -/
structure Site.StandsIn (site : Site) (modules : List ModuleDoc) (directory : FilePath)
    (workspace : Workspace) : Prop where
  script : workspace.read (directory.child searchScriptName) = .ok (encodeUtf8 (searchScript modules))
  index : (∀ module ∈ modules, module.name ≠ indexModuleName) →
    workspace.read (directory.child indexPageName) = .ok (encodeUtf8 (site.indexPage modules))
  page : ∀ front module rest, modules = front ++ module :: rest →
    (∀ later ∈ rest, pageName later.name ≠ pageName module.name) →
      workspace.read (directory.child (pageName module.name)) = .ok (encodeUtf8 (site.modulePage module))

section Written

variable {modules : List ModuleDoc} {directory : FilePath} {projectName license : Text}
  {workspace after : Workspace} {written : List FilePath}

/-- A site is written by making its directory and writing its files there. -/
theorem writeSite_eq_ok (done : (writeSite modules directory projectName license).run.run workspace =
      (.ok written, after)) :
    ∃ opened above, workspace.ensureDirectories directory = (.ok (), opened) ∧
      opened.resolve directory = .ok above ∧
        (writeFiles directory ((Site.ofModules modules projectName license).files modules)).run.run opened =
          (.ok written, after) := by
  rw [writeSite_eq, run_bind, makeDirectories_run] at done
  cases made : workspace.ensureDirectories directory with
  | mk outcome opened =>
      rw [made] at done
      cases outcome with
      | error error => cases done
      | ok _ =>
          obtain ⟨above, leads⟩ := Workspace.exists_resolve_of_ensureDirectories made
          exact ⟨opened, above, rfl, leads, done⟩

/-- A site that has been written: the paths are those of its files, and every file can be read with the text
that has been written to its name last. -/
theorem writeSite_holds (done : (writeSite modules directory projectName license).run.run workspace =
      (.ok written, after)) :
    let files := (Site.ofModules modules projectName license).files modules
    written = files.map (fun file => directory.child file.1) ∧
      ∀ front file rest, files = front ++ file :: rest → (∀ later ∈ rest, later.1 ≠ file.1) →
        after.read (directory.child file.1) = .ok (encodeUtf8 file.2) := by
  intro files
  obtain ⟨opened, above, -, leads, run⟩ := writeSite_eq_ok done
  obtain ⟨paths, resolves, holds⟩ := writeFiles_holds leads (Site.files_ordinary _ _) run
  refine ⟨paths, fun front file rest shape last => ?_⟩
  have member : file ∈ files := by
    rw [shape]
    exact List.mem_append_right _ List.mem_cons_self
  refine Workspace.read_eq_ok.mpr ⟨_, resolves file member, ?_⟩
  refine holds (placed above front) (above ++ [file.1], encodeUtf8 file.2) (placed above rest) ?_ ?_
  · exact (congrArg (placed above) shape).trans (List.map_append ..)
  · intro placedLater found same
    obtain ⟨later, isLater, rfl⟩ := List.mem_map.mp found
    exact last later isLater (List.singleton_inj.mp (List.append_cancel_left same))

theorem writeSite_standsIn (done : (writeSite modules directory projectName license).run.run workspace =
      (.ok written, after)) :
    (Site.ofModules modules projectName license).StandsIn modules directory after := by
  obtain ⟨-, holds⟩ := writeSite_holds done
  constructor
  · refine holds [(indexPageName, _)] (searchScriptName, _) _ rfl fun later found => ?_
    obtain ⟨module, -, rfl⟩ := List.mem_map.mp found
    exact pageName_ne_searchScriptName module.name
  · intro unnamed
    refine holds [] (indexPageName, _) _ rfl fun later found => ?_
    have apart : searchScriptName ≠ indexPageName := by decide
    rcases List.mem_cons.mp found with rfl | found
    · exact apart
    obtain ⟨module, member, rfl⟩ := List.mem_map.mp found
    exact fun same => unnamed module member (pageName_eq_indexPageName.mp same)
  · intro front module rest shape last
    let site := Site.ofModules modules projectName license
    let file (module : ModuleDoc) : Text × Text := (pageName module.name, site.modulePage module)
    refine holds ((indexPageName, site.indexPage modules) :: (searchScriptName, searchScript modules) ::
      front.map file) (file module) (rest.map file) ?_ ?_
    · have pages : modules.map file = front.map file ++ file module :: rest.map file := by
        rw [shape, List.map_append, List.map_cons]
      exact congrArg (fun pages => _ :: _ :: pages) pages
    · intro later found
      obtain ⟨other, isLater, rfl⟩ := List.mem_map.mp found
      exact last other isLater

/-- A site that has been written has one file for each path that is returned, and every text of it can be read
exactly if the page names are different and no module is named like the index page. Otherwise the page of the
last module with a name stays, also in the place of the index page. -/
theorem writeSite_written (done : (writeSite modules directory projectName license).run.run workspace =
      (.ok written, after)) :
    let site := Site.ofModules modules projectName license
    written = directory.child indexPageName :: directory.child searchScriptName ::
        modules.map (fun module => directory.child (pageName module.name)) ∧
      (written.Nodup ↔ (modules.map fun module => pageName module.name).Nodup ∧
        ∀ module ∈ modules, module.name ≠ indexModuleName) ∧
      site.StandsIn modules directory after ∧
      (written.Nodup → ∀ module ∈ modules,
        after.read (directory.child (pageName module.name)) =
          .ok (encodeUtf8 (site.modulePage module))) := by
  intro site
  have stands := writeSite_standsIn done
  obtain ⟨paths, -⟩ := writeSite_holds done
  have distinct : written.Nodup ↔ (modules.map fun module => pageName module.name).Nodup ∧
      ∀ module ∈ modules, module.name ≠ indexModuleName := by
    rw [paths, ← site.files_nodup, ← List.nodup_map_iff (FilePath.child_injective directory), List.map_map]
    rfl
  refine ⟨?_, distinct, stands, fun different module member => ?_⟩
  · rw [paths, Site.files, List.map_cons, List.map_cons, List.map_map]
    rfl
  · obtain ⟨front, rest, shape⟩ := List.append_of_mem member
    refine stands.page front module rest shape fun later found same => ?_
    have pages := (distinct.mp different).1
    rw [shape, List.map_append, List.map_cons, List.nodup_append] at pages
    refine (List.nodup_cons.mp pages.2.1).1 ?_
    rw [← same]
    exact List.mem_map_of_mem found

end Written

def emptyModule (name : String) : ModuleDoc where
  name := name.toList
  file := .ofText (name ++ ".d").toList

/-- The pages of modules with different names can be one file, and one of them can take the place of the index
page. -/
theorem writeSite_overwritten :
    let modules := [emptyModule "a.b", emptyModule "a_b", emptyModule "index"]
    let site := Site.ofModules modules [] []
    let directory := FilePath.ofText "docs".toList
    ∃ written after,
      (writeSite modules directory [] []).run.run ⟨.directory [], []⟩ = (.ok written, after) ∧
        (modules.map ModuleDoc.name).Nodup ∧ ¬written.Nodup ∧
        after.read (directory.child indexPageName) =
          .ok (encodeUtf8 (site.modulePage (emptyModule "index"))) := by
  intro modules site directory
  have succeeds : ((writeSite modules directory [] []).run.run ⟨.directory [], []⟩).1.isOk = true := by
    decide +kernel
  obtain ⟨written, done⟩ := exists_run_eq_ok succeeds
  obtain ⟨-, distinct, stands, -⟩ := writeSite_written done
  refine ⟨written, _, done, by decide, ?_, ?_⟩
  · intro different
    exact (distinct.mp different).2 (emptyModule "index") (by simp [modules]) rfl
  · exact stands.page [emptyModule "a.b", emptyModule "a_b"] (emptyModule "index") [] rfl
      fun later found => nomatch found

end DocSite
