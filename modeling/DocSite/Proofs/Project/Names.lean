/-
Names of files that are read and names of files that are written.

A run reads sources, manifests and licenses, and it writes pages and a script into the directory of its site.
The last point of a name tells the two kinds apart, whatever the modules are called.
-/
import DocSite.Project.Sources
import DocSite.Proofs.Page.Files

namespace DocSite

def IsSiteName (name : Text) : Prop :=
  name = searchScriptName ∨ ".html".toList <:+ name

def IsInputName (name : Text) : Prop :=
  isSourceFile (FilePath.here.child name) = true ∨ name = jsonManifestName ∨ name = directiveManifestName ∨
    name ∈ licenseFiles

theorem isSiteName_pageName (name : Text) : IsSiteName (pageName name) :=
  .inr (List.suffix_append ..)

theorem Site.isSiteName_of_mem {site : Site} {modules : List ModuleDoc} {file : Text × Text}
    (found : file ∈ site.files modules) : IsSiteName file.1 := by
  rcases List.mem_cons.mp found with rfl | found
  · exact .inr (List.suffix_append indexModuleName _)
  rcases List.mem_cons.mp found with rfl | found
  · exact .inl rfl
  obtain ⟨module, -, rfl⟩ := List.mem_map.mp found
  exact isSiteName_pageName module.name

theorem FilePath.name_child (path : FilePath) (name : Text) : (path.child name).name = name := by
  rw [FilePath.name, child, List.getLast?_concat]
  rfl

/-- Whether a file is a source is told by its name. -/
theorem isSourceFile_child (path : FilePath) (name : Text) :
    isSourceFile (path.child name) = isSourceFile (FilePath.here.child name) := by
  unfold isSourceFile FilePath.extension
  rw [path.name_child, FilePath.here.name_child]

theorem FilePath.splitName_page (stem : Text) :
    (splitName (stem ++ ".html".toList)).2 = [] ∨ (splitName (stem ++ ".html".toList)).2 = ".html".toList := by
  have cut : Text.cutAtLast? '.' (stem ++ ".html".toList) = some (stem, "html".toList) := by
    have reversed : (stem ++ ".html".toList).reverse = "lmth".toList ++ '.' :: stem.reverse := by
      rw [List.reverse_append]
      rfl
    have before : Text.cutAt? '.' ("lmth".toList ++ '.' :: stem.reverse) =
        some ("lmth".toList, stem.reverse) := by
      simp [Text.cutAt?]
    unfold Text.cutAtLast?
    rw [reversed, before, Option.map_some, List.reverse_reverse]
    rfl
  unfold splitName
  rw [cut]
  dsimp only
  split
  · exact .inl rfl
  · exact .inr rfl

theorem isSourceFile_of_isSiteName {name : Text} (written : IsSiteName name) (path : FilePath) :
    isSourceFile (path.child name) = false := by
  rw [isSourceFile_child]
  rcases written with rfl | ⟨stem, rfl⟩
  · decide
  · unfold isSourceFile FilePath.extension
    rw [FilePath.name_child]
    rcases FilePath.splitName_page stem with empty | page
    · rw [empty]
      decide
    · rw [page]
      decide

/-- No file that is written has the name of a file that is read. -/
theorem IsSiteName.not_isInputName {name : Text} (written : IsSiteName name) : ¬IsInputName name := by
  have others : ∀ input ∈ jsonManifestName :: directiveManifestName :: licenseFiles,
      input ≠ searchScriptName ∧ ¬".html".toList <:+ input := by
    decide
  rintro (source | other)
  · rw [isSourceFile_of_isSiteName written] at source
    cases source
  · have listed : name ∈ jsonManifestName :: directiveManifestName :: licenseFiles := by
      rw [List.mem_cons, List.mem_cons]
      exact other
    obtain ⟨noScript, noPage⟩ := others name listed
    exact written.elim noScript noPage

end DocSite
