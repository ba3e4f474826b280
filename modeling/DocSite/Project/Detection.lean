/-
Projects.

A directory with a manifest is a project; the JSON manifest goes before the one of directives. The
license is read from the first license file that is there.
-/
import DocSite.Project.License
import DocSite.Project.Manifest

namespace DocSite

structure Project where
  hasManifest : Bool
  name : Text
  sourceDirectories : List Text
  license : Text
  deriving DecidableEq, Repr

def jsonManifestName : Text := "dub.json".toList

def directiveManifestName : Text := "dub.sdl".toList

def readLicense (workspace : Workspace) (directory : FilePath) : Reading Text := do
  match ← (licenseFiles.map directory.child).findM? fun path => .look (workspace.isFile path) with
  | none => return []
  | some path =>
      match ← readSource workspace path with
      | some text => return detectLicense text
      | none =>
          Logged.warn ("Failed to read ".toList ++ path.text)
          return []

def readManifest (workspace : Workspace) (directory : FilePath) : Reading (Option Manifest) := do
  let json := directory.child jsonManifestName
  let directives := directory.child directiveManifestName
  if ← .look (workspace.isFile json) then some <$> readJsonManifest workspace json
  else if ← .look (workspace.isFile directives) then
    some <$> readDirectiveManifest workspace directives
  else return none

def detectProject (workspace : Workspace) (directory : FilePath) : Reading Project := do
  let license ← readLicense workspace directory
  match ← readManifest workspace directory with
  | some manifest => return ⟨true, manifest.name, manifest.sourceDirectories, license⟩
  | none => return ⟨false, [], defaultSourceDirectories, license⟩

end DocSite
