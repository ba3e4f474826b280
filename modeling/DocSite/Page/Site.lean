/-
Writing a site.

A site is a directory with an index page, the search script and a page for every module. Pages are
written in this order, so of two modules whose pages share a name the later one stays.
-/
import DocSite.Index.Files
import DocSite.Page.Render

namespace DocSite

def indexPageName : Text := "index.html".toList

def Site.writeModulePage (site : Site) (directory : FilePath) (module : ModuleDoc) :
    FileAction FilePath := do
  let path := directory.child (pageName module.name)
  writeText path (site.modulePage module)
  return path

def writeSite (modules : List ModuleDoc) (directory : FilePath) (projectName license : Text) :
    FileAction (List FilePath) := do
  let site := Site.ofModules modules projectName license
  makeDirectories directory
  let index := directory.child indexPageName
  writeText index (site.indexPage modules)
  let script ← writeSearchScript modules directory
  let pages ← modules.mapM (site.writeModulePage directory)
  return index :: script :: pages

def siteNote (directory : FilePath) (written : List FilePath) : LogEntry :=
  ⟨.info, "Wrote ".toList ++ Text.ofNat written.length ++ " file(s) to ".toList ++ directory.text⟩

end DocSite
