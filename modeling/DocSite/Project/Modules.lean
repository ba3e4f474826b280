/-
Documentation of files.

Files are read and documented one by one. A file that cannot be read is reported and left out, and the
rest goes on.
-/
import DocSite.Doc.Extraction
import DocSite.Files.Reading

namespace DocSite

def documentFile (workspace : Workspace) (path : FilePath) : Reading (Option ModuleDoc) := do
  Logged.note .info ("Parsing ".toList ++ path.text)
  match ← readSource workspace path with
  | none =>
      Logged.warn ("Failed to read source file: ".toList ++ path.text)
      return none
  | some source =>
      let module := extractModule path source
      Logged.note .debug ("Extracted ".toList ++ module.name ++ ": ".toList ++
        Text.ofNat module.aggregates.length ++ " classes, ".toList ++
        Text.ofNat module.enums.length ++ " enums, ".toList ++
        Text.ofNat module.functions.length ++ " functions".toList)
      return some module

/-- The greatest number of workers that can be started. -/
def workerLimit : Int := 2147483646

/-- Reading that is shared out among workers, who keep their log entries to themselves. -/
def sharedOut {α : Type} (workers : Int) (reading : Reading α) : Reading α :=
  if workers > workerLimit then throw .tooManyWorkers else reading.silently

/-- The documentation of files in their order. Several files are handed to several workers when more
than one job is allowed. -/
def documentFiles (workspace : Workspace) (paths : List FilePath) (jobs : Int) :
    Reading (List ModuleDoc) := do
  let results := paths.mapM (documentFile workspace)
  let documents ← if jobs > 1 ∧ paths.length > 1 then sharedOut jobs results else results
  let modules := documents.filterMap id
  if modules.length < paths.length then
    Logged.warn ("Skipped ".toList ++ Text.ofNat (paths.length - modules.length) ++
      " unreadable file(s)".toList)
  return modules

end DocSite
