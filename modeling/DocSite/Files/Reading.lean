/-
Reading files for a run.

Reading goes on after most problems and reports them in the log. Some break it off: a path that cannot be
looked at, a JSON text with a number or a nesting beyond what is followed, and a number of workers beyond
what can be started.
-/
import DocSite.Files.Tree
import DocSite.Json.Reader

namespace DocSite

inductive ReadError where
  | file (error : FileError)
  | json (error : JsonError)
  /-- More workers are asked for than can be started. -/
  | tooManyWorkers
  deriving DecidableEq, Repr

def ReadError.message : ReadError → Text
  | .file error => error.message
  | .json error => error.message
  | .tooManyWorkers => "too many workers".toList

/-- Logged reading that may break off. The entries made before the break stay. -/
abbrev Reading := ExceptT ReadError Logged

namespace Reading

def look {α : Type} (answer : Except FileError α) : Reading α :=
  match answer with
  | .ok value => return value
  | .error error => throw (.file error)

/-- Reading whose log entries nobody sees. -/
def silently {α : Type} (reading : Reading α) : Reading α :=
  ExceptT.mk ⟨reading.run.value, []⟩

end Reading

/-- The text of a source file or manifest. A file that cannot be read is reported. -/
def readSource (workspace : Workspace) (path : FilePath) : Reading (Option Text) := do
  match workspace.read path with
  | .ok content => decodeSource path.text content
  | .error (.nullInName ofDirectory) => throw (.file (.nullInName ofDirectory))
  | .error error =>
      Logged.warn ("Failed to read ".toList ++ path.text ++ ": ".toList ++ error.message)
      return none

end DocSite
