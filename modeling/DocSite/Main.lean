/-
The command line.

The program itself works on a value that stands for the file system. Here the part of the file system
that a run can look at is read into such a value, and what the run has changed is written back.
-/
import DocSite.Console.Markup
import Std.Time

namespace DocSite

/-! ### Reading the file system -/

/-- Whether the content of a file plays a part, by the name of the file. -/
def isConsulted (name : Text) : Bool :=
  isSourceFile (.ofText name) || licenseFiles.contains name || name == jsonManifestName ||
    name == directiveManifestName

/-- What stands at a place of the file system. Files that play no part are taken to be empty. -/
partial def readPlace (place : String) : IO (Option FileNode) := do
  let path := (← IO.currentDir) / place
  if ← path.isDir then
    let listed ← try some <$> path.readDir catch _ => pure none
    match listed with
    | none => return some (.directory [] { lists := false })
    | some found =>
        let mut entries : List (Text × FileNode) := []
        for entry in found do
          match ← readPlace entry.path.toString with
          | some node => entries := (entry.fileName.toList, node) :: entries
          | none => pure ()
        return some (.directory entries)
  else if ← path.pathExists then
    if isConsulted ((path.fileName.getD "").toList) then
      return some (.file (← IO.FS.readBinFile path).toList)
    else return some (.file [])
  else return none

/-- The names on the way from the root, without the steps to a parent. -/
def directNames (names : List Text) : List Text :=
  names.foldl (fun reached name => if name = ['.', '.'] then reached.dropLast else reached ++ [name])
    []

def namesOf (workspace : Workspace) (path : FilePath) : List Text :=
  match path.anchor with
  | .here => directNames (workspace.here ++ path.parts)
  | _ => directNames path.parts

def placeOf (names : List Text) : String :=
  String.ofList (FilePath.mk .root names).text

def takePath (workspace : Workspace) (path : FilePath) : IO Workspace := do
  let names := namesOf workspace path
  let mut root := workspace.root
  for count in List.range names.length do
    let way := names.take count
    if (root.descend? way).isNone && (← ((← IO.currentDir) / placeOf way).isDir) then
      root := root.put way (.directory [])
  match ← readPlace (placeOf names) with
  | some node => root := root.put names node
  | none => pure ()
  return { workspace with root := root }

/-- The part of the file system that a run with given settings can look at. -/
def takeWorkspace (settings : Settings) : IO Workspace := do
  let here := (FilePath.ofText (← IO.currentDir).toString.toList).parts
  let mut workspace : Workspace := ⟨.directory [], here⟩
  let given : OptionValue FilePath → List FilePath
    | .given path => [path]
    | .emptied => []
  let written := given settings.output ++ settings.json.toList.flatMap given
  for path in [.here, settings.path] ++ written do
    workspace ← takePath workspace path
  match (detectProject workspace settings.path).run.value with
  | .ok project =>
      for directory in project.sourceDirectories do
        workspace ← takePath workspace (settings.path.join (.ofText directory))
  | .error _ => pure ()
  return workspace

/-! ### Writing back -/

/-- Writes what a run has made of a place: its new directories, and the files that it has added or changed. -/
partial def writeBack (names : List Text) (before : Option FileNode) : FileNode → IO Unit
  | .file content => do
      let same :=
        match before with
        | some (.file old) => old == content
        | _ => false
      if !same then IO.FS.writeBinFile (placeOf names) ⟨content.toArray⟩
  | .directory entries _ => do
      if before.isNone then IO.FS.createDirAll (placeOf names)
      for (name, node) in entries do
        writeBack (names ++ [name]) (before.bind (·.descend? [name])) node

/-! ### Printing -/

def ConsoleItem.lines : ConsoleItem → List Text
  | .line text => [text]
  | .panel lines => programName :: lines.map (' ' :: ' ' :: ·)
  | .table rows => tableTitle :: (tableHeader :: rows).map (Text.join [' ', ' '])

def currentTime : IO Text := do
  return (toString (← Std.Time.PlainDateTime.now)).toList

def runWith (arguments : List Text) (settings : Settings) : IO UInt32 := do
  let workspace ← takeWorkspace settings
  let outcome := runProgram terminalRendering arguments (← currentTime) workspace
  for entry in outcome.shownLog do
    IO.eprintln (String.ofList entry)
  for line in outcome.session.console.flatMap ConsoleItem.lines do
    IO.println (String.ofList line)
  writeBack [] (some workspace.root) outcome.session.workspace.root
  match outcome.status with
  | .ok code => return code.toUInt32
  | .error error =>
      IO.eprintln (String.ofList error.message)
      return 1

end DocSite

def main (arguments : List String) : IO UInt32 := do
  let arguments := arguments.map String.toList
  match DocSite.readCommandLine arguments with
  | .quit code printed =>
      IO.print (String.ofList printed)
      return code.toUInt32
  | .run settings => DocSite.runWith arguments settings
