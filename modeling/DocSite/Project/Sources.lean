/-
Source files.

Source files are told by their extension and found by walking directories, except for hidden and
ignored ones. A project contributes the files under its source directories, each path once; any other
directory is walked as a whole, and a single file stands for itself.
-/
import DocSite.Project.Detection
import DocSite.Text.Letters

namespace DocSite

/-- Whether a path has the extension of sources or of interface files, in either case. -/
def isSourceFile (path : FilePath) : Bool :=
  let extension := Text.toLower path.extension
  extension == ".d".toList || extension == ".di".toList

def defaultIgnored : List Text :=
  [".dub".toList, "docs".toList]

/-- Whether a directory of a given name is left out: it is ignored or hidden. -/
def isIgnored (ignored : List Text) (name : Text) : Bool :=
  ignored.contains name || name.head? == some '.'

/-- Passes over a place that may not be looked at. -/
def passOver (path : FilePath) : Reading (List FilePath) := do
  Logged.note .notice ("[yellow]Warning:[/] Permission denied for ".toList ++ path.text)
  return []

/-- Looks at an entry of a directory: a directory is entered unless it is left out, and of the files those
with the name of a source are taken. -/
def visitEntry (workspace : Workspace) (ignored : List Text) (path : FilePath)
    (enter : workspace.isDirectory path = .ok true → Reading (List FilePath)) :
    Reading (List FilePath) :=
  match looked : workspace.isDirectory path with
  | .error .denied => passOver path
  | .error error => throw (.file error)
  | .ok true => if isIgnored ignored path.name then return [] else enter looked
  | .ok false =>
      match workspace.isFile path with
      | .error .denied => passOver path
      | .error error => throw (.file error)
      | .ok isFile => return if isFile && isSourceFile path then [path] else []

theorem length_le_encodeUtf8 (text : Text) : text.length ≤ (encodeUtf8 text).length := by
  have filled (character : Char) : 1 ≤ (utf8Bytes character).length := by
    unfold utf8Bytes
    dsimp only
    split
    · exact Nat.le_refl 1
    · split
      · exact Nat.le_add_left 1 1
      · split <;> exact Nat.le_add_left 1 _
  induction text with
  | nil => exact Nat.zero_le _
  | cons character text ih =>
      have first := filled character
      rw [encodeUtf8, List.flatMap_cons, List.length_append, List.length_cons]
      rw [encodeUtf8] at ih
      omega

theorem Text.length_le_join (separator : Char) (pieces : List Text) :
    pieces.length ≤ (join [separator] pieces).length + 1 := by
  induction pieces with
  | nil => exact Nat.zero_le _
  | cons piece pieces ih =>
      cases pieces with
      | nil => exact Nat.le_add_left 1 _
      | cons next pieces =>
          rw [join, List.length_append, List.length_append, List.length_singleton, List.length_cons]
          · omega
          · exact List.cons_ne_nil _ _

/-- Every component but the last takes a slash of the written path. -/
theorem FilePath.length_parts_le (path : FilePath) :
    path.parts.length ≤ (encodeUtf8 path.text).length + 1 := by
  have written : path.parts.length ≤ path.text.length + 1 := by
    have joined := Text.length_le_join '/' path.parts
    unfold text
    split
    · rename_i empty
      rw [empty]
      exact Nat.zero_le _
    · rw [List.length_append]
      omega
  have encoded := length_le_encodeUtf8 path.text
  omega

theorem Workspace.length_parts_le_of_isDirectory {workspace : Workspace} {path : FilePath}
    (looked : workspace.isDirectory path = .ok true) : path.parts.length ≤ pathLimit + 1 := by
  have bound := path.length_parts_le
  by_cases long : pathLimit < (encodeUtf8 path.text).length
  · -- a path that is too long leads to no directory
    unfold isDirectory node? node resolve at looked
    rw [if_pos long] at looked
    cases null : path.hasNull with
    | true =>
        rw [null] at looked
        cases looked
    | false =>
        rw [null] at looked
        cases looked
  · omega

def visitOrder (names : List Text) : List Text :=
  names.mergeSort fun left right => decide (¬ right < left)

/-- The source files below the directory at a path, in the order in which a walk comes to them. -/
def sourcesBelow (workspace : Workspace) (ignored : List Text) (directory : FilePath) :
    Reading (List FilePath) :=
  match workspace.list directory with
  | .error .denied => passOver directory
  | .error error => throw (.file error)
  | .ok names => do
      let found ← (visitOrder names).mapM fun name =>
        visitEntry workspace ignored (directory.child name) fun _ =>
          sourcesBelow workspace ignored (directory.child name)
      return found.flatten
termination_by pathLimit + 2 - directory.parts.length
decreasing_by
  have := Workspace.length_parts_le_of_isDirectory ‹_›
  simp only [FilePath.child, List.length_append, List.length_singleton] at this ⊢
  omega

/-- The source files at or under a path, in the order of paths. -/
def findSources (workspace : Workspace) (ignored : List Text) (path : FilePath) :
    Reading (List FilePath) := do
  if ← .look (workspace.isFile path) then return if isSourceFile path then [path] else []
  else if ← .look (workspace.isDirectory path) then
    return (← sourcesBelow workspace ignored path).mergeSort FilePath.notAfter
  else return []

inductive SourcesError where
  | missing (target : FilePath)
  | noSources (target : FilePath)
  deriving DecidableEq, Repr

def SourcesError.message : SourcesError → Text
  | .missing target => "Path does not exist: ".toList ++ target.text
  | .noSources target => "No .d files found in ".toList ++ target.text

def withoutRepeats (paths : List FilePath) : List FilePath :=
  paths.foldl (fun kept path => if kept.contains path then kept else kept ++ [path]) []

def sourcesOfDirectory (workspace : Workspace) (project : FilePath) (directory : Text) :
    Reading (List FilePath) := do
  let path := project.join (.ofText directory)
  if ← .look (workspace.pathExists path) then
    findSources workspace defaultIgnored path
  else
    Logged.note .debug ("Declared source path ".toList ++ path.text ++
      " does not exist".toList)
    return []

def sourcesOfProject (workspace : Workspace) (target : FilePath) (project : Project) :
    Reading (List FilePath) := do
  if project.hasManifest then
    let found ← project.sourceDirectories.mapM (sourcesOfDirectory workspace target)
    return withoutRepeats found.flatten
  else
    Logged.warn ("No ".toList ++ jsonManifestName ++ " or ".toList ++ directiveManifestName ++
      " found in ".toList ++ target.text ++ ", scanning for .d files".toList)
    findSources workspace defaultIgnored target

/-- The project at a target, unless it is a single file, and the files to document. -/
def collectSources (workspace : Workspace) (target : FilePath) :
    Reading (Except SourcesError (Option Project × List FilePath)) := do
  match ← .look (workspace.node? target) with
  | none => return .error (.missing target)
  | some (.file _) =>
      let files ← findSources workspace defaultIgnored target
      return if files.isEmpty then .error (.noSources target) else .ok (none, files)
  | some (.directory _ _) =>
      let project ← detectProject workspace target
      let files ← sourcesOfProject workspace target project
      return if files.isEmpty then .error (.noSources target) else .ok (some project, files)

end DocSite
