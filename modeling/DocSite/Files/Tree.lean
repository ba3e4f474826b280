/-
File trees.

A workspace is a tree of directories and files with a working directory in it. A path is resolved
component by component: two points lead to the parent of the directory that has been reached, and every
component needs a directory to be looked up in that may be searched. Components and paths have a greatest
length, and none of them holds a null character. Directories say whether they may be listed and searched;
every file may be read and written, and there are no links.
-/
import DocSite.Files.Encoding
import DocSite.Files.Path

namespace DocSite

/-- What may be done with a directory: the names in it may be listed, and they may be looked up. -/
structure Rights where
  lists : Bool := true
  searches : Bool := true
  deriving DecidableEq, Repr

inductive FileNode where
  | file (content : Bytes)
  | directory (entries : List (Text × FileNode)) (rights : Rights := {})
  deriving Inhabited

inductive FileError where
  | notFound
  | exists
  | isDirectory
  | notDirectory
  | nameTooLong
  | denied
  /-- A number in what is to be written has more digits than are written. -/
  | tooManyDigits
  /-- A null character stands in the path of a file, or in that of a directory to be made. -/
  | nullInName (ofDirectory : Bool)
  deriving DecidableEq, Repr

def FileError.message : FileError → Text
  | .notFound => "No such file or directory".toList
  | .exists => "File exists".toList
  | .isDirectory => "Is a directory".toList
  | .notDirectory => "Not a directory".toList
  | .nameTooLong => "File name too long".toList
  | .denied => "Permission denied".toList
  | .tooManyDigits => "a number has too many digits".toList
  | .nullInName _ => "Null character in a name".toList

def nameLimit : Nat := 255

def pathLimit : Nat := 4095

def FilePath.hasNull (path : FilePath) : Bool :=
  path.parts.any fun part => part.contains '\x00'

namespace FileNode

def descend? : FileNode → List Text → Option FileNode
  | node, [] => some node
  | .file _, _ :: _ => none
  | .directory entries _, name :: names => (entries.lookup name).bind (descend? · names)

/-- Replaces the entry of a name, or adds one behind the others. -/
def putEntry (name : Text) (node : FileNode) :
    List (Text × FileNode) → List (Text × FileNode)
  | [] => [(name, node)]
  | (present, old) :: rest =>
      if present = name then (name, node) :: rest else (present, old) :: putEntry name node rest

/-- The tree with a node put at the end of a way down. Nothing changes when the way leads through
something that is no directory. -/
def put (tree : FileNode) (names : List Text) (node : FileNode) : FileNode :=
  match names with
  | [] => node
  | name :: rest =>
      match tree with
      | .file content => .file content
      | .directory entries rights =>
          match entries.lookup name with
          | some below => .directory (putEntry name (below.put rest node) entries) rights
          | none =>
              if rest.isEmpty then .directory (putEntry name node entries) rights
              else .directory entries rights

def remove (tree : FileNode) (names : List Text) : FileNode :=
  match tree, names with
  | .directory entries rights, [name] =>
      .directory (entries.filter fun entry => entry.1 != name) rights
  | .directory entries rights, name :: rest =>
      match entries.lookup name with
      | some below => .directory (putEntry name (below.remove rest) entries) rights
      | none => .directory entries rights
  | tree, _ => tree

mutual

/-- The files of a tree with the names that lead to them. -/
def files : FileNode → List (List Text × Bytes)
  | .file content => [([], content)]
  | .directory entries _ => entryFiles entries

def entryFiles : List (Text × FileNode) → List (List Text × Bytes)
  | [] => []
  | (name, node) :: rest =>
      (files node).map (fun found => (name :: found.1, found.2)) ++ entryFiles rest

end

end FileNode

/-- A file tree and the names that lead from its root to the working directory. That directory may be
searched by everyone who works in it. -/
structure Workspace where
  root : FileNode
  here : List Text

namespace Workspace

/-- Follows components from a place that has been reached. Every component needs a directory. -/
def follow (root : FileNode) (reached : List Text) : List Text → Except FileError (List Text)
  | [] => .ok reached
  | part :: rest =>
      match root.descend? reached with
      | some (.directory _ rights) =>
          if !rights.searches then .error .denied
          else if nameLimit < (encodeUtf8 part).length then .error .nameTooLong
          else
            follow root (if part = ['.', '.'] then reached.dropLast else reached ++ [part]) rest
      | some (.file _) => .error .notDirectory
      | none => .error .notFound

/-- The names that lead from the root to where a path leads. The last of them need not exist. -/
def resolve (workspace : Workspace) (path : FilePath) : Except FileError (List Text) :=
  if path.hasNull then .error .notFound
  else if pathLimit < (encodeUtf8 path.text).length then .error .nameTooLong
  else
    follow workspace.root (match path.anchor with
      | .here => workspace.here
      | _ => []) path.parts

def node (workspace : Workspace) (path : FilePath) : Except FileError FileNode := do
  let names ← workspace.resolve path
  match workspace.root.descend? names with
  | some found => .ok found
  | none => .error .notFound

/-- The node that a path leads to, if there is one. A path that is too long or leads through a directory
which may not be searched cannot be looked at. -/
def node? (workspace : Workspace) (path : FilePath) : Except FileError (Option FileNode) :=
  match workspace.node path with
  | .ok found => .ok (some found)
  | .error .nameTooLong => .error .nameTooLong
  | .error .denied => .error .denied
  | .error _ => .ok none

def pathExists (workspace : Workspace) (path : FilePath) : Except FileError Bool :=
  Option.isSome <$> workspace.node? path

def isFile (workspace : Workspace) (path : FilePath) : Except FileError Bool := do
  match ← workspace.node? path with
  | some (.file _) => .ok true
  | _ => .ok false

def isDirectory (workspace : Workspace) (path : FilePath) : Except FileError Bool := do
  match ← workspace.node? path with
  | some (.directory _ _) => .ok true
  | _ => .ok false

def list (workspace : Workspace) (path : FilePath) : Except FileError (List Text) := do
  match ← workspace.node path with
  | .file _ => .error .notDirectory
  | .directory entries rights =>
      if rights.lists then .ok (entries.map Prod.fst) else .error .denied

def read (workspace : Workspace) (path : FilePath) : Except FileError Bytes :=
  if path.hasNull then .error (.nullInName false)
  else
    match workspace.node path with
    | .ok (.file content) => .ok content
    | .ok (.directory _ _) => .error .isDirectory
    | .error error => .error error

/-- The workspace with the content of a file replaced or a new file. A path without components leads to a
directory in any case. -/
def write (workspace : Workspace) (path : FilePath) (content : Bytes) :
    Except FileError Workspace := do
  if path.hasNull then throw (.nullInName false)
  let names ← workspace.resolve path
  if path.parts.isEmpty then throw .isDirectory
  match workspace.root.descend? names with
  | some (.directory _ _) => .error .isDirectory
  | _ => .ok { workspace with root := workspace.root.put names (.file content) }

def makeDirectory (workspace : Workspace) (path : FilePath) : Except FileError Workspace := do
  if path.hasNull then throw (.nullInName true)
  let names ← workspace.resolve path
  if path.parts.isEmpty then throw .exists
  match workspace.root.descend? names with
  | some _ => .error .exists
  | none => .ok { workspace with root := workspace.root.put names (.directory []) }

/-- Makes a directory and its missing parents, unless the directory is there. What has been made stays
even when a later step fails. The components of the path stand in reverse. -/
def ensureDirectory (anchor : Anchor) (workspace : Workspace) :
    List Text → Except FileError Unit × Workspace
  | [] => (.ok (), workspace)
  | part :: parents =>
      let path : FilePath := ⟨anchor, (part :: parents).reverse⟩
      let settle (workspace : Workspace) (error : FileError) :
          Except FileError Unit × Workspace :=
        match workspace.isDirectory path with
        | .ok true => (.ok (), workspace)
        | .ok false => (.error error, workspace)
        | .error other => (.error other, workspace)
      match workspace.makeDirectory path with
      | .ok made => (.ok (), made)
      | .error .notFound =>
          match ensureDirectory anchor workspace parents with
          | (.error error, changed) => (.error error, changed)
          | (.ok (), changed) =>
              match changed.makeDirectory path with
              | .ok made => (.ok (), made)
              | .error .notFound => (.error .notFound, changed)
              | .error error => settle changed error
      | .error error => settle workspace error

def ensureDirectories (workspace : Workspace) (path : FilePath) :
    Except FileError Unit × Workspace :=
  ensureDirectory path.anchor workspace path.parts.reverse

end Workspace

/-- Work that changes a workspace and may fail. What has been changed stays when it fails. -/
abbrev FileAction := ExceptT FileError (StateM Workspace)

def writeText (path : FilePath) (text : Text) : FileAction Unit := do
  match (← get).write path (encodeUtf8 text) with
  | .ok changed => set changed
  | .error error => throw error

def makeDirectories (path : FilePath) : FileAction Unit := do
  let (result, changed) := (← get).ensureDirectories path
  set changed
  match result with
  | .ok () => return
  | .error error => throw error

end DocSite
