/-
Indexes in files.

A module index is one file, and so is the search script. An index is read only if its bytes are valid
UTF-8 without a byte order mark and its text is JSON.
-/
import DocSite.Files.Tree
import DocSite.Index.Saved
import DocSite.Index.Search

namespace DocSite

inductive LoadError where
  | file (error : FileError)
  | notUtf8
  | json (error : JsonError)
  | index (error : IndexError)

/-- Writes the index of records of modules to a file. The part of it that stands in front of a number with too
many digits stays in the file. -/
def saveRecords (createdAt : Text) (records : List Json) (path : FilePath) : FileAction Unit := do
  let written := indexText createdAt records
  writeText path written.text
  unless written.complete do throw .tooManyDigits

def saveIndex (createdAt : Text) (modules : List ModuleDoc) (path : FilePath) :
    FileAction Unit :=
  saveRecords createdAt (modules.map ModuleDoc.toRecord) path

def loadIndex (workspace : Workspace) (path : FilePath) : Except LoadError (List Json) :=
  match workspace.read path with
  | .error error => .error (.file error)
  | .ok content =>
      match decodeUtf8? content with
      | none => .error .notUtf8
      | some text =>
          match Json.parse text with
          | .error error => .error (.json error)
          | .ok document => (indexEntries document).mapError .index

def searchScriptName : Text := "search_index.js".toList

def writeScript (index : Json) (directory : FilePath) : FileAction FilePath := do
  let path := directory.child searchScriptName
  unless (index.indented 0).complete do throw .tooManyDigits
  writeText path (scriptOf index)
  return path

def writeSearchScript (modules : List ModuleDoc) (directory : FilePath) : FileAction FilePath :=
  writeScript (searchIndex modules) directory

end DocSite
