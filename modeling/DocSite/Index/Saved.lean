/-
Saved module indexes.

The documentation of a project is saved as one JSON object with a version, the time of writing and the
records of the modules. Only the version that is written is read back.
-/
import DocSite.Doc.Record
import DocSite.Json.Reader

namespace DocSite

def indexVersion : Text := "1.0".toList

def indexRecord (createdAt : Text) (records : List Json) : Json :=
  .object
    [("version".toList, .string indexVersion),
      ("created_at".toList, .string createdAt),
      ("modules".toList, .array records)]

/-- The text of a saved index, as far as it is written. -/
def indexText (createdAt : Text) (records : List Json) : Json.Written :=
  (indexRecord createdAt records).indented 0

inductive IndexError where
  | notAnObject
  | unsupportedVersion (version : Json)
  | malformedEntry (error : RecordError)
  deriving Repr

def IndexError.message (path : FilePath) : IndexError → Text
  | .notAnObject => path.text ++ ": expected a JSON object".toList
  | .unsupportedVersion version =>
      path.text ++ ": unsupported module index version ".toList ++ version.display ++
        " (expected ".toList ++ Quoted.encode indexVersion ++ [')']
  | .malformedEntry error =>
      path.text ++ ": malformed module entry: ".toList ++ error.message

def isIndexVersion : Json → Bool
  | .string version => version == indexVersion
  | _ => false

/-- The records of an index in their normal form, in their order. -/
def indexEntries (document : Json) : Except IndexError (List Json) :=
  match document with
  | .object fields =>
      let version := (Json.field? "version".toList fields).getD .null
      if isIndexVersion version then
        let entries : Except RecordError (List Json) := do
          let entries ← walkThrough (optionalField document "modules".toList (.array []))
          entries.mapM normalizeModule
        entries.mapError .malformedEntry
      else .error (.unsupportedVersion version)
  | _ => .error .notAnObject

end DocSite
