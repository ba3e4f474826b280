/-
Documentation as JSON records.

Every node of the documentation tree is written as an object with fixed fields. Reading is done in two
steps. `normalize` functions bring an object into the written form: required fields have to be there,
absent ones get their defaults, unknown ones are dropped, and whatever can be walked through serves as a
list. They do not look at the values that they keep, so a number may stand where a text belongs. The
`ofRecord?` functions then read a written record back and accept values of the right types only.
-/
import DocSite.Doc.Basic
import DocSite.Json.Display

namespace DocSite

inductive RecordError where
  | missingField (key : Text)
  | wrongType
  | unknownKind (value : Json)
  deriving Repr

def RecordError.message : RecordError → Text
  | .missingField key => Quoted.encode key
  | .wrongType => "TypeError".toList
  | .unknownKind value => value.display ++ " is not a valid ContainerKind".toList

/-! ### Writing -/

def textsRecord (texts : List Text) : Json :=
  .array (texts.map Json.string)

def FunctionDoc.toRecord (function : FunctionDoc) : Json :=
  .object
    [("name".toList, .string function.name),
      ("return_type".toList, .string function.returnType),
      ("parameters".toList, textsRecord function.parameters),
      ("comments".toList, textsRecord function.comments),
      ("line_number".toList, .int function.line),
      ("is_private".toList, .bool function.isPrivate)]

def FieldDoc.toRecord (field : FieldDoc) : Json :=
  .object
    [("declaration".toList, .string field.declaration),
      ("comments".toList, textsRecord field.comments),
      ("line_number".toList, .int field.line),
      ("is_private".toList, .bool field.isPrivate)]

def AggregateDoc.toRecord (aggregate : AggregateDoc) : Json :=
  .object
    [("name".toList, .string aggregate.name),
      ("type".toList, .string aggregate.kind.keyword),
      ("comments".toList, textsRecord aggregate.comments),
      ("methods".toList, .array (aggregate.methods.map FunctionDoc.toRecord)),
      ("fields".toList, .array (aggregate.fields.map FieldDoc.toRecord)),
      ("line_number".toList, .int aggregate.line)]

def EnumMemberDoc.toRecord (member : EnumMemberDoc) : Json :=
  .object
    [("name".toList, .string member.name),
      ("value".toList, .string member.value),
      ("comments".toList, textsRecord member.comments),
      ("line_number".toList, .int member.line)]

def EnumDoc.toRecord (enum : EnumDoc) : Json :=
  .object
    [("name".toList, .string enum.name),
      ("comments".toList, textsRecord enum.comments),
      ("members".toList, .array (enum.members.map EnumMemberDoc.toRecord)),
      ("line_number".toList, .int enum.line)]

def ModuleDoc.toRecord (module : ModuleDoc) : Json :=
  .object
    [("name".toList, .string module.name),
      ("filepath".toList, .string module.file.text),
      ("comments".toList, textsRecord module.comments),
      ("imports".toList, textsRecord module.imports),
      ("functions".toList, .array (module.functions.map FunctionDoc.toRecord)),
      ("classes".toList, .array (module.aggregates.map AggregateDoc.toRecord)),
      ("enums".toList, .array (module.enums.map EnumDoc.toRecord))]

/-! ### Normal form -/

def requiredField (data : Json) (key : Text) : Except RecordError Json :=
  match data with
  | .object fields =>
      match Json.field? key fields with
      | some value => .ok value
      | none => .error (.missingField key)
  | _ => .error .wrongType

def optionalField (data : Json) (key : Text) (absent : Json) : Json :=
  match data with
  | .object fields => (Json.field? key fields).getD absent
  | _ => absent

/-- What is met on a walk through a value: the items of an array, the characters of a string, the
keys of an object. -/
def walkThrough : Json → Except RecordError (List Json)
  | .array items => .ok items
  | .string text => .ok (text.map fun character => .string [character])
  | .unpaired codes => .ok (codes.map fun code => .ofCodes [code])
  | .object fields => .ok (fields.map fun field => .ofKey field.1)
  | _ => .error .wrongType

/-- The field whose value is walked through, empty by default, with each item brought into the
form of its own kind. -/
def listField (data : Json) (key : Text) (item : Json → Except RecordError Json) :
    Except RecordError Json := do
  let items ← walkThrough (optionalField data key (.array []))
  .array <$> items.mapM item

def normalizeFunction (data : Json) : Except RecordError Json := do
  let name ← requiredField data "name".toList
  let returnType := optionalField data "return_type".toList (.string [])
  let parameters ← listField data "parameters".toList .ok
  let comments ← listField data "comments".toList .ok
  return .object
    [("name".toList, name), ("return_type".toList, returnType),
      ("parameters".toList, parameters), ("comments".toList, comments),
      ("line_number".toList, optionalField data "line_number".toList (.int 0)),
      ("is_private".toList, optionalField data "is_private".toList (.bool false))]

def normalizeField (data : Json) : Except RecordError Json := do
  let declaration ← requiredField data "declaration".toList
  let comments ← listField data "comments".toList .ok
  return .object
    [("declaration".toList, declaration), ("comments".toList, comments),
      ("line_number".toList, optionalField data "line_number".toList (.int 0)),
      ("is_private".toList, optionalField data "is_private".toList (.bool false))]

def checkKind (value : Json) : Except RecordError Json :=
  match value with
  | .string keyword =>
      if (AggregateKind.ofKeyword? keyword).isSome then .ok value
      else .error (.unknownKind value)
  | _ => .error (.unknownKind value)

def normalizeAggregate (data : Json) : Except RecordError Json := do
  let name ← requiredField data "name".toList
  let kind ← checkKind (← requiredField data "type".toList)
  let comments ← listField data "comments".toList .ok
  let methods ← listField data "methods".toList normalizeFunction
  let fields ← listField data "fields".toList normalizeField
  return .object
    [("name".toList, name), ("type".toList, kind), ("comments".toList, comments),
      ("methods".toList, methods), ("fields".toList, fields),
      ("line_number".toList, optionalField data "line_number".toList (.int 0))]

def normalizeEnumMember (data : Json) : Except RecordError Json := do
  let name ← requiredField data "name".toList
  let comments ← listField data "comments".toList .ok
  return .object
    [("name".toList, name), ("value".toList, optionalField data "value".toList (.string [])),
      ("comments".toList, comments),
      ("line_number".toList, optionalField data "line_number".toList (.int 0))]

def normalizeEnum (data : Json) : Except RecordError Json := do
  let name ← requiredField data "name".toList
  let comments ← listField data "comments".toList .ok
  let members ← listField data "members".toList normalizeEnumMember
  return .object
    [("name".toList, name), ("comments".toList, comments), ("members".toList, members),
      ("line_number".toList, optionalField data "line_number".toList (.int 0))]

/-- The pieces of a list of codes between the occurrences of one code, empty pieces kept. -/
def codesBetween (separator : Nat) : List Nat → List (List Nat)
  | [] => [[]]
  | code :: rest =>
      match codesBetween separator rest with
      | [] => [[code]]
      | piece :: pieces =>
          if code = separator then [] :: piece :: pieces else (code :: piece) :: pieces

/-- The written form of a path that is no text, since half a surrogate pair stands in it. -/
def normalPathCodes (codes : List Nat) : List Nat :=
  let slash := '/'.toNat
  let parts := (codesBetween slash codes).filter fun part => !(part.isEmpty || part == ['.'.toNat])
  let anchor :=
    match (codes.takeWhile (· == slash)).length with
    | 0 => []
    | 2 => [slash, slash]
    | _ => [slash]
  anchor ++ [slash].intercalate parts

/-- A value that is a path, with the path in its written form. -/
def normalizePath : Json → Except RecordError Json
  | .string text => .ok (.string (FilePath.ofText text).text)
  | .unpaired codes => .ok (.unpaired (normalPathCodes codes))
  | _ => .error .wrongType

def normalizeModule (data : Json) : Except RecordError Json := do
  let name ← requiredField data "name".toList
  let file ← normalizePath (← requiredField data "filepath".toList)
  let comments ← listField data "comments".toList .ok
  let imports ← listField data "imports".toList .ok
  let functions ← listField data "functions".toList normalizeFunction
  let aggregates ← listField data "classes".toList normalizeAggregate
  let enums ← listField data "enums".toList normalizeEnum
  return .object
    [("name".toList, name), ("filepath".toList, file), ("comments".toList, comments),
      ("imports".toList, imports), ("functions".toList, functions),
      ("classes".toList, aggregates), ("enums".toList, enums)]

/-! ### Reading normal forms -/

def text? : Json → Option Text
  | .string text => some text
  | _ => none

def int? : Json → Option Int
  | .int value => some value
  | _ => none

def bool? : Json → Option Bool
  | .bool value => some value
  | _ => none

def list? {α : Type} (item? : Json → Option α) : Json → Option (List α)
  | .array items => items.mapM item?
  | _ => none

def readField? {α : Type} (data : Json) (key : Text) (value? : Json → Option α) : Option α :=
  match data with
  | .object fields => (Json.field? key fields).bind value?
  | _ => none

def FunctionDoc.ofRecord? (data : Json) : Option FunctionDoc := do
  return {
    name := ← readField? data "name".toList text?
    returnType := ← readField? data "return_type".toList text?
    parameters := ← readField? data "parameters".toList (list? text?)
    comments := ← readField? data "comments".toList (list? text?)
    line := ← readField? data "line_number".toList int?
    isPrivate := ← readField? data "is_private".toList bool? }

def FieldDoc.ofRecord? (data : Json) : Option FieldDoc := do
  return {
    declaration := ← readField? data "declaration".toList text?
    comments := ← readField? data "comments".toList (list? text?)
    line := ← readField? data "line_number".toList int?
    isPrivate := ← readField? data "is_private".toList bool? }

def AggregateDoc.ofRecord? (data : Json) : Option AggregateDoc := do
  return {
    name := ← readField? data "name".toList text?
    kind := ← readField? data "type".toList fun value =>
      (text? value).bind AggregateKind.ofKeyword?
    comments := ← readField? data "comments".toList (list? text?)
    methods := ← readField? data "methods".toList (list? FunctionDoc.ofRecord?)
    fields := ← readField? data "fields".toList (list? FieldDoc.ofRecord?)
    line := ← readField? data "line_number".toList int? }

def EnumMemberDoc.ofRecord? (data : Json) : Option EnumMemberDoc := do
  return {
    name := ← readField? data "name".toList text?
    value := ← readField? data "value".toList text?
    comments := ← readField? data "comments".toList (list? text?)
    line := ← readField? data "line_number".toList int? }

def EnumDoc.ofRecord? (data : Json) : Option EnumDoc := do
  return {
    name := ← readField? data "name".toList text?
    comments := ← readField? data "comments".toList (list? text?)
    members := ← readField? data "members".toList (list? EnumMemberDoc.ofRecord?)
    line := ← readField? data "line_number".toList int? }

def ModuleDoc.ofRecord? (data : Json) : Option ModuleDoc := do
  return {
    name := ← readField? data "name".toList text?
    file := FilePath.ofText (← readField? data "filepath".toList text?)
    comments := ← readField? data "comments".toList (list? text?)
    imports := ← readField? data "imports".toList (list? text?)
    functions := ← readField? data "functions".toList (list? FunctionDoc.ofRecord?)
    aggregates := ← readField? data "classes".toList (list? AggregateDoc.ofRecord?)
    enums := ← readField? data "enums".toList (list? EnumDoc.ofRecord?) }

end DocSite
