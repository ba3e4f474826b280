/-
Records as pages show them.

Pages show less than a record holds, and they look at its values one by one. Plain text and code have to
be texts, the names of types have to have an order, and whatever is not shown may be anything. Reading a
record for pages gives the module that they show, or the fault that they meet first.
-/
import DocSite.Doc.Caption

namespace DocSite

inductive ShowError where
  /-- Something other than a text stands where plain text belongs. -/
  | plainText
  /-- Something other than a text stands where code belongs. -/
  | code
  /-- The names of types cannot be told apart or put in order. -/
  | typeNames
  deriving DecidableEq, Repr

namespace Shown

/-! ### Values -/

def plainText : Json → Except ShowError Text
  | .string text => .ok text
  | _ => .error .plainText

def code : Json → Except ShowError Text
  | .string text => .ok text
  | _ => .error .code

/-- A text that is left out when the value is missing, false, zero or empty. -/
def unlessEmpty (read : Json → Except ShowError Text) (value : Json) : Except ShowError Text :=
  if value.isFilled then read value else .ok []

/-- The line that a record tells, which pages do not show. -/
def line (record : Json) : Int :=
  (int? (recordField record "line_number")).getD 0

def isPrivate (record : Json) : Bool :=
  (recordField record "is_private").isFilled

def comments (record : Json) : Except ShowError (List Text) :=
  (recordItems record "comments").mapM plainText

/-! ### Declarations -/

def function (record : Json) : Except ShowError FunctionDoc := do
  let parameters ← (recordItems record "parameters").mapM code
  let returnType ← unlessEmpty code (recordField record "return_type")
  let name ← plainText (recordField record "name")
  let comments ← comments record
  return ⟨name, returnType, parameters, comments, line record, isPrivate record⟩

/-- A function whose anchor is its name. -/
def freeFunction (record : Json) : Except ShowError FunctionDoc := do
  let _ ← plainText (recordField record "name")
  function record

def field (record : Json) : Except ShowError FieldDoc := do
  let declaration ← code (recordField record "declaration")
  let comments ← comments record
  return ⟨declaration, comments, line record, isPrivate record⟩

def isConstructor (record : Json) : Bool :=
  ((text? (recordField record "name")).map isConstructorName).getD false

def kind (record : Json) : AggregateKind :=
  ((text? (recordField record "type")).bind AggregateKind.ofKeyword?).getD .classType

/-- An aggregate. Constructors are met before the other methods. -/
def aggregate (record : Json) : Except ShowError AggregateDoc := do
  let name ← plainText (recordField record "name")
  let comments ← comments record
  let fields ← (recordItems record "fields").mapM field
  let _ ← ((recordItems record "methods").filter isConstructor).mapM function
  let methods ← (recordItems record "methods").mapM function
  return ⟨name, kind record, comments, methods, fields, line record⟩

def enumMember (record : Json) : Except ShowError EnumMemberDoc := do
  let name ← plainText (recordField record "name")
  let value ← unlessEmpty plainText (recordField record "value")
  let comments ← comments record
  return ⟨name, value, comments, line record⟩

def enum (record : Json) : Except ShowError EnumDoc := do
  let name ← plainText (recordField record "name")
  let comments ← comments record
  let members ← (recordItems record "members").mapM enumMember
  return ⟨name, comments, members, line record⟩

/-! ### Modules -/

def module (record : Json) : Except ShowError ModuleDoc := do
  let comments ← comments record
  let aggregates ← (recordItems record "classes").mapM aggregate
  let enums ← (recordItems record "enums").mapM enum
  let functions ← (recordItems record "functions").mapM freeFunction
  let name ← plainText (recordField record "name")
  let file := FilePath.ofText ((text? (recordField record "filepath")).getD [])
  let imports := (recordItems record "imports").filterMap text?
  return ⟨name, file, comments, imports, functions, aggregates, enums⟩

/-- Checks the name of a module and the names of its types, which links are made from. -/
def checkNames (record : Json) : Except ShowError Unit := do
  let _ ← plainText (recordField record "name")
  if (recordTypeNames? record).isSome then .ok () else .error .typeNames

/-- The modules of a site. Links are made before any page. -/
def modules (records : List Json) : Except ShowError (List ModuleDoc) := do
  records.forM checkNames
  records.mapM module

/-- A module with the names of its types and nothing else in it. -/
def outline (record : Json) : Except ShowError ModuleDoc := do
  let name ← plainText (recordField record "name")
  match (typeNameValues record).mapM text? with
  | some names =>
      return { name := name, file := .here
               aggregates := names.map fun name => { name := name, kind := .classType } }
  | none => .error .typeNames

def outlines (records : List Json) : Except ShowError (List ModuleDoc) := do
  records.forM checkNames
  records.mapM outline

end Shown

end DocSite
