/-
Captions of records.

A caption is the short text of the node that a record describes. It is formed from the record in its
normal form, in which a value of another type may stand where a text belongs; such a value is shown as
messages show it, except where nothing but a text will do.
-/
import DocSite.Decimal.Amount
import DocSite.Doc.Record

namespace DocSite

namespace Json

/-- A value in the middle of a text: a text as it is, any other value as messages show it. -/
def shownText : Json → Text
  | .string text => text
  | value => value.display

/-- The amount that a value counts as. Truth values count as one and zero. -/
def amount? : Json → Option Amount
  | .bool value => some (.ofInt (if value then 1 else 0))
  | .int value => some (.ofInt value)
  | .real value => some (.ofBinary value.binary)
  | _ => none

/-- Whether a value is anything but missing, false, zero or empty. -/
def isFilled : Json → Bool
  | .null => false
  | .bool value => value
  | .int value => value != 0
  | .real value => !(Amount.ofBinary value.binary).isZero
  | .string text => !text.isEmpty
  | .unpaired _ => true
  | .array items => !items.isEmpty
  | .object fields => !fields.isEmpty

/-- Whether two values without parts are equal. Numbers and truth values are when they count as one
amount, in whatever form they are written. -/
def sameAtom (left right : Json) : Bool :=
  match left, right with
  | .null, .null => true
  | .string text, .string other => text == other
  | .unpaired codes, .unpaired others => codes == others
  | _, _ => left.amount?.isSome && left.amount? == right.amount?

mutual

/-- Whether two values are equal. The order of fields does not matter. -/
def agrees : Json → Json → Bool
  | .array items, .array others => agreesItems items others
  | .object fields, .object others =>
      fields.length == others.length && agreesFields fields others
  | left, right => sameAtom left right

def agreesItems : List Json → List Json → Bool
  | [], [] => true
  | item :: items, other :: others => agrees item other && agreesItems items others
  | _, _ => false

def agreesFields : List (JsonKey × Json) → List (JsonKey × Json) → Bool
  | [], _ => true
  | (key, value) :: rest, others =>
      (match field? key others with
        | some other => agrees value other
        | none => false) && agreesFields rest others

end

end Json

/-- The value of a field of a record in its normal form. -/
def recordField (record : Json) (key : String) : Json :=
  optionalField record key.toList .null

def recordItems (record : Json) (key : String) : List Json :=
  match recordField record key with
  | .array items => items
  | _ => []

/-! ### Captions -/

/-- The caption of a function. Its parameters have to be texts. -/
def functionCaption? (record : Json) : Option Text :=
  (list? text? (recordField record "parameters")).map fun parameters =>
    let returnType := recordField record "return_type"
    (if returnType.isFilled then returnType.shownText ++ [' '] else []) ++
      (recordField record "name").shownText ++ '(' :: Text.join [',', ' '] parameters ++ [')']

def fieldCaption? (record : Json) : Option Text :=
  text? (recordField record "declaration")

def aggregateCaption? (record : Json) : Option Text :=
  some ((recordField record "type").shownText ++ ' ' :: (recordField record "name").shownText)

/-- The caption of a member of an enum. Without a value it is the name, which has to be a text then. -/
def enumMemberCaption? (record : Json) : Option Text :=
  let name := recordField record "name"
  let value := recordField record "value"
  if value.isFilled then some (name.shownText ++ " = ".toList ++ value.shownText) else text? name

def enumCaption? (record : Json) : Option Text :=
  some ("enum ".toList ++ (recordField record "name").shownText)

def countText (record : Json) (key : String) : Text :=
  Text.ofNat (recordItems record key).length

def moduleCaption? (record : Json) : Option Text :=
  some ("ModuleDoc(".toList ++ (recordField record "name").shownText ++ ", ".toList ++
    countText record "classes" ++ " classes, ".toList ++ countText record "enums" ++
    " enums, ".toList ++ countText record "functions" ++ " functions)".toList)

/-! ### Type names -/

/-- The values without those that equal an earlier one. -/
def distinctValues (values : List Json) : List Json :=
  values.foldl (fun kept value => if kept.any value.agrees then kept else kept ++ [value]) []

/-- The sorted values of a list without repetitions. Texts can be sorted among themselves, and so can
numbers; a list of a single value is sorted whatever the value. -/
def sortedValues? (values : List Json) : Option (List Json) :=
  let distinct := distinctValues values
  match distinct.mapM text?, distinct.mapM Json.amount? with
  | some texts, _ => some ((sortedDistinct texts).map Json.string)
  | none, some _ =>
      some (distinct.mergeSort fun left right =>
        (left.amount?.getD .undefined).notAfter (right.amount?.getD .undefined))
  | none, none => if distinct.length ≤ 1 then some distinct else none

def hasParts : Json → Bool
  | .array _ => true
  | .object _ => true
  | _ => false

def typeNameValues (record : Json) : List Json :=
  (recordItems record "classes" ++ recordItems record "enums").map fun type =>
    recordField type "name"

/-- The names of the types in the record of a module, sorted. A name may have no parts. -/
def recordTypeNames? (record : Json) : Option (List Json) :=
  let names := typeNameValues record
  if names.any hasParts then none else sortedValues? names

end DocSite
