/-
JSON values.

Whole numbers are integers of any size. A number with a fraction or an exponent keeps the decimal
value that was written. The fields of an object keep the order in which their keys first came.
-/
import DocSite.Text.Basic

namespace DocSite

/-- A number that is not written as an integer. -/
inductive Real where
  /-- The number `digits * 10 ^ exponent`, or its negation. -/
  | finite (negative : Bool) (digits : Nat) (exponent : Int)
  | infinite (negative : Bool)
  | undefined
  deriving DecidableEq, Repr

inductive JsonKey where
  | text (text : Text)
  /-- A key that is no text, since half a surrogate pair stands in it. -/
  | unpaired (codes : List Nat)
  deriving DecidableEq, Repr

instance : Coe Text JsonKey := ⟨.text⟩

def JsonKey.ofCodes (codes : List Nat) : JsonKey :=
  match codes.mapM charOf? with
  | some name => .text name
  | none => .unpaired codes

/-- A JSON value. -/
inductive Json where
  | null
  | bool (value : Bool)
  | int (value : Int)
  | real (value : Real)
  | string (value : Text)
  /-- A string that is no text, since half a surrogate pair stands in it. Its characters are given by
  their codes. -/
  | unpaired (codes : List Nat)
  | array (items : List Json)
  | object (fields : List (JsonKey × Json))
  deriving Repr, Inhabited

namespace Json

def ofCodes (codes : List Nat) : Json :=
  match codes.mapM charOf? with
  | some text => .string text
  | none => .unpaired codes

def ofKey : JsonKey → Json
  | .text text => .string text
  | .unpaired codes => .unpaired codes

def field? (key : JsonKey) (fields : List (JsonKey × Json)) : Option Json :=
  fields.lookup key

/-- Gives a key a value: in place when the key is present, at the end otherwise. -/
def setField (key : JsonKey) (value : Json) : List (JsonKey × Json) → List (JsonKey × Json)
  | [] => [(key, value)]
  | (present, old) :: rest =>
      if present = key then (present, value) :: rest
      else (present, old) :: setField key value rest

end Json

end DocSite
