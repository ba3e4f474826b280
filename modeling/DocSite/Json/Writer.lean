/-
Writing JSON.

The output is ASCII: every other character is written by its UTF-16 units. A value is written either
on one line, with a blank after each comma and colon, or over several lines with two blanks for each
level; empty containers stay on one line in both forms. Integers have a greatest number of digits.
-/
import DocSite.Json.Value
import DocSite.Decimal.Shortest
import DocSite.Text.Numeral

namespace DocSite

/-- The binary number that a written number is held as. -/
def Real.binary : Real → Binary64
  | .finite negative digits exponent => .ofDecimal negative digits exponent
  | .infinite negative => .infinite negative
  | .undefined => .undefined

def Real.text (value : Real) : Text :=
  value.binary.text

namespace Json

def unitEscape (unit : Nat) : Text :=
  '\\' :: 'u' :: Text.hex 4 unit

def writeChar (character : Char) : Text :=
  if character = '"' then ['\\', '"']
  else if character = '\\' then ['\\', '\\']
  else if character = '\n' then ['\\', 'n']
  else if character = '\r' then ['\\', 'r']
  else if character = '\t' then ['\\', 't']
  else
    let code := character.toNat
    if code = 8 then ['\\', 'b']
    else if code = 12 then ['\\', 'f']
    else if 0x20 ≤ code ∧ code ≤ 0x7e then [character]
    else if code < 0x10000 then unitEscape code
    else
      unitEscape (0xd800 + (code - 0x10000) / 0x400) ++
        unitEscape (0xdc00 + (code - 0x10000) % 0x400)

/-- One code between the quotes of a string. Half a surrogate pair is written as the unit that it is. -/
def writeCode (code : Nat) : Text :=
  match charOf? code with
  | some character => writeChar character
  | none => unitEscape code

def writeString (text : Text) : Text :=
  '"' :: text.flatMap writeChar ++ ['"']

def writeScalar : Json → Text
  | .null => "null".toList
  | .bool true => "true".toList
  | .bool false => "false".toList
  | .int value => Text.ofInt value
  | .real value =>
      match value.binary with
      | .infinite false => "Infinity".toList
      | .infinite true => "-Infinity".toList
      | .undefined => "NaN".toList
      | .finite negative significand exponent =>
          (Binary64.finite negative significand exponent).text
  | .string text => writeString text
  | .unpaired codes => '"' :: codes.flatMap writeCode ++ ['"']
  | .array _ => []
  | .object _ => []

mutual

def compact : Json → Text
  | .array items => '[' :: compactItems items ++ [']']
  | .object fields => '\x7b' :: compactFields fields ++ ['\x7d']
  | .null => writeScalar .null
  | .bool value => writeScalar (.bool value)
  | .int value => writeScalar (.int value)
  | .real value => writeScalar (.real value)
  | .string text => writeScalar (.string text)
  | .unpaired codes => writeScalar (.unpaired codes)

def compactItems : List Json → Text
  | [] => []
  | [item] => compact item
  | item :: rest => compact item ++ ',' :: ' ' :: compactItems rest

def compactFields : List (JsonKey × Json) → Text
  | [] => []
  | [(key, value)] => writeScalar (.ofKey key) ++ ':' :: ' ' :: compact value
  | (key, value) :: rest =>
      writeScalar (.ofKey key) ++ ':' :: ' ' :: compact value ++ ',' :: ' ' :: compactFields rest

end

def newLine (level : Nat) : Text :=
  '\n' :: List.replicate (2 * level) ' '

/-! ### Writing piece by piece -/

def isOverlong (value : Int) : Bool :=
  Text.digitLimit < (Text.ofNat value.natAbs).length

/-- What has been written. Writing ends early at an integer with more digits than are written, and what has
been written by then stays. -/
structure Written where
  text : Text
  complete : Bool := true
  deriving DecidableEq, Repr

def Written.andThen (first next : Written) : Written :=
  if first.complete then ⟨first.text ++ next.text, next.complete⟩ else first

mutual

/-- A value over several lines, as far as it is written; `level` is that of the line it starts on. -/
def indented (level : Nat) : Json → Written
  | .array [] => ⟨['[', ']'], true⟩
  | .array (item :: rest) =>
      (indentedItems (level + 1) '[' (item :: rest)).andThen ⟨newLine level ++ [']'], true⟩
  | .object [] => ⟨['\x7b', '\x7d'], true⟩
  | .object (field :: rest) =>
      (indentedFields (level + 1) '\x7b' (field :: rest)).andThen ⟨newLine level ++ ['\x7d'], true⟩
  | .int value => if isOverlong value then ⟨[], false⟩ else ⟨writeScalar (.int value), true⟩
  | .null => ⟨writeScalar .null, true⟩
  | .bool value => ⟨writeScalar (.bool value), true⟩
  | .real value => ⟨writeScalar (.real value), true⟩
  | .string text => ⟨writeScalar (.string text), true⟩
  | .unpaired codes => ⟨writeScalar (.unpaired codes), true⟩

/-- The items of an array, each on a line of its own. The mark in front of an integer is written together with
the integer. -/
def indentedItems (level : Nat) (mark : Char) : List Json → Written
  | [] => ⟨[], true⟩
  | .int value :: rest =>
      (if isOverlong value then ⟨[], false⟩
        else ⟨mark :: newLine level ++ writeScalar (.int value), true⟩ : Written).andThen
          (indentedItems level ',' rest)
  | item :: rest =>
      (Written.mk (mark :: newLine level) true).andThen
        ((indented level item).andThen (indentedItems level ',' rest))

def indentedFields (level : Nat) (mark : Char) : List (JsonKey × Json) → Written
  | [] => ⟨[], true⟩
  | (key, value) :: rest =>
      (Written.mk (mark :: newLine level ++ writeScalar (.ofKey key) ++ [':', ' ']) true).andThen
        ((indented level value).andThen (indentedFields level ',' rest))

end

end Json

end DocSite
