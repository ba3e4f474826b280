/-
Reading JSON.

The text is first cut into tokens and the tokens are then read with a stack of open containers.
Both passes look at one item at a time, so each is a structural recursion. The grammar is strict,
with three additions: `NaN`, `Infinity` and `-Infinity`. Of two fields with one key the later value
counts. Cutting never fails: where there is no token it leaves a mark, so that of several faults in a
text the first one decides.
-/
import DocSite.Json.Value
import DocSite.Text.Numeral

namespace DocSite

inductive JsonError where
  | malformed
  /-- A whole number has more digits than are read. -/
  | tooManyDigits (count : Nat)
  /-- A container stands inside more others than are followed. -/
  | nestedTooDeep
  deriving DecidableEq, Repr

def JsonError.message : JsonError → Text
  | .malformed => "not a JSON value".toList
  | .tooManyDigits count => "a number of ".toList ++ Text.ofNat count ++ " digits".toList
  | .nestedTooDeep => "nested too deeply".toList

namespace Json

inductive Token where
  | openObject
  | closeObject
  | openArray
  | closeArray
  | colon
  | comma
  /-- A string, by the codes of its characters. -/
  | string (codes : List Nat)
  /-- A value that is no container and no string. -/
  | atom (value : Json)
  /-- A whole number with more digits than are read. -/
  | longNumber (digits : Nat)
  /-- A place where no token stands. -/
  | invalid
  deriving Repr

/-! ### Atoms -/

def digitsValue (digits : Text) : Nat :=
  digits.foldl (fun value digit => value * 10 + (digit.toNat - '0'.toNat)) 0

def exponent? : Text → Option Int
  | [] => some 0
  | letter :: rest =>
      let signed : Bool × Text :=
        match rest with
        | '-' :: digits => (true, digits)
        | '+' :: digits => (false, digits)
        | digits => (false, digits)
      if (letter = 'e' ∨ letter = 'E') ∧ signed.2 ≠ [] ∧ signed.2.all Char.isDigit then
        let value := Int.ofNat (digitsValue signed.2)
        some (if signed.1 then -value else value)
      else none

def unsigned? (negative : Bool) (text : Text) : Option Json :=
  let whole := text.takeWhile Char.isDigit
  let rest := text.dropWhile Char.isDigit
  if whole = [] ∨ (whole.head? = some '0' ∧ whole ≠ ['0']) then none
  else
    match rest with
    | [] =>
        let value := Int.ofNat (digitsValue whole)
        some (.int (if negative then -value else value))
    | '.' :: fraction =>
        let places := fraction.takeWhile Char.isDigit
        if places = [] then none
        else
          (exponent? (fraction.dropWhile Char.isDigit)).map fun exponent =>
            .real (.finite negative (digitsValue (whole ++ places))
              (exponent - Int.ofNat places.length))
    | scaled =>
        (exponent? scaled).map fun exponent =>
          .real (.finite negative (digitsValue whole) exponent)

def atom? (text : Text) : Option Json :=
  if text = "null".toList then some .null
  else if text = "true".toList then some (.bool true)
  else if text = "false".toList then some (.bool false)
  else if text = "NaN".toList then some (.real .undefined)
  else if text = "Infinity".toList then some (.real (.infinite false))
  else if text = "-Infinity".toList then some (.real (.infinite true))
  else
    match text with
    | '-' :: rest => unsigned? true rest
    | rest => unsigned? false rest

/-- Whether a text goes on with a fraction or an exponent. -/
def continuesNumber : Text → Bool
  | '.' :: digit :: _ => digit.isDigit
  | letter :: '-' :: digit :: _ => (letter == 'e' || letter == 'E') && digit.isDigit
  | letter :: '+' :: digit :: _ => (letter == 'e' || letter == 'E') && digit.isDigit
  | letter :: digit :: _ => (letter == 'e' || letter == 'E') && digit.isDigit
  | _ => false

/-- The number of digits in the whole number that a text begins with, if these are more than are
read. -/
def longNumber? (text : Text) : Option Nat :=
  let number := (Text.afterPrefix? ['-'] text).getD text
  let whole := number.takeWhile Char.isDigit
  if whole.length ≤ Text.digitLimit || whole.head? == some '0' ||
      continuesNumber (number.dropWhile Char.isDigit) then none
  else some whole.length

def atomToken (text : Text) : Token :=
  match longNumber? text with
  | some digits => .longNumber digits
  | none => ((atom? text).map Token.atom).getD .invalid

/-! ### Tokens -/

def isHighSurrogate (code : Nat) : Bool := 0xd800 ≤ code && code ≤ 0xdbff

def isLowSurrogate (code : Nat) : Bool := 0xdc00 ≤ code && code ≤ 0xdfff

/-- A list of codes with its surrogate pairs joined. -/
def joinSurrogates : List Nat → List Nat
  | [] => []
  | [code] => [code]
  | high :: low :: rest =>
      if isHighSurrogate high && isLowSurrogate low then
        (0x10000 + (high - 0xd800) * 0x400 + (low - 0xdc00)) :: joinSurrogates rest
      else high :: joinSurrogates (low :: rest)

def hexDigit? (digit : Char) : Option Nat :=
  if '0' ≤ digit ∧ digit ≤ '9' then some (digit.toNat - '0'.toNat)
  else if 'a' ≤ digit ∧ digit ≤ 'f' then some (digit.toNat - 'a'.toNat + 10)
  else if 'A' ≤ digit ∧ digit ≤ 'F' then some (digit.toNat - 'A'.toNat + 10)
  else none

def escaped? : Char → Option Char
  | '"' => some '"'
  | '\\' => some '\\'
  | '/' => some '/'
  | 'b' => some (Char.ofNat 8)
  | 'f' => some (Char.ofNat 12)
  | 'n' => some '\n'
  | 'r' => some '\r'
  | 't' => some '\t'
  | _ => none

def isGap (character : Char) : Bool :=
  character == ' ' || character == '\t' || character == '\n' || character == '\r'

def punctuation? : Char → Option Token
  | '\x7b' => some .openObject
  | '\x7d' => some .closeObject
  | '[' => some .openArray
  | ']' => some .closeArray
  | ':' => some .colon
  | ',' => some .comma
  | _ => none

def isAtomChar (character : Char) : Bool :=
  character.isAlphanum || character == '-' || character == '+' || character == '.'

/-- What the reader of tokens is in the middle of; what it has read stands in reverse. -/
inductive TokenState where
  | between
  | bare (read : Text)
  | quoted (read : List Nat)
  | escape (read : List Nat)
  | code (read : List Nat) (missing : Nat) (value : Nat)

def tokens : TokenState → Text → List Token
  | .between, [] => []
  | .bare read, [] => [atomToken read.reverse]
  | _, [] => [.invalid]
  | .between, character :: rest =>
      if isGap character then tokens .between rest
      else if character = '"' then tokens (.quoted []) rest
      else if isAtomChar character then tokens (.bare [character]) rest
      else
        match punctuation? character with
        | some token => token :: tokens .between rest
        | none => [.invalid]
  | .bare read, character :: rest =>
      if isAtomChar character then tokens (.bare (character :: read)) rest
      else if isGap character then atomToken read.reverse :: tokens .between rest
      else
        match punctuation? character with
        | some token => atomToken read.reverse :: token :: tokens .between rest
        | none => [atomToken read.reverse, .invalid]
  | .quoted read, character :: rest =>
      if character = '"' then
        .string (joinSurrogates read.reverse) :: tokens .between rest
      else if character = '\\' then tokens (.escape read) rest
      else if character.toNat < 0x20 then [.invalid]
      else tokens (.quoted (character.toNat :: read)) rest
  | .escape read, character :: rest =>
      if character = 'u' then tokens (.code read 4 0) rest
      else
        match escaped? character with
        | some meant => tokens (.quoted (meant.toNat :: read)) rest
        | none => [.invalid]
  | .code read missing value, character :: rest =>
      match hexDigit? character with
      | none => [.invalid]
      | some digit =>
          let value := value * 16 + digit
          if missing ≤ 1 then tokens (.quoted (value :: read)) rest
          else tokens (.code read (missing - 1) value) rest

/-! ### Values -/

inductive Frame where
  | array (read : List Json)
  | object (read : List (JsonKey × Json)) (key : JsonKey)

inductive Expected where
  | value
  | valueOrClose
  | key (read : List (JsonKey × Json))
  | keyOrClose
  | colon (read : List (JsonKey × Json)) (key : JsonKey)
  | separator (last : Json)

/-- The number of containers inside one another that are followed. -/
def nestingLimit : Nat := 988

/-- Reads the rest of a value. The innermost container stands first on the stack. -/
def read : Expected → List Frame → List Token → Except JsonError Json
  | .separator value, [], [] => .ok value
  | _, _, [] => .error .malformed
  | .value, stack, token :: rest =>
      match token with
      | .openObject =>
          if stack.length < nestingLimit then read .keyOrClose stack rest
          else .error .nestedTooDeep
      | .openArray =>
          if stack.length < nestingLimit then read .valueOrClose stack rest
          else .error .nestedTooDeep
      | .string codes => read (.separator (.ofCodes codes)) stack rest
      | .atom value => read (.separator value) stack rest
      | .longNumber digits => .error (.tooManyDigits digits)
      | _ => .error .malformed
  | .valueOrClose, stack, token :: rest =>
      match token with
      | .closeArray => read (.separator (.array [])) stack rest
      | .openObject =>
          if stack.length + 1 < nestingLimit then read .keyOrClose (.array [] :: stack) rest
          else .error .nestedTooDeep
      | .openArray =>
          if stack.length + 1 < nestingLimit then read .valueOrClose (.array [] :: stack) rest
          else .error .nestedTooDeep
      | .string codes => read (.separator (.ofCodes codes)) (.array [] :: stack) rest
      | .atom value => read (.separator value) (.array [] :: stack) rest
      | .longNumber digits => .error (.tooManyDigits digits)
      | _ => .error .malformed
  | .key fields, stack, token :: rest =>
      match token with
      | .string codes => read (.colon fields (.ofCodes codes)) stack rest
      | _ => .error .malformed
  | .keyOrClose, stack, token :: rest =>
      match token with
      | .closeObject => read (.separator (.object [])) stack rest
      | .string codes => read (.colon [] (.ofCodes codes)) stack rest
      | _ => .error .malformed
  | .colon fields key, stack, token :: rest =>
      match token with
      | .colon => read .value (.object fields key :: stack) rest
      | _ => .error .malformed
  | .separator value, stack, token :: rest =>
      match token, stack with
      | .comma, .array items :: outer => read .value (.array (items ++ [value]) :: outer) rest
      | .closeArray, .array items :: outer =>
          read (.separator (.array (items ++ [value]))) outer rest
      | .comma, .object fields key :: outer =>
          read (.key (setField key value fields)) outer rest
      | .closeObject, .object fields key :: outer =>
          read (.separator (.object (setField key value fields))) outer rest
      | _, _ => .error .malformed

def parse (text : Text) : Except JsonError Json :=
  read .value [] (tokens .between text)

end Json

end DocSite
