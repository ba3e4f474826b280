/-
Written integers.

An integer may stand between blanks, begin with a sign and have single underscores between its digits,
which may be decimal digits of any script.
-/
import DocSite.Text.Basic

namespace DocSite

/-- The zeros of the decimal scripts. Each is followed by the other nine digits. -/
def scriptZeros : List Nat :=
  [
    0x30, 0x660, 0x6f0, 0x7c0, 0x966, 0x9e6, 0xa66, 0xae6, 0xb66, 0xbe6, 0xc66, 0xce6, 0xd66, 0xde6,
    0xe50, 0xed0, 0xf20, 0x1040, 0x1090, 0x17e0, 0x1810, 0x1946, 0x19d0, 0x1a80, 0x1a90, 0x1b50,
    0x1bb0, 0x1c40, 0x1c50, 0xa620, 0xa8d0, 0xa900, 0xa9d0, 0xa9f0, 0xaa50, 0xabf0, 0xff10, 0x104a0,
    0x10d30, 0x11066, 0x110f0, 0x11136, 0x111d0, 0x112f0, 0x11450, 0x114d0, 0x11650, 0x116c0,
    0x11730, 0x118e0, 0x11950, 0x11c50, 0x11d50, 0x11da0, 0x16a60, 0x16ac0, 0x16b50, 0x1d7ce,
    0x1d7d8, 0x1d7e2, 0x1d7ec, 0x1d7f6, 0x1e140, 0x1e2f0, 0x1e950, 0x1fbf0
  ]

def decimalDigit? (character : Char) : Option Nat :=
  let code := character.toNat
  (scriptZeros.find? fun first => first ≤ code && code < first + 10).map fun first => code - first

namespace Text

/-- The values of digits that may have single underscores between them. -/
def digitGroups? : Text → Option (List Nat)
  | [] => none
  | [last] => (decimalDigit? last).map ([·])
  | first :: second :: rest =>
      match decimalDigit? first with
      | none => none
      | some digit =>
          if second = '_' then (digitGroups? rest).map (digit :: ·)
          else (digitGroups? (second :: rest)).map (digit :: ·)

def digitLimit : Nat := 4300

/-- Whether a character may stand around a number: a blank that is none of the separators U+001C to
U+001F. -/
def surroundsNumber (character : Char) : Bool :=
  isBlank character && !(28 ≤ character.toNat && character.toNat ≤ 31)

def toInt? (text : Text) : Option Int :=
  let number := trimBy surroundsNumber text
  let signed : Bool × Text :=
    match number with
    | '-' :: digits => (true, digits)
    | '+' :: digits => (false, digits)
    | digits => (false, digits)
  match digitGroups? signed.2 with
  | none => none
  | some digits =>
      if digits.length > digitLimit then none
      else
        let value := Int.ofNat (digits.foldl (fun value digit => value * 10 + digit) 0)
        some (if signed.1 then -value else value)

/-- Whether a text looks like a negative decimal number, with or without a point. One line break may
follow it. -/
def looksNegative (text : Text) : Bool :=
  match text with
  | '-' :: rest =>
      let number := if endsWith '\n' rest then rest.dropLast else rest
      let isDigit (character : Char) : Bool := (decimalDigit? character).isSome
      match number.dropWhile isDigit with
      | [] => !number.isEmpty
      | '.' :: places => !places.isEmpty && places.all isDigit
      | _ => false
  | _ => false

end Text

end DocSite
