/-
Texts as lists of characters.

Every text of this library is a list of characters, so that scanners recurse on it and laws about
them are laws about lists. This module holds the blank characters, trimming, the words between
blanks, and the searches that the scanners share.
-/

namespace DocSite

/-- A text is the list of its characters. -/
abbrev Text := List Char

/-- The character with a given code, if there is one. The halves of surrogate pairs have none. -/
def charOf? (code : Nat) : Option Char :=
  if h : code.isValidChar then some (Char.ofNatAux code h) else none

def charOrReplacement (code : Nat) : Char :=
  (charOf? code).getD (Char.ofNat 0xfffd)

/-- The characters that separate words: the controls U+0009 to U+000D and U+001C to U+001F, the
space, the next-line and no-break characters, and the space and line separators of Unicode. -/
def isBlank (character : Char) : Bool :=
  let code := character.toNat
  (9 ≤ code && code ≤ 13) || (28 ≤ code && code ≤ 32) || code == 0x85 || code == 0xa0 ||
    code == 0x1680 || (0x2000 ≤ code && code ≤ 0x200a) || code == 0x2028 || code == 0x2029 ||
    code == 0x202f || code == 0x205f || code == 0x3000

namespace Text

/-! ### Trimming -/

def trimLeftBy (dropped : Char → Bool) (text : Text) : Text :=
  text.dropWhile dropped

def trimRightBy (dropped : Char → Bool) (text : Text) : Text :=
  (text.reverse.dropWhile dropped).reverse

def trimBy (dropped : Char → Bool) (text : Text) : Text :=
  trimRightBy dropped (trimLeftBy dropped text)

def trimLeft (text : Text) : Text := trimLeftBy isBlank text

def trimRight (text : Text) : Text := trimRightBy isBlank text

def trim (text : Text) : Text := trimBy isBlank text

/-! ### Words -/

def consHead (character : Char) : List Text → List Text
  | [] => [[character]]
  | piece :: pieces => (character :: piece) :: pieces

def words : Text → List Text
  | [] => []
  | character :: rest =>
      if isBlank character then
        words rest
      else
        match rest with
        | [] => [[character]]
        | next :: _ =>
            if isBlank next then [character] :: words rest
            else consHead character (words rest)

def firstWord? (text : Text) : Option Text :=
  (words text).head?

def join (separator : Text) : List Text → Text
  | [] => []
  | [piece] => piece
  | piece :: pieces => piece ++ separator ++ join separator pieces

def splitOn (separator : Char) : Text → List Text
  | [] => [[]]
  | character :: rest =>
      if character = separator then [] :: splitOn separator rest
      else consHead character (splitOn separator rest)

/-! ### Searching -/

def afterPrefix? : Text → Text → Option Text
  | [], text => some text
  | _ :: _, [] => none
  | expected :: more, character :: rest =>
      if expected = character then afterPrefix? more rest else none

def beginsWith (start text : Text) : Bool :=
  (afterPrefix? start text).isSome

def cut? (phrase : Text) : Text → Option (Text × Text)
  | [] => (afterPrefix? phrase []).map fun rest => ([], rest)
  | character :: rest =>
      match afterPrefix? phrase (character :: rest) with
      | some after => some ([], after)
      | none => (cut? phrase rest).map fun parts => (character :: parts.1, parts.2)

def includes (phrase text : Text) : Bool :=
  (cut? phrase text).isSome

def cutAt? (wanted : Char) : Text → Option (Text × Text)
  | [] => none
  | character :: rest =>
      if character = wanted then some ([], rest)
      else (cutAt? wanted rest).map fun parts => (character :: parts.1, parts.2)

def cutAtLast? (wanted : Char) (text : Text) : Option (Text × Text) :=
  (cutAt? wanted text.reverse).map fun parts => (parts.2.reverse, parts.1.reverse)

def endsWith (wanted : Char) (text : Text) : Bool :=
  text.getLast? == some wanted

/-- The number of places where one character stands directly before another. Two such places
cannot overlap unless the characters are equal. -/
def countPair (left right : Char) : Text → Nat
  | [] => 0
  | [_] => 0
  | first :: second :: rest =>
      if first = left ∧ second = right then 1 + countPair left right rest
      else countPair left right (second :: rest)

/-! ### Lengths -/

theorem length_of_afterPrefix? {start text rest : Text}
    (found : afterPrefix? start text = some rest) :
    text.length = start.length + rest.length := by
  induction start generalizing text with
  | nil =>
      cases found
      simp
  | cons expected more ih =>
      cases text with
      | nil => cases found
      | cons character tail =>
          unfold afterPrefix? at found
          split at found
          · have lengths := ih found
            simp only [List.length_cons]
            omega
          · cases found

theorem length_of_cutAt? {wanted : Char} {text : Text} {parts : Text × Text}
    (found : cutAt? wanted text = some parts) :
    text.length = parts.1.length + 1 + parts.2.length := by
  induction text generalizing parts with
  | nil => cases found
  | cons character rest ih =>
      unfold cutAt? at found
      split at found
      · cases found
        simp [Nat.add_comm]
      · obtain ⟨inner, cut, equal⟩ := Option.map_eq_some_iff.mp found
        have lengths := ih cut
        cases equal
        simp only [List.length_cons]
        omega

/-! ### Decimal numbers -/

def ofNat (number : Nat) : Text := Nat.toDigits 10 number

def ofInt : Int → Text
  | .ofNat number => ofNat number
  | .negSucc number => '-' :: ofNat (number + 1)

def hex : Nat → Nat → Text
  | 0, _ => []
  | width + 1, number => hex width (number / 16) ++ [Nat.digitChar (number % 16)]

end Text

end DocSite
