/-
Markup of printed lines.

A tag in square brackets styles what follows it and is not printed itself. An odd number of backslashes
before a tag makes it plain text, and two backslashes before a tag stand for one. Elsewhere a backslash
before an opening bracket vanishes. Names of symbols are replaced, and characters that act on a terminal
are left out.
-/
import DocSite.Command.Run
import DocSite.Console.Symbols

namespace DocSite

/-- Whether a character acts on a terminal instead of standing on it: the bell, the backspace, the
vertical tab, the form feed and the return. -/
def actsOnTerminal (character : Char) : Bool :=
  let code := character.toNat
  code == 7 || code == 8 || (11 ≤ code && code ≤ 13)

/-- A text as it is printed, without the characters that act on a terminal. -/
def printable (text : Text) : Text :=
  text.filter fun character => !actsOnTerminal character

namespace Markup

/-! ### Tags -/

def startsTag (character : Char) : Bool :=
  character.isLower || character == '#' || character == '/' || character == '@'

/-- The rest of a tag up to its closing bracket, and what follows it. There is no opening bracket
inside a tag. -/
def tagRest? : Text → Option (Text × Text)
  | [] => none
  | character :: rest =>
      if character = ']' then some ([']'], rest)
      else if character = '[' then none
      else (tagRest? rest).map fun parts => (character :: parts.1, parts.2)

def tag? : Text → Option (Text × Text)
  | '[' :: character :: rest =>
      if startsTag character then
        (tagRest? rest).map fun parts => ('[' :: character :: parts.1, parts.2)
      else none
  | _ => none

structure SlashedTag where
  slashes : Nat
  tag : Text
  rest : Text

def isSlash (character : Char) : Bool := character == '\\'

/-- The tag that a text begins with, behind any number of backslashes. -/
def slashedTag? (text : Text) : Option SlashedTag :=
  (tag? (text.dropWhile isSlash)).map fun parts =>
    ⟨(text.takeWhile isSlash).length, parts.1, parts.2⟩

theorem tagRest?_length_lt {text : Text} {parts : Text × Text} (found : tagRest? text = some parts) :
    parts.2.length < text.length := by
  induction text generalizing parts with
  | nil => cases found
  | cons character tail ih =>
      unfold tagRest? at found
      split at found
      · cases found
        simp
      · split at found
        · cases found
        · obtain ⟨inner, cut, equal⟩ := Option.map_eq_some_iff.mp found
          have shorter := ih cut
          cases equal
          simp only [List.length_cons]
          omega

theorem tag?_length_lt {text : Text} {parts : Text × Text} (found : tag? text = some parts) :
    parts.2.length < text.length := by
  unfold tag? at found
  split at found
  · split at found
    · obtain ⟨inner, cut, equal⟩ := Option.map_eq_some_iff.mp found
      have shorter := tagRest?_length_lt cut
      cases equal
      simp only [List.length_cons]
      omega
    · cases found
  · cases found

/-- A tag is at least one character. -/
theorem slashedTag?_length_lt {text : Text} {slashed : SlashedTag}
    (found : slashedTag? text = some slashed) : slashed.rest.length < text.length := by
  obtain ⟨parts, matched, equal⟩ := Option.map_eq_some_iff.mp found
  have shorter := tag?_length_lt matched
  have dropped : (text.dropWhile isSlash).length ≤ text.length :=
    (List.dropWhile_sublist isSlash).length_le
  cases equal
  exact Nat.lt_of_lt_of_le shorter dropped

/-! ### Pieces -/

inductive Piece where
  | plain (text : Text)
  | tag (slashes : Nat) (text : Text)
  deriving DecidableEq, Repr

def consPlain (character : Char) : List Piece → List Piece
  | .plain text :: rest => .plain (character :: text) :: rest
  | pieces => .plain [character] :: pieces

def pieces : Text → List Piece
  | [] => []
  | character :: rest =>
      match _ : slashedTag? (character :: rest) with
      | some slashed => .tag slashed.slashes slashed.tag :: pieces slashed.rest
      | none => consPlain character (pieces rest)
termination_by text => text.length
decreasing_by
  · exact slashedTag?_length_lt (by assumption)
  · simp

/-! ### Writing and printing -/

def slashes (count : Nat) : Text := List.replicate count '\\'

def Piece.escaped : Piece → Text
  | .plain text => text
  | .tag count text => slashes (2 * count + 1) ++ text

/-- Whether the last characters of a text are one backslash and no more. -/
def endsInOneSlash (text : Text) : Bool :=
  (text.reverse.takeWhile isSlash).length == 1

/-- A text that is meant literally, as markup: its tags are made plain, and a single backslash at
its end is doubled. -/
def escape (text : Text) : Text :=
  let written := (pieces text).flatMap Piece.escaped
  if endsInOneSlash written then written ++ ['\\'] else written

/-- A plain text without the backslashes before opening brackets. -/
def withoutBracketSlashes : Text → Text
  | '\\' :: '[' :: rest => '[' :: withoutBracketSlashes rest
  | character :: rest => character :: withoutBracketSlashes rest
  | [] => []

def printedPlain (text : Text) : Text :=
  printable (withSymbols (withoutBracketSlashes text))

def Piece.printed : Piece → Text
  | .plain text => printedPlain text
  | .tag count text =>
      slashes (count / 2) ++ (if count % 2 = 1 then printedPlain text else [])

def printed (text : Text) : Text :=
  (pieces text).flatMap Piece.printed

end Markup

def terminalRendering : Rendering :=
  ⟨Markup.escape, Markup.printed, printable⟩

end DocSite
