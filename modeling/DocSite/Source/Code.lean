/-
Code, literals and comments within one line.

A line is read from left to right. String, character and raw literals and block comments are
inert: nothing inside them is structure. A line comment ends the code. A backslash outside raw
literals and block comments takes the next character with it, also outside literals. Nothing is
carried from one line to the next.
-/
import DocSite.Text.Basic

namespace DocSite

/-- Where a character of a line stands. -/
inductive Zone where
  | code
  | string
  | character
  | raw
  | block
  deriving DecidableEq, Repr

structure CodeScan where
  /-- The characters outside literals and comments. -/
  bare : Text
  /-- The line up to its line comment, literals included. -/
  code : Text
  /-- The text behind the slashes of the line comment. -/
  comment : Option Text
  /-- The zone that the line ends in. -/
  zone : Zone
  /-- Whether the line ends directly behind an escaping backslash. -/
  escaped : Bool
  deriving DecidableEq, Repr

namespace CodeScan

def pass (inert : Char) (scan : CodeScan) : CodeScan :=
  { scan with code := inert :: scan.code }

def mark (structural : Char) (scan : CodeScan) : CodeScan :=
  { scan with bare := structural :: scan.bare, code := structural :: scan.code }

/-- Reads a text that begins in a zone. The flag says that the first character is bound to the one
before it, as behind an escaping backslash or as the second half of a block comment's mark; such a
character is inert and leaves the zone as it is. -/
def ofText (zone : Zone) (bound : Bool) : Text → CodeScan
  | [] => ⟨[], [], none, zone, bound⟩
  | character :: rest =>
      if bound then (ofText zone false rest).pass character
      else
        match zone with
        | .block =>
            if character = '*' ∧ rest.head? = some '/' then
              (ofText .code true rest).pass character
            else (ofText .block false rest).pass character
        | .raw =>
            (ofText (if character = '\x60' then .code else .raw) false rest).pass character
        | .string =>
            if character = '\\' then (ofText .string true rest).pass character
            else (ofText (if character = '"' then .code else .string) false rest).pass character
        | .character =>
            if character = '\\' then (ofText .character true rest).pass character
            else
              (ofText (if character = '\x27' then .code else .character) false rest).pass
                character
        | .code =>
            if character = '\\' then (ofText .code true rest).pass character
            else if character = '"' then (ofText .string false rest).pass character
            else if character = '\x27' then (ofText .character false rest).pass character
            else if character = '\x60' then (ofText .raw false rest).pass character
            else if character = '/' ∧ rest.head? = some '/' then
              ⟨[], [], some rest.tail, .code, false⟩
            else if character = '/' ∧ rest.head? = some '*' then
              (ofText .block true rest).pass character
            else (ofText .code false rest).mark character

end CodeScan

def scanCode (line : Text) : CodeScan :=
  CodeScan.ofText .code false line

/-- The opening braces of a line less its closing ones, literals and comments left out. -/
def braceDelta (line : Text) : Int :=
  let bare := (scanCode line).bare
  Int.ofNat (bare.count '\x7b') - Int.ofNat (bare.count '\x7d')

def opensBrace (line : Text) : Bool :=
  (scanCode line).bare.contains '\x7b'

/-- The code of a line without trailing blanks, and the text of its line comment, which is empty
when there is none. A documentation comment leaves a slash at the start of that text. -/
def splitLineComment (line : Text) : Text × Text :=
  let scan := scanCode line
  (Text.trimRight scan.code, scan.comment.getD [])

/-- The code of a line. -/
def codeOf (line : Text) : Text :=
  (splitLineComment line).1

/-- Whether code declares nothing: it consists of braces, semicolons, spaces and tabs. -/
def isFiller (code : Text) : Bool :=
  code.all fun character =>
    character == '\x7b' || character == '\x7d' || character == ';' || character == ' ' ||
      character == '\t'

end DocSite
