/-
Nesting of brackets within one statement.

Quoted literals are opaque here and comments are not known. A text is split at separators outside
all brackets, and the closer of a bracket is found by counting brackets of the same form.
-/
import DocSite.Text.Basic

namespace DocSite

/-- Whether the reader is inside a quoted literal, and if so behind an escaping backslash. -/
inductive Quotation where
  | outside
  | within (mark : Char) (escaped : Bool)
  deriving DecidableEq, Repr

def isQuoteMark (character : Char) : Bool :=
  character == '"' || character == '\x27' || character == '\x60'

/-- The quotation after one more character. Backslashes escape nothing in raw literals. -/
def Quotation.step : Quotation → Char → Quotation
  | .outside, character => if isQuoteMark character then .within character false else .outside
  | .within mark true, _ => .within mark false
  | .within mark false, character =>
      if character = '\\' ∧ mark ≠ '\x60' then .within mark true
      else if character = mark then .outside
      else .within mark false

def closerOf? : Char → Option Char
  | '(' => some ')'
  | '[' => some ']'
  | '\x7b' => some '\x7d'
  | _ => none

def isOpener (character : Char) : Bool :=
  (closerOf? character).isSome

def isCloser (character : Char) : Bool :=
  character == ')' || character == ']' || character == '\x7d'

/-- The bracket depth after a character outside literals. It never falls below zero. -/
def depthAfter (depth : Nat) (character : Char) : Nat :=
  if isOpener character then depth + 1
  else if isCloser character then depth - 1
  else depth

/-- The pieces of a text between separators that lie outside literals and brackets, as they stand.
A quote mark or a bracket separates nothing. -/
def topLevelSegments (isSeparator : Char → Bool) (quotation : Quotation) (depth : Nat) :
    Text → List Text
  | [] => [[]]
  | character :: rest =>
      match quotation with
      | .within _ _ =>
          Text.consHead character
            (topLevelSegments isSeparator (quotation.step character) depth rest)
      | .outside =>
          if isQuoteMark character || isOpener character || isCloser character ||
              !isSeparator character || depth != 0 then
            Text.consHead character
              (topLevelSegments isSeparator (quotation.step character)
                (depthAfter depth character) rest)
          else
            [] :: topLevelSegments isSeparator .outside depth rest

/-- The trimmed pieces of a text between top-level separators, empty pieces kept. -/
def splitTopLevel (isSeparator : Char → Bool) (text : Text) : List Text :=
  (topLevelSegments isSeparator .outside 0 text).map Text.trim

def splitTopLevelAt (separator : Char) (text : Text) : List Text :=
  splitTopLevel (· == separator) text

/-- The parts of a text before and after the closer that brings the depth to zero; `depth` counts
the brackets of this form that are open. -/
def cutAtCloser? (opener closer : Char) (quotation : Quotation) (depth : Nat) :
    Text → Option (Text × Text)
  | [] => none
  | character :: rest =>
      let keep (depth : Nat) : Option (Text × Text) :=
        (cutAtCloser? opener closer (quotation.step character) depth rest).map fun parts =>
          (character :: parts.1, parts.2)
      match quotation with
      | .within _ _ => keep depth
      | .outside =>
          if character = opener then keep (depth + 1)
          else if character = closer then
            if depth ≤ 1 then some ([], rest) else keep (depth - 1)
          else keep depth

/-- What stands between the parenthesis before a text and its closer, and what follows. -/
def cutParenthesis? (afterOpener : Text) : Option (Text × Text) :=
  cutAtCloser? '(' ')' .outside 1 afterOpener

inductive BracketError where
  | pastEnd
  | notAnOpener
  deriving DecidableEq, Repr

def findClosing (text : Text) (position : Nat) : Except BracketError (Option Nat) :=
  match text.drop position with
  | [] => .error .pastEnd
  | opener :: rest =>
      match closerOf? opener with
      | none => .error .notAnOpener
      | some closer =>
          .ok ((cutAtCloser? opener closer .outside 1 rest).map fun parts =>
            position + 1 + parts.1.length)

end DocSite
