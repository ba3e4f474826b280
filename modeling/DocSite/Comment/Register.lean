/-
Waiting comments.

A scope keeps the comment that waits for the next declaration and the last comment that a
declaration took, which a repetition marker makes wait again. The module and each container have a
register of their own, so that no comment passes from one scope to another.
-/
import DocSite.Comment.Extract

namespace DocSite

/-- The comments that a scope remembers. -/
structure CommentRegister where
  /-- What has been read since the last declaration, empty lines at the ends included. -/
  collected : List Text
  /-- The last non-empty comment that was taken. -/
  last : List Text
  deriving DecidableEq, Repr

namespace CommentRegister

def empty : CommentRegister := ⟨[], []⟩

def pending (register : CommentRegister) : List Text :=
  trimEmptyLines register.collected

def beginBlock (register : CommentRegister) (paragraphs : List Text) : CommentRegister :=
  { register with collected := paragraphs }

def extend (register : CommentRegister) (paragraphs : List Text) : CommentRegister :=
  { register with collected := register.collected ++ paragraphs }

/-- Lets the last taken comment wait again. -/
def ditto (register : CommentRegister) : CommentRegister :=
  { register with collected := register.last }

/-- Hands the waiting comment to a declaration. A comment that is not empty is remembered. -/
def attach (register : CommentRegister) : List Text × CommentRegister :=
  let comments := register.pending
  (comments, ⟨[], if comments.isEmpty then register.last else comments⟩)

def discard (register : CommentRegister) : CommentRegister :=
  { register with collected := [] }

/-- Feeds the comment or the repetition marker on the first line to the register and returns it with
the lines behind. A line that is neither is not consumed. -/
def consume? (register : CommentRegister) (first : Line) (rest : List Line) :
    Option (CommentRegister × List Line) :=
  if isDitto first.text then some (register.ditto, rest)
  else
    match commentStyle? first.text with
    | none => none
    | some style =>
        let (paragraphs, remaining) := extractStyled style first rest
        match style with
        | .line => some (register.extend paragraphs, remaining)
        | _ => some (register.beginBlock paragraphs, remaining)

/-- The text of a trailing documentation comment; `trailing` is what follows the two slashes on the
line of a declaration. -/
def trailingComment? (trailing : Text) : Option Text :=
  if trailing.head? = some '/' then
    let text := Text.trim (trailing.dropWhile (· == '/'))
    if text.isEmpty then none else some text
  else none

/-- Hands a declaration the waiting comment, or the trailing comment of its own line when none
waits. -/
def attachWith (register : CommentRegister) (trailing : Text) : List Text × CommentRegister :=
  if register.pending.isEmpty then
    match trailingComment? trailing with
    | some text => (register.beginBlock [text]).attach
    | none => register.attach
  else register.attach

/-- Consuming a comment consumes its first line. -/
theorem consume?_length_le {register next : CommentRegister} {first : Line}
    {rest remaining : List Line}
    (consumed : register.consume? first rest = some (next, remaining)) :
    remaining.length ≤ rest.length := by
  unfold consume? at consumed
  split at consumed
  · cases consumed
    exact Nat.le_refl _
  · split at consumed
    · cases consumed
    · rename_i style _
      have shorter := extractStyled_length_le style first rest
      dsimp only at consumed
      split at consumed <;> cases consumed <;> exact shorter

end CommentRegister

end DocSite
