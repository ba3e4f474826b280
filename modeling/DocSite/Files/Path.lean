/-
File paths.

A path is an anchor and a list of components. Repeated slashes, components that are a single point
and a closing slash vanish when a path is read; two points stay. Exactly two slashes at the start
are an anchor of their own. The path without components is written as a point.
-/
import DocSite.Text.Basic

namespace DocSite

inductive Anchor where
  | here
  | root
  | doubleRoot
  deriving DecidableEq, Repr

/-- A path in its written form. -/
structure FilePath where
  anchor : Anchor
  parts : List Text
  deriving DecidableEq, Repr

namespace FilePath

/-- Whether a component counts for nothing. -/
def isIdle (part : Text) : Bool :=
  part.isEmpty || part == ['.']

def partsOf (text : Text) : List Text :=
  (Text.splitOn '/' text).filter fun part => !isIdle part

def anchorOf (text : Text) : Anchor :=
  match (text.takeWhile (· == '/')).length with
  | 0 => .here
  | 2 => .doubleRoot
  | _ => .root

def ofText (text : Text) : FilePath :=
  ⟨anchorOf text, partsOf text⟩

def here : FilePath := ⟨.here, []⟩

def Anchor.text : Anchor → Text
  | .here => []
  | .root => ['/']
  | .doubleRoot => ['/', '/']

def text (path : FilePath) : Text :=
  match path.anchor, path.parts with
  | .here, [] => ['.']
  | anchor, parts => Anchor.text anchor ++ Text.join ['/'] parts

def join (path next : FilePath) : FilePath :=
  match next.anchor with
  | .here => ⟨path.anchor, path.parts ++ next.parts⟩
  | _ => next

/-- A path with one more component. -/
def child (path : FilePath) (name : Text) : FilePath :=
  ⟨path.anchor, path.parts ++ [name]⟩

def name (path : FilePath) : Text :=
  path.parts.getLast?.getD []

/-- A name cut before its last point, unless that point is the first or the last character. -/
def splitName (name : Text) : Text × Text :=
  match Text.cutAtLast? '.' name with
  | some (stem, extension) =>
      if stem.isEmpty || extension.isEmpty then (name, []) else (stem, '.' :: extension)
  | none => (name, [])

def stem (path : FilePath) : Text :=
  (splitName path.name).1

def extension (path : FilePath) : Text :=
  (splitName path.name).2

/-- The components by which paths are ordered, the anchor among them. -/
def sortKey (path : FilePath) : List Text :=
  match path.anchor with
  | .here => path.parts
  | anchor => Anchor.text anchor :: path.parts

/-- Whether one path comes no later than another: components are compared one by one, by the codes
of their characters. -/
def notAfter (left right : FilePath) : Bool :=
  decide (¬ right.sortKey < left.sortKey)

end FilePath

end DocSite
