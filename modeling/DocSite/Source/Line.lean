/-
Numbered source lines.

Scanners consume a list of lines and return the lines that remain. A line carries its own number,
so that a scan of a tail of the source still reports true positions, and its text is trimmed once,
so that indentation can play no part.
-/
import DocSite.Text.Lines

namespace DocSite

structure Line where
  number : Nat
  text : Text
  deriving DecidableEq, Repr

/-- Numbers texts upwards from a given number and trims them. -/
def numberedLines (number : Nat) : List Text → List Line
  | [] => []
  | text :: rest => ⟨number, Text.trim text⟩ :: numberedLines (number + 1) rest

def sourceLines (source : Text) : List Line :=
  numberedLines 1 (Text.lines source)

end DocSite
