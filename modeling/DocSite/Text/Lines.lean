/-
Lines of a text.

A text is cut at every line break, and a carriage return with a line feed after it is one break.
A break at the very end opens no further line.
-/
import DocSite.Text.Basic

namespace DocSite

/-- The characters that end a line: line feed, vertical tab, form feed, carriage return, the
information separators U+001C to U+001E, next line, and the line and paragraph separators. -/
def isLineBreak (character : Char) : Bool :=
  let code := character.toNat
  (10 ≤ code && code ≤ 13) || (28 ≤ code && code ≤ 30) || code == 0x85 || code == 0x2028 ||
    code == 0x2029

namespace Text

def lines : Text → List Text
  | [] => []
  | '\r' :: '\n' :: rest => [] :: lines rest
  | character :: rest =>
      if isLineBreak character then [] :: lines rest
      else consHead character (lines rest)

end Text

end DocSite
