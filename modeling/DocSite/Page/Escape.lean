/-
Texts inside markup.

Whatever is put into a page is escaped where it is put: the characters that mean something to markup are
written as references.
-/
import DocSite.Text.Basic

namespace DocSite

def escapeChar (character : Char) : Text :=
  if character = '&' then "&amp;".toList
  else if character = '<' then "&lt;".toList
  else if character = '>' then "&gt;".toList
  else if character = '"' then "&quot;".toList
  else if character = '\x27' then "&#x27;".toList
  else [character]

def escape (text : Text) : Text :=
  text.flatMap escapeChar

end DocSite
