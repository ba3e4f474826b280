/-
Skipping a body.

A declaration without a body ends at a semicolon, one with a body at the line that brings its braces
back into balance, and one that is never closed at the end of the source.
-/
import DocSite.Source.Code
import DocSite.Source.Line

namespace DocSite

def endsStatement (line : Text) : Bool :=
  Text.endsWith ';' (codeOf line)

/-- The lines behind a body of which some lines are read: `balance` is the sum of their brace
deltas, and `opened` says whether one of them has an opening brace. -/
def skipOpenBody (balance : Int) (opened : Bool) : List Line → List Line
  | [] => []
  | line :: rest =>
      if !opened && endsStatement line.text then rest
      else
        let balance := balance + braceDelta line.text
        let opened := opened || opensBrace line.text
        if opened && decide (balance ≤ 0) then rest
        else skipOpenBody balance opened rest

def skipBody (first : Line) (rest : List Line) : List Line :=
  let balance := braceDelta first.text
  let opened := opensBrace first.text
  if !opened && endsStatement first.text then rest
  else if opened && decide (balance ≤ 0) then rest
  else skipOpenBody balance opened rest

end DocSite
