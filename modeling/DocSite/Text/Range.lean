/-
Tables of code points.

A property of characters is a list of closed ranges of code points in ascending order.
-/

namespace DocSite

abbrev CodeRanges := List (Nat × Nat)

def CodeRanges.includes (ranges : CodeRanges) (code : Nat) : Bool :=
  ranges.any fun range => range.1 ≤ code && code ≤ range.2

end DocSite
