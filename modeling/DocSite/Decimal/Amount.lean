/-
Amounts.

Whole numbers and binary numbers are compared by their amounts, without rounding. Every finite binary
number is a whole number of units of the least positive one, and so is every whole number.
-/
import DocSite.Decimal.Shortest

namespace DocSite

inductive Amount where
  /-- A number of units, each of which is two to the power of -1074. -/
  | finite (units : Int)
  | infinite (negative : Bool)
  | undefined
  deriving DecidableEq, Repr

namespace Amount

def places : Nat := 1074

def ofInt (value : Int) : Amount :=
  .finite (value * Int.pow 2 places)

/-- The amount of a binary number. The sign of zero does not count. -/
def ofBinary : Binary64 → Amount
  | .finite negative significand exponent =>
      let units := Int.ofNat (significand * Nat.pow 2 (exponent + Int.ofNat places).toNat)
      .finite (if negative then -units else units)
  | .infinite negative => .infinite negative
  | .undefined => .undefined

def isZero (amount : Amount) : Bool :=
  amount == .finite 0

/-- Whether one amount is at most another. The undefined amount has no place among the others. -/
def notAfter : Amount → Amount → Bool
  | .finite units, .finite others => decide (units ≤ others)
  | .infinite negative, .infinite other => negative || !other
  | .infinite negative, .finite _ => negative
  | .finite _, .infinite negative => !negative
  | _, _ => true

end Amount

end DocSite
