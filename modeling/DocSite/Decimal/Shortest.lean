/-
Shortest decimal texts of binary numbers.

A number with a fraction is held in binary with 53 significant bits. Its text has the fewest digits
that read back as the same binary number, and among those the nearest to it. Texts are positional
from a ten-thousandth up to ten to the sixteenth, with at least one digit behind the point, and
have an exponent of at least two digits otherwise.
-/
import DocSite.Text.Basic

namespace DocSite

/-- A binary number of 64 bits: `significand * 2 ^ exponent`, or one of the special values. -/
inductive Binary64 where
  | finite (negative : Bool) (significand : Nat) (exponent : Int)
  | infinite (negative : Bool)
  | undefined
  deriving DecidableEq, Repr

namespace Binary64

/-- The quotient rounded to the nearest natural number, a half going to the even neighbour. -/
def roundDiv (numerator denominator : Nat) : Nat :=
  let floor := numerator / denominator
  let twice := 2 * (numerator % denominator)
  if twice < denominator then floor
  else if denominator < twice then floor + 1
  else if floor % 2 = 0 then floor else floor + 1

/-- The numerator and denominator of `value * base ^ exponent`. -/
def scaled (value base : Nat) (exponent : Int) : Nat × Nat :=
  match exponent with
  | .ofNat power => (value * base.pow power, 1)
  | .negSucc power => (value, base.pow (power + 1))

def floorLog2 (numerator denominator : Nat) : Int :=
  let guess := Int.ofNat numerator.log2 - Int.ofNat denominator.log2
  let (scaledNumerator, scaledDenominator) := scaled numerator 2 (-guess)
  if scaledNumerator < denominator * scaledDenominator then guess - 1 else guess

/-- The binary number nearest to a decimal one, a half going to the even significand. -/
def ofDecimal (negative : Bool) (digits : Nat) (exponent : Int) : Binary64 :=
  if digits = 0 then .finite negative 0 0
  else
    let magnitude := Int.ofNat (Text.ofNat digits).length + exponent
    if magnitude > 400 then .infinite negative
    else if magnitude < -400 then .finite negative 0 0
    else
      let (numerator, denominator) := scaled digits 10 exponent
      let power := max (floorLog2 numerator denominator - 52) (-1074)
      let (scaledNumerator, scaledDenominator) := scaled numerator 2 (-power)
      let significand := roundDiv scaledNumerator (denominator * scaledDenominator)
      let (significand, power) :=
        if significand = Nat.pow 2 53 then (Nat.pow 2 52, power + 1) else (significand, power)
      if power > 971 then .infinite negative else .finite negative significand power

/-- Whether a decimal number lies between the midpoints to the neighbours of a binary number. The
midpoints themselves count when the significand is even. -/
def readsBack (significand : Nat) (power : Int) (digits : Nat) (exponent : Int) : Bool :=
  let low := if significand = Nat.pow 2 52 ∧ power > -1074 then 4 * significand - 1
    else 4 * significand - 2
  let high := 4 * significand + 2
  let (binaryTop, binaryBottom) := scaled 1 2 (power - 2)
  let (decimalTop, decimalBottom) := scaled digits 10 exponent
  let decimal := decimalTop * binaryBottom
  let unit := binaryTop * decimalBottom
  if significand % 2 = 0 then low * unit ≤ decimal && decimal ≤ high * unit
  else low * unit < decimal && decimal < high * unit

/-- The digits and the exponent of the shortest decimal number that reads back, found by trying
the two neighbours of the number on ever finer decimal grids. -/
def shortestFrom (significand : Nat) (power : Int) (exponent : Int) : Nat → Nat × Int
  | 0 => (significand, 0)
  | finer + 1 =>
      let (binaryTop, binaryBottom) := scaled significand 2 power
      let (top, bottom) :=
        match exponent with
        | .ofNat grid => (binaryTop, binaryBottom * Nat.pow 10 grid)
        | .negSucc grid => (binaryTop * Nat.pow 10 (grid + 1), binaryBottom)
      let below := top / bottom
      let belowFits := readsBack significand power below exponent
      let aboveFits := readsBack significand power (below + 1) exponent
      if belowFits && aboveFits then (roundDiv top bottom, exponent)
      else if belowFits then (below, exponent)
      else if aboveFits then (below + 1, exponent)
      else shortestFrom significand power (exponent - 1) finer

/-- Drops the trailing zeros of a number and counts them into its exponent. -/
def dropZeros (digits : Nat) (exponent : Int) : Nat → Nat × Int
  | 0 => (digits, exponent)
  | fuel + 1 =>
      if digits ≠ 0 ∧ digits % 10 = 0 then dropZeros (digits / 10) (exponent + 1) fuel
      else (digits, exponent)

def shortest (significand : Nat) (power : Int) : Nat × Int :=
  let (top, bottom) := scaled significand 2 power
  let guess := Int.ofNat (Text.ofNat top).length - Int.ofNat (Text.ofNat bottom).length + 1
  let (digits, exponent) := shortestFrom significand power guess 24
  dropZeros digits exponent (Text.ofNat digits).length

def positional (digits : Nat) (exponent : Int) : Text :=
  let shown := Text.ofNat digits
  let point := Int.ofNat shown.length + exponent
  if -4 < point ∧ point ≤ 16 then
    if exponent ≥ 0 then shown ++ List.replicate exponent.toNat '0' ++ ['.', '0']
    else if point > 0 then shown.take point.toNat ++ '.' :: shown.drop point.toNat
    else '0' :: '.' :: List.replicate (-point).toNat '0' ++ shown
  else
    let scale := point - 1
    let mantissa := shown.take 1 ++ (if shown.length = 1 then [] else '.' :: shown.drop 1)
    let size := Text.ofNat scale.natAbs
    mantissa ++ 'e' :: (if scale < 0 then '-' else '+') ::
      (if size.length = 1 then '0' :: size else size)

def text : Binary64 → Text
  | .undefined => "nan".toList
  | .infinite negative => if negative then "-inf".toList else "inf".toList
  | .finite negative significand exponent =>
      let magnitude :=
        if significand = 0 then "0.0".toList
        else
          let (digits, scale) := shortest significand exponent
          positional digits scale
      if negative then '-' :: magnitude else magnitude

end Binary64

end DocSite
