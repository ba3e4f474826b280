/-
Written integers.

An integer is written with its decimal digits, the first of which is a zero only if it is the only one. The
token of a written integer is the integer, or, where there are more digits than are read, their number.
-/
import DocSite.Json.Reader
import DocSite.Json.Writer
import Mathlib.Algebra.Group.Nat.Defs

namespace DocSite

/-! ### Digits -/

theorem isDigit_ofNat {number : Nat} : ∀ character ∈ Text.ofNat number, character.isDigit = true :=
  fun _ member => Nat.isDigit_of_mem_toDigits (by decide) (by decide) member

theorem ofNat_ne_nil (number : Nat) : Text.ofNat number ≠ [] :=
  Nat.toDigits_ne_nil

theorem ofNat_eq (number : Nat) : Text.ofNat number =
    if number < 10 then [Nat.digitChar number]
    else Text.ofNat (number / 10) ++ [Nat.digitChar (number % 10)] :=
  Nat.toDigits_eq_if (by decide)

theorem ofNat_of_leading_zero {number : Nat} (leading : (Text.ofNat number).head? = some '0') :
    number = 0 := by
  induction number using Nat.strongRecOn with
  | ind number ih =>
      rw [ofNat_eq] at leading
      split at leading
      · rename_i small
        have digits : ∀ digit, digit < 10 → Nat.digitChar digit = '0' → digit = 0 := by decide
        exact digits number small (Option.some.inj leading)
      · rename_i large
        obtain ⟨first, rest, begins⟩ := List.exists_cons_of_ne_nil (ofNat_ne_nil (number / 10))
        rw [begins] at leading
        have nothing := ih (number / 10) (by omega) (by rw [begins]; exact leading)
        omega

namespace Json

theorem digitsValue_ofNat (number : Nat) : digitsValue (Text.ofNat number) = number := by
  have value := @Nat.ofDigitChars_toDigits 10 number (by decide) (by decide)
  unfold Nat.ofDigitChars at value
  unfold digitsValue Text.ofNat
  simp only [Nat.mul_comm _ 10]
  exact value

/-! ### Tokens of integers -/

def overlong? (value : Int) : Option Nat :=
  if (Text.ofNat value.natAbs).length ≤ Text.digitLimit then none
  else some (Text.ofNat value.natAbs).length

/-- The integers that are read are those with few enough digits. -/
theorem overlong?_eq_none_iff (value : Int) :
    overlong? value = none ↔ value.natAbs < 10 ^ Text.digitLimit := by
  have few : (Text.ofNat value.natAbs).length ≤ Text.digitLimit ↔
      value.natAbs < 10 ^ Text.digitLimit := Nat.length_toDigits_le_iff (by decide) (by decide)
  unfold overlong?
  rw [← few]
  split
  · rename_i short
    exact iff_of_true rfl short
  · rename_i long
    exact iff_of_false (fun found => nomatch found) long

/-- An integer as it is written, by its sign and its digits. -/
theorem ofInt_eq (value : Int) :
    Text.ofInt value = Text.ofNat value.natAbs ∧ value = Int.ofNat value.natAbs ∨
      Text.ofInt value = '-' :: Text.ofNat value.natAbs ∧ value = -Int.ofNat value.natAbs := by
  cases value with
  | ofNat number => exact .inl ⟨rfl, rfl⟩
  | negSucc number => exact .inr ⟨rfl, rfl⟩

section Digits

variable (number : Nat)

theorem takeWhile_ofNat : (Text.ofNat number).takeWhile Char.isDigit = Text.ofNat number := by
  have whole := @List.takeWhile_append_of_pos _ Char.isDigit (Text.ofNat number) [] isDigit_ofNat
  rwa [List.append_nil, List.takeWhile_nil, List.append_nil] at whole

theorem dropWhile_ofNat : (Text.ofNat number).dropWhile Char.isDigit = [] := by
  have whole := @List.dropWhile_append_of_pos _ Char.isDigit (Text.ofNat number) [] isDigit_ofNat
  rwa [List.append_nil, List.dropWhile_nil] at whole

/-- A word with a letter is no number. -/
theorem ofNat_ne {number : Nat} {word : Text} (letter : Char) (member : letter ∈ word)
    (noDigit : letter.isDigit = false) : Text.ofNat number ≠ word := by
  intro same
  rw [← same] at member
  rw [isDigit_ofNat letter member] at noDigit
  cases noDigit

theorem unsigned?_ofNat (negative : Bool) : unsigned? negative (Text.ofNat number) =
    some (.int (if negative then -Int.ofNat number else Int.ofNat number)) := by
  have noZero : ¬(Text.ofNat number = [] ∨
      (Text.ofNat number).head? = some '0' ∧ Text.ofNat number ≠ ['0']) := by
    rintro (nothing | ⟨leading, more⟩)
    · exact ofNat_ne_nil number nothing
    · rw [ofNat_of_leading_zero leading] at more
      exact more rfl
  unfold unsigned?
  rw [takeWhile_ofNat, dropWhile_ofNat, if_neg noZero, digitsValue_ofNat]

end Digits

theorem atom?_ofInt (value : Int) : atom? (Text.ofInt value) = some (.int value) := by
  rcases ofInt_eq value with ⟨written, isNat⟩ | ⟨written, isNegative⟩
  · have noMinus : ∀ rest, Text.ofNat value.natAbs ≠ '-' :: rest :=
      fun rest => ofNat_ne '-' List.mem_cons_self rfl
    rw [written]
    unfold atom?
    rw [if_neg (ofNat_ne 'n' (by decide) rfl), if_neg (ofNat_ne 't' (by decide) rfl),
      if_neg (ofNat_ne 'f' (by decide) rfl), if_neg (ofNat_ne 'N' (by decide) rfl),
      if_neg (ofNat_ne 'I' (by decide) rfl), if_neg (ofNat_ne 'I' (by decide) rfl)]
    split
    · rename_i rest begins
      exact absurd begins (noMinus rest)
    · rw [unsigned?_ofNat]
      exact congrArg (some ∘ Json.int) isNat.symm
  · have noInfinity : '-' :: Text.ofNat value.natAbs ≠ "-Infinity".toList := by
      intro same
      have infinity : Text.ofNat value.natAbs = "Infinity".toList := (List.cons.inj same).2
      exact ofNat_ne 'I' (by decide) rfl infinity
    rw [written]
    unfold atom?
    rw [if_neg (by simp), if_neg (by simp), if_neg (by simp), if_neg (by simp), if_neg (by simp),
      if_neg noInfinity]
    change unsigned? true (Text.ofNat value.natAbs) = _
    rw [unsigned?_ofNat]
    exact congrArg (some ∘ Json.int) isNegative.symm

theorem longNumber?_ofInt (value : Int) : longNumber? (Text.ofInt value) = overlong? value := by
  have number : (Text.afterPrefix? ['-'] (Text.ofInt value)).getD (Text.ofInt value) =
      Text.ofNat value.natAbs := by
    rcases ofInt_eq value with ⟨written, -⟩ | ⟨written, -⟩
    · rw [written]
      cases digits : Text.ofNat value.natAbs with
      | nil => rfl
      | cons first rest =>
          have other : '-' ≠ first := by
            intro same
            have isDigit := isDigit_ofNat first (by rw [digits]; exact List.mem_cons_self)
            rw [← same] at isDigit
            cases isDigit
          simp only [Text.afterPrefix?, if_neg other, Option.getD_none]
    · rw [written]
      rfl
  unfold longNumber? overlong?
  rw [number]
  dsimp only
  rw [takeWhile_ofNat, dropWhile_ofNat]
  by_cases few : (Text.ofNat value.natAbs).length ≤ Text.digitLimit
  · simp only [few, decide_true, Bool.true_or, if_true]
  · have noZero : ((Text.ofNat value.natAbs).head? == some '0') = false := by
      rw [beq_eq_false_iff_ne]
      intro leading
      rw [ofNat_of_leading_zero leading] at few
      exact few (by decide)
    simp only [few, noZero, continuesNumber, decide_false, Bool.or_self, if_false, Bool.false_eq_true]

/-- The token of a written integer. -/
theorem atomToken_ofInt (value : Int) : atomToken (Text.ofInt value) =
    match overlong? value with
    | some digits => .longNumber digits
    | none => .atom (.int value) := by
  unfold atomToken
  rw [longNumber?_ofInt, atom?_ofInt]
  rfl

end Json
end DocSite
