/-
Trimmed texts.

A trimmed text starts and ends with characters that are not blank. Trimming a text twice is trimming
it once, and a beginning of a trimmed text without blanks at its own end is trimmed as well.
-/
import DocSite.Text.Basic
import Mathlib.Data.List.DropRight

namespace DocSite
namespace Text

def StartsInk (text : Text) : Prop :=
  ∀ character ∈ text.head?, isBlank character = false

theorem startsInk_nil : StartsInk [] := by
  intro character member
  cases member

theorem startsInk_cons {character : Char} {rest : Text} (ink : isBlank character = false) :
    StartsInk (character :: rest) := by
  intro first member
  cases member
  exact ink

theorem StartsInk.of_start {start text : Text} (ink : StartsInk text) (isStart : start <+: text) :
    StartsInk start := by
  cases start with
  | nil => exact startsInk_nil
  | cons character rest =>
      obtain ⟨more, equal⟩ := isStart
      subst equal
      exact startsInk_cons (ink character rfl)

theorem trimLeft_eq_self {text : Text} (ink : StartsInk text) : trimLeft text = text := by
  cases text with
  | nil => rfl
  | cons character rest =>
      have notBlank := ink character rfl
      simp only [trimLeft, trimLeftBy, List.dropWhile_cons, notBlank, Bool.false_eq_true, if_false]

theorem trimLeft_blanks_append {blanks rest : Text} (blank : ∀ character ∈ blanks, isBlank character = true)
    (ink : StartsInk rest) : trimLeft (blanks ++ rest) = rest := by
  unfold trimLeft trimLeftBy
  rw [List.dropWhile_append_of_pos blank]
  exact trimLeft_eq_self ink

theorem startsInk_trimLeft (text : Text) : StartsInk (trimLeft text) := by
  intro character member
  have dropped := List.head?_dropWhile_not isBlank text
  change (List.dropWhile isBlank text).head? = some character at member
  rw [member] at dropped
  exact dropped

theorem trimRight_begins (text : Text) : trimRight text <+: text :=
  List.rdropWhile_prefix isBlank text

theorem trimRight_trimRight (text : Text) : trimRight (trimRight text) = trimRight text :=
  List.rdropWhile_idempotent isBlank text

theorem trim_cons_blank {blank : Char} (isBlank' : isBlank blank = true) (text : Text) :
    trim (blank :: text) = trim text := by
  unfold trim trimBy trimLeftBy
  rw [List.dropWhile_cons_of_pos isBlank']

theorem startsInk_trim (text : Text) : StartsInk (trim text) :=
  (startsInk_trimLeft text).of_start (trimRight_begins (trimLeft text))

theorem trim_eq_trimRight {text : Text} (ink : StartsInk text) : trim text = trimRight text := by
  change trimRight (trimLeft text) = trimRight text
  rw [trimLeft_eq_self ink]

theorem trimRight_trim (text : Text) : trimRight (trim text) = trim text :=
  trimRight_trimRight (trimLeft text)

theorem trim_trim (text : Text) : trim (trim text) = trim text := by
  rw [trim_eq_trimRight (startsInk_trim text), trimRight_trim]

theorem trimRight_concat {character : Char} (front : Text) (ink : isBlank character = false) :
    trimRight (front ++ [character]) = front ++ [character] :=
  List.rdropWhile_concat_neg isBlank front character (by rw [ink]; exact Bool.false_ne_true)

/-- A text that starts and ends with ink is trimmed. -/
theorem trim_concat {character : Char} {front : Text} (starts : StartsInk (front ++ [character]))
    (ink : isBlank character = false) : trim (front ++ [character]) = front ++ [character] := by
  rw [trim_eq_trimRight starts, trimRight_concat front ink]

/-- Trimming drops only blanks. -/
theorem mem_trim {character : Char} {text : Text} (member : character ∈ text)
    (ink : isBlank character = false) : character ∈ trim text := by
  have kept {characters : Text} (inside : character ∈ characters) :
      character ∈ characters.dropWhile isBlank := by
    have parts : characters.takeWhile isBlank ++ characters.dropWhile isBlank = characters :=
      List.takeWhile_append_dropWhile
    rw [← parts] at inside
    rcases List.mem_append.mp inside with blank | rest
    · rw [List.mem_takeWhile_imp blank] at ink
      cases ink
    · exact rest
  unfold trim trimBy trimRightBy trimLeftBy
  exact List.mem_reverse.mpr (kept (List.mem_reverse.mpr (kept member)))

theorem blank_of_trim_eq_nil {text : Text} (nothing : trim text = []) :
    ∀ character ∈ text, isBlank character = true := by
  intro character member
  by_contra ink
  have kept := mem_trim member (Bool.eq_false_iff.mpr ink)
  rw [nothing] at kept
  cases kept

end Text
end DocSite
