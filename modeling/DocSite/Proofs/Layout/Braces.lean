/-
Lines around a body.

The text between the braces of a body is nested, and so is the text in front of the opening brace. Whether the
braces stand on the line decides about the balance and about the segment; the blanks around the parts decide
about nothing.
-/
import DocSite.Proofs.Source.Segments

namespace DocSite

namespace Layout

structure Padding where
  text : Text
  blank : ∀ character ∈ text, isBlank character = true

def Padding.none : Padding := ⟨[], by simp⟩

def Padding.space : Padding := ⟨[' '], List.all_eq_true.mp rfl⟩

theorem isSilent_of_isBlank {barred : Char → Bool} {character : Char} (blank : isBlank character = true)
    (allowed : barred character = false) : isSilent barred character = true := by
  have other {mark : Char} (ink : isBlank mark = false) : (character == mark) = false := by
    rw [beq_eq_false_iff_ne]
    intro same
    rw [same, ink] at blank
    cases blank
  unfold isSilent isPlain
  rw [isFlat_of_isBlank blank, allowed, other rfl, other rfl, other rfl, other rfl, other rfl]
  rfl

namespace Padding

variable (padding : Padding)

theorem silent {barred : Char → Bool}
    (allowed : ∀ character, isBlank character = true → barred character = false) :
    ∀ character ∈ padding.text, isSilent barred character = true :=
  fun character member => isSilent_of_isBlank (padding.blank character member)
    (allowed character (padding.blank character member))

theorem nested : isNested unbarred padding.text = true :=
  isNested_of_silent (padding.silent fun _ _ => rfl)

theorem head?_ne {character : Char} (ink : isBlank character = false) :
    padding.text.head? ≠ some character := by
  intro first
  have blank := padding.blank character (List.mem_of_mem_head? first)
  rw [ink] at blank
  cases blank

theorem not_mem {character : Char} (ink : isBlank character = false) : character ∉ padding.text := by
  intro member
  rw [padding.blank character member] at ink
  cases ink

end Padding

/-! ### The balance of a line -/

/-- A part of a line that is read from code to code, with the balance of its braces. -/
structure Weighs (text : Text) (delta : Int) : Prop where
  ends : EndsInCode text
  delta : braceDelta text = delta

theorem Weighs.append {front rest : Text} {first second : Int} (left : Weighs front first)
    (right : Weighs rest second) (noSlash : rest.head? ≠ some '/') (noStar : rest.head? ≠ some '*') :
    Weighs (front ++ rest) (first + second) where
  ends := left.ends.append right.ends noSlash noStar
  delta := by rw [braceDelta_append left.ends noSlash noStar, left.delta, right.delta]

theorem Weighs.of_nested {barred : Char → Bool} {text : Text} (nested : isNested barred text = true) :
    Weighs text 0 :=
  ⟨endsInCode_nested nested, braceDelta_nested nested⟩

theorem weighs_closer : Weighs ['\x7d'] (-1) := ⟨⟨rfl, rfl, rfl⟩, rfl⟩

namespace Weighs

variable {line : Text} {delta : Int} (weighs : Weighs line delta)
include weighs

theorem code : splitLineComment (Text.trim line) = (Text.trim line, []) :=
  weighs.ends.splitLineComment_trim

theorem delta_trim : braceDelta (Text.trim line) = delta := by
  rw [weighs.ends.braceDelta_trim, weighs.delta]

theorem codeOf_trim : codeOf (Text.trim (Text.trim line)) = Text.trim line := by
  unfold codeOf
  rw [Text.trim_trim, weighs.code]

end Weighs

theorem Padding.weighs_closer (padding : Padding) : Weighs ('\x7d' :: padding.text) (-1) :=
  Layout.weighs_closer.append (.of_nested padding.nested) (padding.head?_ne rfl) (padding.head?_ne rfl)

section Lines

variable {front body : Text} (before : isNested unbarred front = true)
  (nested : isNested unbarred body = true) (padding : Padding)

include nested in
/-- Between its brackets the body may begin with a slash, as a bracket and a slash make no mark. -/
theorem weighs_behind_opener : Weighs ('\x7b' :: body) 1 := by
  have read : scanCode ('\x7b' :: body) = (scanCode body).mark '\x7b' := by
    rw [scanCode, CodeScan.ofText_cons]
    rfl
  have inner := Weighs.of_nested nested
  refine ⟨⟨?_, ?_, ?_⟩, ?_⟩
  · rw [read]
    exact inner.ends.comment
  · rw [read]
    exact inner.ends.zone
  · rw [read]
    exact inner.ends.escaped
  · have balanced := inner.delta
    unfold braceDelta at balanced ⊢
    dsimp only at balanced ⊢
    rw [read, CodeScan.mark, List.count_cons_self, List.count_cons_of_ne (by decide)]
    simp only [Int.ofNat_eq_natCast] at balanced ⊢
    omega

include before nested in
theorem weighs_opening : Weighs (front ++ '\x7b' :: body) 1 :=
  (Weighs.of_nested before).append (weighs_behind_opener nested) (by simp) (by simp)

include nested in
theorem weighs_closing : Weighs (body ++ '\x7d' :: padding.text) (-1) := by
  exact Int.zero_add (-1) ▸ (Weighs.of_nested nested).append padding.weighs_closer (by simp) (by simp)

include before nested in
theorem weighs_both : Weighs (front ++ '\x7b' :: (body ++ '\x7d' :: padding.text)) 0 := by
  have whole := (weighs_opening before nested).append padding.weighs_closer (by simp) (by simp)
  rw [List.append_assoc, List.cons_append] at whole
  exact whole

include before in
theorem opensBrace_opening (rest : Text) : opensBrace (front ++ '\x7b' :: rest) = true := by
  have opener : opensBrace ('\x7b' :: rest) = true := by
    unfold opensBrace
    rw [scanCode, CodeScan.ofText_cons]
    exact List.contains_iff_mem.mpr List.mem_cons_self
  rw [opensBrace_append (endsInCode_nested before) (by simp) (by simp), opener, Bool.or_true]

end Lines

/-- A closing brace begins no comment behind text that begins none. -/
theorem head?_closing {body blanks : Text} (noSlash : (Text.trim body).head? ≠ some '/') :
    (Text.trim (body ++ '\x7d' :: blanks)).head? ≠ some '/' := by
  rw [Text.trim_append_ink rfl]
  rw [← Text.head?_trimLeft] at noSlash
  cases begins : Text.trimLeft body with
  | nil => simp
  | cons character rest =>
      rw [begins] at noSlash
      exact noSlash

end Layout
end DocSite
