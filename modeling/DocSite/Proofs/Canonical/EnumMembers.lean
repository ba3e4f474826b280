/-
Canonical members of enums.

A member is a name, perhaps with an equals sign and a value, and a comma. Cutting its line at commas leaves
the member and an empty piece, and cutting the member at equals signs leaves its name and its value.
-/
import DocSite.Proofs.Canonical.Lines

namespace DocSite.Canonical

open Text (IsWord)

/-! ### Values -/

theorem isNumeralChar_of_isNameChar {character : Char} (name : isNameChar character = true) :
    isNumeralChar character = true := by
  unfold isNumeralChar
  rw [name, Bool.true_or, Bool.true_or, Bool.true_or]

theorem isNameChar_of_isDigit {character : Char} (digit : character.isDigit = true) :
    isNameChar character = true := by
  unfold isNameChar Char.isAlphanum
  rw [digit, Bool.or_true, Bool.true_or]

theorem numeral_cons {digit : Char} {rest : Text}
    (formed : (digit.isDigit && rest.all isNumeralChar) = true) :
    ∀ character ∈ digit :: rest, isNumeralChar character = true := by
  rw [Bool.and_eq_true, List.all_eq_true] at formed
  intro character member
  rcases List.mem_cons.mp member with first | later
  · rw [first]
    exact isNumeralChar_of_isNameChar (isNameChar_of_isDigit formed.1)
  · exact formed.2 character later

theorem isNumeral_chars {numeral : Text} (formed : isNumeral numeral = true) :
    numeral ≠ [] ∧ ∀ character ∈ numeral, isNumeralChar character = true := by
  unfold isNumeral at formed
  split at formed
  · rename_i digit rest
    refine ⟨List.cons_ne_nil _ _, ?_⟩
    intro character member
    rcases List.mem_cons.mp member with sign | behind
    · rw [sign]
      rfl
    · exact numeral_cons formed character behind
  · exact ⟨List.cons_ne_nil _ _, numeral_cons formed⟩
  · cases formed

theorem Value.chars (value : Value) :
    value.text ≠ [] ∧ ∀ character ∈ value.text, isNumeralChar character = true := by
  cases value with
  | named constant =>
      have isWord := constant.leading.isWord
      exact ⟨isWord.ne_nil, fun character member =>
        isNumeralChar_of_isNameChar (isWord.names character member)⟩
  | number numeral formed => exact isNumeral_chars formed

theorem isNumeralChar_cases {character : Char} (inNumeral : isNumeralChar character = true) :
    isNameChar character = true ∨ character = '.' ∨ character = '+' ∨ character = '-' := by
  simp only [isNumeralChar, Bool.or_eq_true, beq_iff_eq] at inNumeral
  rcases inNumeral with ((name | dot) | plus) | minus
  · exact .inl name
  · exact .inr (.inl dot)
  · exact .inr (.inr (.inl plus))
  · exact .inr (.inr (.inr minus))

theorem Value.soft (value : Value) : Soft value.text := by
  intro character member
  rcases isNumeralChar_cases (value.chars.2 character member) with name | rfl | rfl | rfl
  · unfold isSoft
    rw [name, Bool.true_or]
  · rfl
  · rfl
  · rfl

theorem Value.ink (value : Value) : ∀ character ∈ value.text, isBlank character = false := by
  intro character member
  rcases isNumeralChar_cases (value.chars.2 character member) with name | rfl | rfl | rfl
  · exact isBlank_of_isNameChar name
  · rfl
  · rfl
  · rfl

theorem Value.not_mem (value : Value) {separator : Char}
    (outside : isNumeralChar separator = false) : separator ∉ value.text := by
  intro member
  rw [value.chars.2 separator member] at outside
  cases outside

theorem trim_of_ink {text : Text} (filled : text ≠ [])
    (ink : ∀ character ∈ text, isBlank character = false) : Text.trim text = text := by
  apply trim_of_inked filled
  · intro character member
    exact ink character (List.mem_of_head? member)
  · intro character member
    exact ink character (List.mem_of_getLast? member)

theorem Value.trim_text (value : Value) : Text.trim value.text = value.text :=
  trim_of_ink value.chars.1 value.ink

/-! ### Members -/

def EnumMember.piece (member : EnumMember) : Text :=
  match member.value with
  | none => member.name.text
  | some value => (member.name.text ++ [' ']) ++ '=' :: ' ' :: value.text

section Members

variable (member : EnumMember)

theorem enumCode_eq : member.code = member.piece ++ [','] := by
  unfold EnumMember.code EnumMember.piece
  cases member.value with
  | none => rfl
  | some value =>
      simp only [List.append_assoc, List.cons_append, List.nil_append]
      rfl

theorem soft_piece : Soft member.piece := by
  have name : Soft member.name.text := member.name.leading.soft
  unfold EnumMember.piece
  cases member.value with
  | none => exact name
  | some value =>
      exact (name.append (.cons rfl soft_nil)).append (.cons rfl (.cons rfl value.soft))

theorem piece_eq_name : ∃ rest, member.piece = member.name.text ++ rest := by
  unfold EnumMember.piece
  cases member.value with
  | none => exact ⟨[], (List.append_nil _).symm⟩
  | some value => exact ⟨' ' :: '=' :: ' ' :: value.text, List.append_assoc _ _ _⟩

theorem startsInk_piece (rest : Text) : Text.StartsInk (member.piece ++ rest) := by
  obtain ⟨behind, equal⟩ := piece_eq_name member
  rw [equal, List.append_assoc]
  exact Text.IsWord.startsInk member.name.leading.isWord _

theorem isCode_enumMember : IsCode member.code := by
  rw [enumCode_eq]
  exact isCode_concat (soft_piece member).plain rfl (startsInk_piece member [',']) rfl

theorem braceDelta_enumMember : braceDelta member.code = 0 := by
  have soft : Soft member.code := by
    rw [enumCode_eq]
    exact (soft_piece member).append (.cons rfl soft_nil)
  exact braceDelta_eq_zero (soft.not_mem rfl) (soft.not_mem rfl)

theorem isIdleSegment_enumMember : isIdleSegment member.code = false := by
  obtain ⟨rest, equal⟩ := piece_eq_name member
  obtain ⟨character, tail, named, isName⟩ := member.name.leading.isWord.exists_cons
  have semicolon : character ≠ ';' := ne_of_isNameChar isName rfl
  have space : character ≠ ' ' := ne_of_isNameChar isName rfl
  have tab : character ≠ '\t' := ne_of_isNameChar isName rfl
  rw [enumCode_eq, equal, named]
  unfold isIdleSegment
  rw [List.cons_append, List.cons_append, List.all_cons, beq_eq_false_iff_ne.mpr semicolon,
    beq_eq_false_iff_ne.mpr space, beq_eq_false_iff_ne.mpr tab]
  rfl

theorem comma_not_mem_piece : ',' ∉ member.piece := by
  have name : ',' ∉ member.name.text := fun inside => by
    cases member.name.leading.isWord.names ',' inside
  unfold EnumMember.piece
  cases member.value with
  | none => exact name
  | some value =>
      have noValue : ',' ∉ value.text := value.not_mem rfl
      simp only [List.mem_append, List.mem_cons, List.not_mem_nil, or_false, not_or]
      exact ⟨⟨name, by decide⟩, by decide, by decide, noValue⟩

theorem trim_piece : Text.trim member.piece = member.piece := by
  have isWord := member.name.leading.isWord
  have starts := startsInk_piece member []
  rw [List.append_nil] at starts
  apply trim_of_inked ?_ starts
  · intro character last
    unfold EnumMember.piece at last
    cases value : member.value with
    | none =>
        rw [value] at last
        exact member.name.leading.ink character (List.mem_of_getLast? last)
    | some value' =>
        rw [value] at last
        have split : (member.name.text ++ [' ']) ++ '=' :: ' ' :: value'.text =
            ((member.name.text ++ [' ']) ++ ['=', ' ']) ++ value'.text := by
          simp only [List.append_assoc, List.cons_append, List.nil_append]
        dsimp only at last
        rw [split, List.getLast?_append_of_ne_nil _ value'.chars.1] at last
        exact value'.ink character (List.mem_of_getLast? last)
  · obtain ⟨rest, equal⟩ := piece_eq_name member
    rw [equal]
    intro empty
    exact isWord.ne_nil (List.append_eq_nil_iff.mp empty).1

/-- Cutting a member at equals signs gives back its name and its value. -/
theorem splitEnumMember_piece : splitEnumMember member.piece =
    (member.name.text, (member.value.map Value.text).getD []) := by
  have name := member.name.leading
  have trimmed : Text.trim member.name.text = member.name.text := trim_of_ink name.isWord.ne_nil name.ink
  have noSign : '=' ∉ member.name.text := fun inside => by cases name.isWord.names '=' inside
  unfold EnumMember.piece splitEnumMember
  cases member.value with
  | none =>
      dsimp only
      rw [splitTopLevelAt_piece name.soft.flat noSign, trimmed]
      rfl
  | some value =>
      have spaced : '=' ∉ member.name.text ++ [' '] := by
        rw [List.mem_append, not_or]
        exact ⟨noSign, by decide⟩
      have front : Text.trim (member.name.text ++ [' ']) = member.name.text := by
        have starts : Text.StartsInk (member.name.text ++ [' ']) := Text.IsWord.startsInk name.isWord _
        rw [Text.trim_eq_trimRight starts]
        have dropped : Text.trimRight (member.name.text ++ [' ']) =
            Text.trimRight member.name.text :=
          List.rdropWhile_concat_pos isBlank member.name.text ' ' rfl
        have whole : Text.trimRight member.name.text = member.name.text := by
          have again := Text.trimRight_trim member.name.text
          rw [trimmed] at again
          exact again
        rw [dropped, whole]
      have noSecond : '=' ∉ ' ' :: value.text := by
        rw [List.mem_cons, not_or]
        exact ⟨by decide, value.not_mem rfl⟩
      have softFront : Soft (member.name.text ++ [' ']) := name.soft.append (.cons rfl soft_nil)
      have softBehind : Soft (' ' :: value.text) := .cons rfl value.soft
      dsimp only
      rw [splitTopLevelAt_append softFront.flat spaced rfl,
        splitTopLevelAt_piece softBehind.flat noSecond, front, Text.cutAt?_append spaced]
      dsimp only
      rw [Option.map_some, Option.getD_some, Text.trim_cons_blank rfl, value.trim_text]
      rfl

/-- Reading the line of a member gives back the member. -/
theorem parseEnumMembers_code (number : Int) (comments : List Text) :
    parseEnumMembers member.code number comments =
      [{ name := member.name.text
         value := (member.value.map Value.text).getD []
         comments := comments
         line := number }] := by
  have filled : member.name.text.isEmpty = false := member.name.leading.isWord.isEmpty
  have filledPiece : member.piece.isEmpty = false := by
    obtain ⟨rest, equal⟩ := piece_eq_name member
    rw [equal]
    exact member.name.leading.isWord.isEmpty_append rest
  have whole : enumMember? number comments member.piece =
      some { name := member.name.text
             value := (member.value.map Value.text).getD []
             comments := comments
             line := number } := by
    unfold enumMember?
    rw [splitEnumMember_piece, filledPiece]
    dsimp only
    rw [filled]
    rfl
  unfold parseEnumMembers
  rw [enumCode_eq, splitTopLevelAt_append (soft_piece member).flat (comma_not_mem_piece member) rfl,
    trim_piece, List.filterMap_cons, whole]
  rfl

end Members

end DocSite.Canonical
