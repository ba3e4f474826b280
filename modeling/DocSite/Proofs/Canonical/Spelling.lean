/-
How canonical code is spelled.

Apart from the parentheses of a parameter list and the brace of a header, canonical code has soft characters
only: characters of names, spaces, signs and separators. Soft characters are plain code, and they neither
quote nor nest. A type begins a line like no keyword, and a name is no keyword at all.
-/
import DocSite.Proofs.Canonical.Leading
import DocSite.Proofs.Source.Plain

namespace DocSite.Canonical

open Text (IsWord)

/-! ### Soft characters -/

def isSoft (character : Char) : Bool :=
  isNameChar character || [' ', ',', ';', '=', '.', ':', '+', '-'].contains character

def Soft (text : Text) : Prop :=
  ∀ character ∈ text, isSoft character = true

theorem soft_nil : Soft [] := by
  intro character member
  cases member

theorem Soft.append {first second : Text} (left : Soft first) (right : Soft second) :
    Soft (first ++ second) := by
  intro character member
  rcases List.mem_append.mp member with inFirst | inSecond
  · exact left character inFirst
  · exact right character inSecond

theorem Soft.cons {character : Char} {rest : Text} (here : isSoft character = true)
    (behind : Soft rest) : Soft (character :: rest) := by
  intro other member
  rcases List.mem_cons.mp member with first | later
  · rw [first]
    exact here
  · exact behind other later

theorem soft_of_names {text : Text} (names : ∀ character ∈ text, isNameChar character = true) :
    Soft text := by
  intro character member
  unfold isSoft
  rw [names character member, Bool.true_or]

theorem Soft.not_mem {text : Text} (soft : Soft text) {character : Char}
    (hard : isSoft character = false) : character ∉ text := by
  intro member
  rw [soft character member] at hard
  cases hard

theorem ne_of_isSoft {character other : Char} (soft : isSoft character = true)
    (hard : isSoft other = false) : character ≠ other := by
  intro same
  rw [same, hard] at soft
  cases soft

theorem isPlain_of_isSoft {character : Char} (soft : isSoft character = true) :
    isPlain character = true :=
  isPlain_of_test rfl soft

theorem isFlat_of_isSoft {character : Char} (soft : isSoft character = true) :
    isFlat character = true := by
  have double : character ≠ '"' := ne_of_isSoft soft rfl
  have single : character ≠ '\x27' := ne_of_isSoft soft rfl
  have raw : character ≠ '\x60' := ne_of_isSoft soft rfl
  have openRound : character ≠ '(' := ne_of_isSoft soft rfl
  have openSquare : character ≠ '[' := ne_of_isSoft soft rfl
  have openBrace : character ≠ '\x7b' := ne_of_isSoft soft rfl
  have closeRound : character ≠ ')' := ne_of_isSoft soft rfl
  have closeSquare : character ≠ ']' := ne_of_isSoft soft rfl
  have closeBrace : character ≠ '\x7d' := ne_of_isSoft soft rfl
  have noCloser : closerOf? character = none := by
    unfold closerOf?
    split
    · exact absurd rfl openRound
    · exact absurd rfl openSquare
    · exact absurd rfl openBrace
    · rfl
  simp only [isFlat, isQuoteMark, isOpener, isCloser, noCloser, Option.isSome_none,
    beq_eq_false_iff_ne.mpr double, beq_eq_false_iff_ne.mpr single, beq_eq_false_iff_ne.mpr raw,
    beq_eq_false_iff_ne.mpr closeRound, beq_eq_false_iff_ne.mpr closeSquare,
    beq_eq_false_iff_ne.mpr closeBrace, Bool.or_self, Bool.not_false]

theorem Soft.plain {text : Text} (soft : Soft text) : ∀ character ∈ text, isPlain character = true :=
  fun character member => isPlain_of_isSoft (soft character member)

theorem Soft.flat {text : Text} (soft : Soft text) : ∀ character ∈ text, isFlat character = true :=
  fun character member => isFlat_of_isSoft (soft character member)

theorem Soft.oneLine {text : Text} (soft : Soft text) : Text.OneLine text := by
  intro character member
  have here := soft character member
  unfold isSoft at here
  rw [Bool.or_eq_true] at here
  rcases here with name | mark
  · have codes := code_of_isNameChar name
    cases broken : isLineBreak character with
    | false => rfl
    | true =>
        simp only [isLineBreak, Bool.or_eq_true, Bool.and_eq_true, decide_eq_true_eq,
          beq_iff_eq] at broken
        omega
  · simp only [List.contains_iff_mem, List.mem_cons, List.not_mem_nil, or_false] at mark
    rcases mark with rfl | rfl | rfl | rfl | rfl | rfl | rfl | rfl <;> rfl

/-! ### Names and types -/

/-- A word that begins declarations and is taken by no reader of keywords. -/
structure LeadingWord (word : Text) : Prop where
  formed : Text.isIdentifier word = true
  free : word ∉ blockedWords
  unlinked : Text.cut? linkageKeyword word = none

namespace LeadingWord

variable {word : Text} (leading : LeadingWord word)
include leading

theorem isWord : IsWord word :=
  Text.isWord_of_isIdentifier leading.formed

theorem soft : Soft word :=
  soft_of_names leading.isWord.names

theorem ink : ∀ character ∈ word, isBlank character = false :=
  leading.isWord.ink

theorem not_mem {words : List Text} (blocked : ∀ other ∈ words, other ∈ blockedWords) :
    word ∉ words :=
  fun member => leading.free (blocked word member)

theorem ne {other : Text} (blocked : other ∈ blockedWords) : word ≠ other := by
  intro same
  exact leading.free (by rw [same]; exact blocked)

theorem noLinkage : Text.afterPrefix? linkageKeyword word = none := by
  have absent := leading.unlinked
  cases word with
  | nil => exact absurd rfl leading.isWord.ne_nil
  | cons character rest => exact (Text.cut?_cons_eq_none.mp absent).1

end LeadingWord

theorem Identifier.leading (name : Identifier) : LeadingWord name.text := by
  refine ⟨name.formed, ?_, ?_⟩
  · intro blocked
    exact name.free (List.mem_append_left initializerKeywords blocked)
  · have unlinked := name.unlinked
    unfold Text.includes at unlinked
    exact Option.isNone_iff_eq_none.mp (by rw [← Option.not_isSome, unlinked]; rfl)

theorem leading_of_primitive : ∀ name ∈ primitiveTypes, Text.isIdentifier name = true ∧
    name ∉ blockedWords ∧ Text.cut? linkageKeyword name = none := by
  decide

theorem TypeName.leading (type : TypeName) : LeadingWord type.text := by
  cases type with
  | primitive name known =>
      obtain ⟨formed, free, unlinked⟩ := leading_of_primitive name known
      exact ⟨formed, free, unlinked⟩
  | named name => exact name.leading

theorem Variable.soft (declared : Variable) : Soft declared.text :=
  declared.type.leading.soft.append (.cons rfl declared.name.leading.soft)

theorem Variable.words_text (declared : Variable) :
    Text.words declared.text = [declared.type.text, declared.name.text] := by
  unfold Variable.text
  rw [Text.words_append_blank declared.type.leading.isWord.ne_nil declared.type.leading.ink rfl]
  rw [Text.words_eq_singleton declared.name.leading.isWord.ne_nil declared.name.leading.ink]

theorem trim_of_inked {text : Text} (filled : text ≠ [])
    (starts : Text.StartsInk text) (ends : ∀ character ∈ text.getLast?, isBlank character = false) :
    Text.trim text = text := by
  obtain ⟨front, last, equal⟩ : ∃ front last, text = front ++ [last] :=
    ⟨text.dropLast, text.getLast filled, (List.dropLast_append_getLast filled).symm⟩
  have ink : isBlank last = false := by
    apply ends
    rw [equal, List.getLast?_concat]
    rfl
  rw [equal] at starts ⊢
  exact Text.trim_concat starts ink

theorem Variable.trim_text (declared : Variable) : Text.trim declared.text = declared.text := by
  unfold Variable.text
  apply trim_of_inked
  · simp only [ne_eq, List.append_eq_nil_iff, reduceCtorEq, and_false, not_false_eq_true]
  · exact Text.IsWord.startsInk declared.type.leading.isWord _
  · intro character member
    have inName : character ∈ declared.name.text := by
      have filled := declared.name.leading.isWord.ne_nil
      rw [← List.singleton_append, ← List.append_assoc, List.getLast?_append_of_ne_nil _ filled] at member
      exact List.mem_of_getLast? member
    exact declared.name.leading.ink character inName

end DocSite.Canonical
