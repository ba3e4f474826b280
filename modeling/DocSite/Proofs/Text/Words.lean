/-
Words at the start of a text.

A text that consists of a word and of something else behind it begins with a keyword only if the word is the
keyword, or if the keyword is followed by more of the word. Cutting a text at a character or at a phrase
passes over a part in which it does not occur.
-/
import DocSite.Text.Word
import DocSite.Proofs.Text.Trim

namespace DocSite

/-! ### Characters of names -/

/-- The codes of letters, digits and the underscore. -/
theorem code_of_isNameChar {character : Char} (name : isNameChar character = true) :
    (48 ≤ character.toNat ∧ character.toNat ≤ 57) ∨ (65 ≤ character.toNat ∧ character.toNat ≤ 90) ∨
      character.toNat = 95 ∨ (97 ≤ character.toNat ∧ character.toNat ≤ 122) := by
  delta isNameChar Char.isAlphanum Char.isAlpha Char.isUpper Char.isLower Char.isDigit at name
  simp only [Bool.or_eq_true, Bool.and_eq_true, decide_eq_true_eq, beq_iff_eq] at name
  rcases name with ((⟨least, most⟩ | ⟨least, most⟩) | ⟨least, most⟩) | underscore
  · exact .inr (.inl ⟨least, most⟩)
  · exact .inr (.inr (.inr ⟨least, most⟩))
  · exact .inl ⟨least, most⟩
  · rw [underscore]
    exact .inr (.inr (.inl rfl))

theorem isWordChar_of_isNameChar {character : Char} (name : isNameChar character = true) :
    isWordChar character = true := by
  have codes := code_of_isNameChar name
  have small : character.toNat < 0x80 := by omega
  unfold isWordChar
  rw [if_pos small]
  exact name

theorem isNameChar_of_isNameStart {character : Char} (name : isNameStart character = true) :
    isNameChar character = true := by
  simp only [isNameStart, isNameChar, Char.isAlphanum, Bool.or_eq_true] at name ⊢
  rcases name with letter | underscore
  · exact .inl (.inl letter)
  · exact .inr underscore

theorem isBlank_of_isNameChar {character : Char} (name : isNameChar character = true) :
    isBlank character = false := by
  have codes := code_of_isNameChar name
  cases blank : isBlank character with
  | false => rfl
  | true =>
      simp only [isBlank, Bool.or_eq_true, Bool.and_eq_true, decide_eq_true_eq, beq_iff_eq] at blank
      omega

/-- No table of letters and numbers lists a blank. -/
theorem isWordChar_of_isBlank {character : Char} (blank : isBlank character = true) :
    isWordChar character = false := by
  have unlisted : ∀ code ∈ [0x85, 0xa0, 0x1680, 0x2028, 0x2029, 0x202f, 0x205f, 0x3000] ++ List.range' 0x2000 11,
      wordRanges.includes code = false := by decide +kernel
  unfold isWordChar
  split_ifs with small
  · rw [Bool.eq_false_iff]
    intro name
    rw [isBlank_of_isNameChar name] at blank
    cases blank
  · apply unlisted
    simp only [isBlank, Bool.or_eq_true, Bool.and_eq_true, decide_eq_true_eq, beq_iff_eq] at blank
    simp only [List.mem_append, List.mem_cons, List.not_mem_nil, or_false, List.mem_range'_1]
    omega

theorem isBlank_of_isWordChar {character : Char} (letter : isWordChar character = true) :
    isBlank character = false := by
  cases blank : isBlank character with
  | false => rfl
  | true =>
      rw [isWordChar_of_isBlank blank] at letter
      cases letter

theorem ne_of_isNameChar {character other : Char} (name : isNameChar character = true)
    (notName : isNameChar other = false) : character ≠ other := by
  intro same
  rw [same, notName] at name
  cases name

namespace Text

structure IsWord (word : Text) : Prop where
  ne_nil : word ≠ []
  names : ∀ character ∈ word, isNameChar character = true

theorem IsWord.exists_cons {word : Text} (isWord : IsWord word) :
    ∃ first rest, word = first :: rest ∧ isNameChar first = true := by
  cases word with
  | nil => exact absurd rfl isWord.ne_nil
  | cons first rest => exact ⟨first, rest, rfl, isWord.names first List.mem_cons_self⟩

theorem IsWord.isEmpty {word : Text} (isWord : IsWord word) : word.isEmpty = false :=
  List.isEmpty_eq_false_iff.mpr isWord.ne_nil

theorem IsWord.isEmpty_append {word : Text} (isWord : IsWord word) (rest : Text) :
    (word ++ rest).isEmpty = false :=
  List.isEmpty_eq_false_iff.mpr (List.append_ne_nil_of_left_ne_nil isWord.ne_nil rest)

theorem IsWord.ink {word : Text} (isWord : IsWord word) :
    ∀ character ∈ word, isBlank character = false :=
  fun character member => isBlank_of_isNameChar (isWord.names character member)

theorem IsWord.startsInk {word : Text} (isWord : IsWord word) (rest : Text) : StartsInk (word ++ rest) := by
  obtain ⟨first, others, split, name⟩ := isWord.exists_cons
  rw [split]
  exact startsInk_cons (isBlank_of_isNameChar name)

def EndsWord (text : Text) : Prop :=
  ∀ character ∈ text.head?, isWordChar character = false

theorem endsWord_cons {character : Char} {rest : Text} (outside : isWordChar character = false) :
    EndsWord (character :: rest) := by
  intro first member
  cases member
  exact outside

theorem endsWord_gap {gap : Text} (filled : gap ≠ []) (blank : ∀ character ∈ gap, isBlank character = true)
    (rest : Text) : EndsWord (gap ++ rest) := by
  cases gap with
  | nil => exact absurd rfl filled
  | cons character others => exact endsWord_cons (isWordChar_of_isBlank (blank character List.mem_cons_self))

theorem endsWord_blanks_append {blanks rest : Text} (blank : ∀ character ∈ blanks, isBlank character = true)
    (ends : EndsWord rest) : EndsWord (blanks ++ rest) := by
  cases blanks with
  | nil => exact ends
  | cons character others => exact endsWord_gap (List.cons_ne_nil character others) blank rest

theorem isWord_of_isIdentifier {text : Text} (identifier : isIdentifier text = true) :
    IsWord text := by
  cases text with
  | nil => cases identifier
  | cons character rest =>
      unfold isIdentifier at identifier
      rw [Bool.and_eq_true, List.all_eq_true] at identifier
      refine ⟨List.cons_ne_nil _ _, ?_⟩
      intro other member
      rcases List.mem_cons.mp member with first | later
      · rw [first]
        exact isNameChar_of_isNameStart identifier.1
      · exact identifier.2 other later

theorem startsName_of_isIdentifier {text : Text} (identifier : isIdentifier text = true)
    (rest : Text) : startsName (text ++ rest) = true := by
  cases text with
  | nil => cases identifier
  | cons character tail =>
      unfold isIdentifier at identifier
      rw [Bool.and_eq_true] at identifier
      exact identifier.1

theorem startsName_self {text : Text} (identifier : isIdentifier text = true) : startsName text = true := by
  have starts := startsName_of_isIdentifier identifier []
  rw [List.append_nil] at starts
  exact starts

theorem IsWord.letters {word : Text} (isWord : IsWord word) :
    ∀ character ∈ word, isWordChar character = true :=
  fun character member => isWordChar_of_isNameChar (isWord.names character member)

/-! ### Beginnings -/

theorem endsWith_concat (text : Text) (last : Char) : endsWith last (text ++ [last]) = true := by
  unfold endsWith
  rw [List.getLast?_concat]
  exact beq_self_eq_true (some last)

theorem afterPrefix?_append (start rest : Text) : afterPrefix? start (start ++ rest) = some rest := by
  induction start with
  | nil =>
      cases rest <;> rfl
  | cons character start ih =>
      rw [List.cons_append, afterPrefix?, if_pos rfl, ih]

theorem eq_append_of_afterPrefix? {start text rest : Text}
    (found : afterPrefix? start text = some rest) : text = start ++ rest := by
  induction start generalizing text with
  | nil =>
      cases text <;> cases found <;> rfl
  | cons expected start ih =>
      cases text with
      | nil => cases found
      | cons character tail =>
          unfold afterPrefix? at found
          split at found
          · rename_i same
            rw [same, ih found, List.cons_append]
          · cases found

/-- A text in front of its first character that belongs to no word, and the text from there on. -/
structure FirstWord (word rest : Text) : Prop where
  letters : ∀ character ∈ word, isWordChar character = true
  ends : EndsWord rest

theorem firstWord_nil {character : Char} (outside : isWordChar character = false) (rest : Text) :
    FirstWord [] (character :: rest) :=
  ⟨nofun, endsWord_cons outside⟩

theorem IsWord.first {word rest : Text} (isWord : IsWord word) (ends : EndsWord rest) : FirstWord word rest :=
  ⟨isWord.letters, ends⟩

namespace FirstWord

variable {word rest : Text} (first : FirstWord word rest)

include first

theorem takeWhile_eq : (word ++ rest).takeWhile isWordChar = word := by
  rw [List.takeWhile_append_of_pos first.letters]
  cases rest with
  | nil => exact List.append_nil word
  | cons character others =>
      have outside : isWordChar character = false := first.ends character rfl
      rw [List.takeWhile_cons_of_neg (by rw [outside]; exact Bool.false_ne_true), List.append_nil]

theorem dropWhile_eq : (word ++ rest).dropWhile isWordChar = rest := by
  have whole := @List.takeWhile_append_dropWhile Char isWordChar (word ++ rest)
  rw [first.takeWhile_eq] at whole
  exact List.append_cancel_left whole

variable {keyword tail : Text} (spelled : keyword.all isWordChar = true)
  (found : afterPrefix? keyword (word ++ rest) = some tail)

include spelled found

/-- A keyword that is followed by no more of a word is the first word. -/
theorem eq_of_keyword (ends : EndsWord tail) : word = keyword ∧ rest = tail := by
  have whole := eq_append_of_afterPrefix? found
  have again : FirstWord keyword tail := ⟨List.all_eq_true.mp spelled, ends⟩
  have same : word = keyword := by
    rw [← first.takeWhile_eq, whole, again.takeWhile_eq]
  refine ⟨same, ?_⟩
  rw [same] at whole
  exact List.append_cancel_left whole

/-- A keyword that is not the first word goes on with a character of that word. -/
theorem goesOn (other : word ≠ keyword) :
    ∃ character more, tail = character :: more ∧ isWordChar character = true := by
  cases tail with
  | nil => exact absurd (first.eq_of_keyword spelled found nofun).1 other
  | cons character more =>
      refine ⟨character, more, rfl, ?_⟩
      by_contra outside
      exact other (first.eq_of_keyword spelled found (endsWord_cons (Bool.eq_false_iff.mpr outside))).1

theorem not_blank (other : word ≠ keyword) : (tail.head?.map isBlank).getD false = false := by
  obtain ⟨character, more, whole, letter⟩ := first.goesOn spelled found other
  rw [whole]
  exact isBlank_of_isWordChar letter

theorem not_ended (other : word ≠ keyword) : (tail.head?.map isWordChar).getD false = true := by
  obtain ⟨character, more, whole, letter⟩ := first.goesOn spelled found other
  rw [whole]
  exact letter

end FirstWord

theorem afterPrefix?_eq_none {expected character : Char} {start text : Text}
    (different : expected ≠ character) :
    afterPrefix? (expected :: start) (character :: text) = none := by
  rw [afterPrefix?, if_neg different]

/-! ### Words -/

theorem words_append_blank {word : Text} (filled : word ≠ [])
    (ink : ∀ character ∈ word, isBlank character = false) {blank : Char}
    (isBlank' : isBlank blank = true) (rest : Text) :
    words (word ++ blank :: rest) = word :: words rest := by
  induction word with
  | nil => exact absurd rfl filled
  | cons character word ih =>
      have notBlank := ink character List.mem_cons_self
      cases word with
      | nil =>
          rw [List.singleton_append, words, if_neg (by rw [notBlank]; exact Bool.false_ne_true)]
          rw [if_pos isBlank', words.eq_def (blank :: rest)]
          dsimp only
          rw [if_pos isBlank']
      | cons next word =>
          have further := ih (List.cons_ne_nil _ _)
            fun other member => ink other (List.mem_cons_of_mem character member)
          have nextInk := ink next (List.mem_cons_of_mem character List.mem_cons_self)
          rw [List.cons_append, words.eq_def]
          dsimp only [List.cons_append]
          rw [if_neg (by rw [notBlank]; exact Bool.false_ne_true),
            if_neg (by rw [nextInk]; exact Bool.false_ne_true)]
          rw [List.cons_append] at further
          rw [further]
          rfl

theorem words_eq_singleton {word : Text} (filled : word ≠ [])
    (ink : ∀ character ∈ word, isBlank character = false) : words word = [word] := by
  induction word with
  | nil => exact absurd rfl filled
  | cons character word ih =>
      have notBlank := ink character List.mem_cons_self
      cases word with
      | nil => rw [words, if_neg (by rw [notBlank]; exact Bool.false_ne_true)]
      | cons next word =>
          have further := ih (List.cons_ne_nil _ _)
            fun other member => ink other (List.mem_cons_of_mem character member)
          have nextInk := ink next (List.mem_cons_of_mem character List.mem_cons_self)
          rw [words.eq_def]
          dsimp only
          rw [if_neg (by rw [notBlank]; exact Bool.false_ne_true),
            if_neg (by rw [nextInk]; exact Bool.false_ne_true), further]
          rfl

/-! ### Cutting -/

theorem cutAt?_append {wanted : Char} {before : Text} (absent : wanted ∉ before) (rest : Text) :
    cutAt? wanted (before ++ wanted :: rest) = some (before, rest) := by
  induction before with
  | nil => rw [List.nil_append, cutAt?, if_pos rfl]
  | cons character before ih =>
      rw [List.mem_cons, not_or] at absent
      rw [List.cons_append, cutAt?, if_neg (Ne.symm absent.1), ih absent.2]
      rfl

theorem cutAt?_eq_none {wanted : Char} {text : Text} (absent : wanted ∉ text) :
    cutAt? wanted text = none := by
  induction text with
  | nil => rfl
  | cons character rest ih =>
      rw [List.mem_cons, not_or] at absent
      rw [cutAt?, if_neg (Ne.symm absent.1), ih absent.2]
      rfl

theorem afterPrefix?_self (text : Text) : afterPrefix? text text = some [] := by
  have whole := afterPrefix?_append text []
  rw [List.append_nil] at whole
  exact whole

/-- What begins with no phrase does so neither when a blank and more text follow. -/
theorem afterPrefix?_append_blank {phrase text : Text} {blank : Char} (absent : blank ∉ phrase)
    (missing : afterPrefix? phrase text = none) (rest : Text) :
    afterPrefix? phrase (text ++ blank :: rest) = none := by
  cases found : afterPrefix? phrase (text ++ blank :: rest) with
  | none => rfl
  | some tail =>
      have equal := eq_append_of_afterPrefix? found
      rcases List.append_eq_append_iff.mp equal with ⟨more, longer, behind⟩ | ⟨more, shorter, _⟩
      · cases more with
        | nil =>
            rw [List.append_nil] at longer
            rw [longer, afterPrefix?_self] at missing
            cases missing
        | cons character more =>
            obtain ⟨same, _⟩ := List.cons.inj behind
            rw [same, longer] at absent
            exact absurd (List.mem_append_right text List.mem_cons_self) absent
      · rw [shorter, afterPrefix?_append] at missing
        cases missing

theorem cut?_cons_eq_none {phrase rest : Text} {character : Char} :
    cut? phrase (character :: rest) = none ↔
      afterPrefix? phrase (character :: rest) = none ∧ cut? phrase rest = none := by
  rw [cut?]
  cases afterPrefix? phrase (character :: rest) with
  | none =>
      rw [Option.map_eq_none_iff]
      exact ⟨fun missing => ⟨rfl, missing⟩, fun missing => missing.2⟩
  | some tail => exact ⟨nofun, nofun⟩

/-- A phrase without blanks that is in none of two parts is not in the text with a blank between them. -/
theorem cut?_append_blank {phrase before rest : Text} {blank : Char} (filled : phrase ≠ [])
    (absent : blank ∉ phrase) (notBefore : cut? phrase before = none)
    (notBehind : cut? phrase rest = none) : cut? phrase (before ++ blank :: rest) = none := by
  induction before with
  | nil =>
      refine cut?_cons_eq_none.mpr ⟨?_, notBehind⟩
      cases phrase with
      | nil => exact absurd rfl filled
      | cons expected phrase =>
          rw [List.mem_cons, not_or] at absent
          exact afterPrefix?_eq_none (Ne.symm absent.1)
  | cons character before ih =>
      obtain ⟨missing, further⟩ := cut?_cons_eq_none.mp notBefore
      exact cut?_cons_eq_none.mpr ⟨afterPrefix?_append_blank absent missing rest, ih further⟩

end Text
end DocSite
