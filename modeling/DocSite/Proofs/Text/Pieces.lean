/-
Pieces of a text.

Trimming, cutting, splitting at separators and taking words give contiguous pieces of the text they are asked
about: no character is made up, and what stood side by side still does. Cuts say in addition which character or
phrase stood between their two parts.
-/
import DocSite.Source.Nesting
import DocSite.Proofs.Cursor.Signature
import DocSite.Proofs.Text.Words

namespace DocSite
namespace Text

/-! ### Trimming -/

theorem trimLeft_isInfix (text : Text) : trimLeft text <:+: text :=
  (List.dropWhile_suffix isBlank).isInfix

theorem trim_isInfix (text : Text) : trim text <:+: text :=
  (trimRight_begins (trimLeft text)).isInfix.trans (trimLeft_isInfix text)

/-! ### Cutting -/

theorem concat_isInfix (front rest : Text) (next : Char) : front ++ [next] <:+: front ++ next :: rest :=
  ⟨[], rest, by rw [List.nil_append, List.append_assoc, List.singleton_append]⟩

theorem behind_isInfix (front rest : Text) (next : Char) : rest <:+: front ++ next :: rest :=
  (List.infix_cons List.infix_rfl).trans List.infix_append_right

theorem eq_of_cut? {phrase text : Text} {parts : Text × Text} (found : cut? phrase text = some parts) :
    text = parts.1 ++ (phrase ++ parts.2) := by
  induction text generalizing parts with
  | nil =>
      obtain ⟨rest, here, equal⟩ := Option.map_eq_some_iff.mp found
      have whole := eq_append_of_afterPrefix? here
      cases equal
      exact whole
  | cons character tail ih =>
      unfold cut? at found
      split at found
      · rename_i behind here
        have whole := eq_append_of_afterPrefix? here
        cases found
        exact whole
      · obtain ⟨inner, further, equal⟩ := Option.map_eq_some_iff.mp found
        cases equal
        exact congrArg (List.cons character) (ih further)

/-- What stands before a phrase is a beginning of the text. -/
theorem fst_infix_of_cut? {phrase text : Text} {parts : Text × Text}
    (found : cut? phrase text = some parts) : parts.1 <:+: text := by
  rw [eq_of_cut? found]
  exact List.infix_append_left

section Cutting

variable {wanted : Char} {text : Text}

theorem exists_cutAt?_of_mem (member : wanted ∈ text) :
    ∃ before rest, text = before ++ wanted :: rest ∧ wanted ∉ before ∧
      cutAt? wanted text = some (before, rest) := by
  obtain ⟨before, rest, whole, absent⟩ := List.eq_append_cons_of_mem member
  refine ⟨before, rest, whole, absent, ?_⟩
  rw [whole]
  exact cutAt?_append absent rest

theorem cutAt?_eq_none_iff : cutAt? wanted text = none ↔ wanted ∉ text := by
  constructor
  · intro missing member
    obtain ⟨before, rest, _, _, found⟩ := exists_cutAt?_of_mem member
    rw [missing] at found
    cases found
  · exact cutAt?_eq_none

/-- A cut is made at the first occurrence. -/
theorem cutAt?_eq_some_iff {before rest : Text} :
    cutAt? wanted text = some (before, rest) ↔ text = before ++ wanted :: rest ∧ wanted ∉ before := by
  constructor
  · intro found
    have whole := Cursor.eq_of_cutAt? found
    have member : wanted ∈ text := by
      rw [whole]
      exact List.mem_append_right before List.mem_cons_self
    obtain ⟨front, behind, _, absent, again⟩ := exists_cutAt?_of_mem member
    rw [again] at found
    cases found
    exact ⟨whole, absent⟩
  · rintro ⟨whole, absent⟩
    rw [whole]
    exact cutAt?_append absent rest

theorem cutAtLast?_eq_some_iff {before rest : Text} :
    cutAtLast? wanted text = some (before, rest) ↔ text = before ++ wanted :: rest ∧ wanted ∉ rest := by
  have mirrored : cutAtLast? wanted text = some (before, rest) ↔
      cutAt? wanted text.reverse = some (rest.reverse, before.reverse) := by
    unfold cutAtLast?
    constructor
    · intro found
      obtain ⟨parts, cut, equal⟩ := Option.map_eq_some_iff.mp found
      cases equal
      rw [List.reverse_reverse, List.reverse_reverse, cut]
    · intro cut
      rw [cut, Option.map_some, List.reverse_reverse, List.reverse_reverse]
  rw [mirrored, cutAt?_eq_some_iff, List.mem_reverse, List.reverse_eq_iff, List.reverse_append,
    List.reverse_cons, List.reverse_reverse, List.reverse_reverse, List.append_assoc, List.singleton_append]

end Cutting

theorem snd_infix_of_cutAt? {wanted : Char} {text : Text} {parts : Text × Text}
    (found : cutAt? wanted text = some parts) : parts.2 <:+: text := by
  rw [Cursor.eq_of_cutAt? found]
  exact behind_isInfix _ _ _

theorem fst_infix_of_cutAtLast? {wanted : Char} {text : Text} {parts : Text × Text}
    (found : cutAtLast? wanted text = some parts) : parts.1 <:+: text := by
  obtain ⟨mirrored, cut, equal⟩ := Option.map_eq_some_iff.mp found
  have reversed := (snd_infix_of_cutAt? cut).reverse
  rw [List.reverse_reverse] at reversed
  rw [← equal]
  exact reversed

theorem afterPrefix?_isInfix {start text rest : Text} (found : afterPrefix? start text = some rest) :
    rest <:+: text := by
  rw [eq_append_of_afterPrefix? found]
  exact List.infix_append_right

/-- A piece that ends before another character ends before the last one. -/
theorem infix_of_concat_infix_concat {piece text : Text} {next last : Char}
    (inside : piece ++ [next] <:+: text ++ [last]) : piece <:+: text := by
  rcases List.infix_concat_iff.mp inside with ends | within
  · rcases List.suffix_concat_iff.mp ends with empty | ⟨front, equal, isEnd⟩
    · exact absurd empty (List.append_ne_nil_of_right_ne_nil piece (List.cons_ne_nil next []))
    · rw [List.append_inj_left' equal rfl]
      exact isEnd.isInfix
  · exact List.infix_append_left.trans within

/-! ### Splitting at separators -/

/-- Every segment is a piece of the text, and the first one is its beginning. -/
theorem topLevelSegments_pieces (isSeparator : Char → Bool) (quotation : Quotation) (depth : Nat)
    (text : Text) :
    ∃ first others, topLevelSegments isSeparator quotation depth text = first :: others ∧
      first <+: text ∧ ∀ segment ∈ others, segment <:+: text := by
  induction text generalizing quotation depth with
  | nil => exact ⟨[], [], rfl, List.nil_prefix, nofun⟩
  | cons character rest ih =>
      have extended (next : Quotation) (depth : Nat) :
          ∃ first others,
            consHead character (topLevelSegments isSeparator next depth rest) = first :: others ∧
              first <+: character :: rest ∧ ∀ segment ∈ others, segment <:+: character :: rest := by
        obtain ⟨first, others, split, starts, pieces⟩ := ih next depth
        refine ⟨character :: first, others, by rw [split]; rfl, ?_, ?_⟩
        · exact (List.prefix_cons_inj character).mpr starts
        · intro segment member
          exact List.infix_cons (pieces segment member)
      cases quotation with
      | within mark escaped =>
          rw [topLevelSegments]
          exact extended _ depth
      | outside =>
          rw [topLevelSegments]
          split
          · exact extended _ _
          · obtain ⟨first, others, split, starts, pieces⟩ := ih .outside depth
            refine ⟨[], first :: others, by rw [split], List.nil_prefix, ?_⟩
            intro segment member
            rcases List.mem_cons.mp member with head | tail
            · rw [head]
              exact List.infix_cons starts.isInfix
            · exact List.infix_cons (pieces segment tail)

theorem infix_of_mem_splitTopLevelAt {separator : Char} {text piece : Text}
    (member : piece ∈ splitTopLevelAt separator text) : piece <:+: text := by
  obtain ⟨segment, inside, trimmed⟩ := List.mem_map.mp member
  obtain ⟨first, others, split, starts, pieces⟩ :=
    topLevelSegments_pieces (· == separator) .outside 0 text
  rw [split] at inside
  rw [← trimmed]
  apply (trim_isInfix segment).trans
  rcases List.mem_cons.mp inside with head | tail
  · rw [head]
    exact starts.isInfix
  · exact pieces segment tail

/-! ### Words -/

structure IsWordOf (word text : Text) : Prop where
  ne_nil : word ≠ []
  ink : ∀ character ∈ word, isBlank character = false
  piece : word <:+: text

theorem IsWordOf.mono {word text longer : Text} (isWord : IsWordOf word text)
    (inside : text <:+: longer) : IsWordOf word longer :=
  ⟨isWord.ne_nil, isWord.ink, isWord.piece.trans inside⟩

theorem IsWordOf.behind {word text : Text} (isWord : IsWordOf word text) (character : Char) :
    IsWordOf word (character :: text) :=
  isWord.mono (List.infix_cons List.infix_rfl)

/-- One more character in front of a word is part of the word. -/
theorem isWordOf_cons {character : Char} {word text : Text} (notBlank : isBlank character = false)
    (ink : ∀ other ∈ word, isBlank other = false) (starts : word <+: text) :
    IsWordOf (character :: word) (character :: text) := by
  refine ⟨List.cons_ne_nil _ _, ?_, ((List.prefix_cons_inj character).mpr starts).isInfix⟩
  exact List.forall_mem_cons.mpr ⟨notBlank, ink⟩

theorem not_startsInk_of_isBlank {blank : Char} {rest : Text} (isBlank' : isBlank blank = true) :
    ¬StartsInk (blank :: rest) := by
  intro ink
  rw [ink blank rfl] at isBlank'
  cases isBlank'

/-- Every word is a piece of the text, and a text that starts with no blank starts with its first word. -/
theorem words_pieces (text : Text) :
    (∀ word ∈ words text, IsWordOf word text) ∧
      (StartsInk text → text ≠ [] → ∃ first others, words text = first :: others ∧ first <+: text) := by
  induction text with
  | nil => exact ⟨List.forall_mem_nil _, fun ink filled => absurd rfl filled⟩
  | cons character rest ih =>
      obtain ⟨pieces, leads⟩ := ih
      have later {word : Text} (member : word ∈ words rest) : IsWordOf word (character :: rest) :=
        (pieces word member).behind character
      rw [words.eq_def]
      dsimp only
      by_cases blank : isBlank character = true
      · rw [if_pos blank]
        exact ⟨fun word member => later member, fun ink => absurd ink (not_startsInk_of_isBlank blank)⟩
      · have notBlank := Bool.eq_false_iff.mpr blank
        rw [if_neg blank]
        cases rest with
        | nil =>
            refine ⟨?_, fun _ _ => ⟨[character], [], rfl, List.prefix_rfl⟩⟩
            intro word member
            rw [List.mem_singleton.mp member]
            exact isWordOf_cons notBlank (List.forall_mem_nil _) List.prefix_rfl
        | cons next tail =>
            by_cases separated : isBlank next = true
            · simp only [separated, if_true]
              refine ⟨?_, fun _ _ => ⟨[character], _, rfl, List.prefix_append [character] _⟩⟩
              intro word member
              rcases List.mem_cons.mp member with head | others
              · rw [head]
                exact isWordOf_cons notBlank (List.forall_mem_nil _) List.nil_prefix
              · exact later others
            · -- The first word of the rest goes on with the character in front of it.
              simp only [separated, Bool.false_eq_true, if_false]
              obtain ⟨first, others, split, starts⟩ :=
                leads (startsInk_cons (Bool.eq_false_iff.mpr separated)) (List.cons_ne_nil _ _)
              rw [split] at pieces later ⊢
              refine ⟨?_, fun _ _ => ⟨character :: first, others, rfl, ?_⟩⟩
              · intro word member
                rcases List.mem_cons.mp member with head | further
                · rw [head]
                  exact isWordOf_cons notBlank (pieces first List.mem_cons_self).ink starts
                · exact later (List.mem_cons_of_mem first further)
              · exact (List.prefix_cons_inj character).mpr starts

theorem isWordOf_of_mem_words {word text : Text} (member : word ∈ words text) : IsWordOf word text :=
  (words_pieces text).1 word member

/-- Blanks in front of a text are part of no word. -/
theorem words_blanks_append {blanks : Text} (blank : ∀ character ∈ blanks, isBlank character = true)
    (rest : Text) : words (blanks ++ rest) = words rest := by
  induction blanks with
  | nil => rfl
  | cons character blanks ih =>
      rw [List.cons_append, words.eq_def]
      dsimp only
      rw [if_pos (blank character List.mem_cons_self),
        ih fun other member => blank other (List.mem_cons_of_mem character member)]

/-- A word is the first one of a text that goes on with blanks. -/
theorem words_append_gap {word blanks : Text} (filled : word ≠ [])
    (ink : ∀ character ∈ word, isBlank character = false) (separated : blanks ≠ [])
    (blank : ∀ character ∈ blanks, isBlank character = true) (rest : Text) :
    words (word ++ (blanks ++ rest)) = word :: words rest := by
  cases blanks with
  | nil => exact absurd rfl separated
  | cons character others =>
      rw [List.cons_append, words_append_blank filled ink (blank character List.mem_cons_self),
        words_blanks_append fun other member => blank other (List.mem_cons_of_mem character member)]

/-- A word with nothing but blanks behind it is the only one. -/
theorem words_append_blanks {word blanks : Text} (filled : word ≠ [])
    (ink : ∀ character ∈ word, isBlank character = false)
    (blank : ∀ character ∈ blanks, isBlank character = true) : words (word ++ blanks) = [word] := by
  cases blanks with
  | nil =>
      rw [List.append_nil]
      exact words_eq_singleton filled ink
  | cons character rest =>
      have behind := words_blanks_append
        (fun other member => blank other (List.mem_cons_of_mem character member)) []
      rw [words_append_blank filled ink (blank character List.mem_cons_self)]
      rw [List.append_nil] at behind
      rw [behind]
      rfl

theorem exists_mem_consHead {wanted character : Char} {pieces : List Text}
    (inside : wanted = character ∨ ∃ piece ∈ pieces, wanted ∈ piece) :
    ∃ piece ∈ consHead character pieces, wanted ∈ piece := by
  cases pieces with
  | nil =>
      rcases inside with here | ⟨piece, listed, _⟩
      · exact ⟨[character], List.mem_cons_self, List.mem_singleton.mpr here⟩
      · cases listed
  | cons first others =>
      rcases inside with here | ⟨piece, listed, member⟩
      · refine ⟨character :: first, List.mem_cons_self, ?_⟩
        rw [here]
        exact List.mem_cons_self
      · rcases List.mem_cons.mp listed with head | later
        · refine ⟨character :: first, List.mem_cons_self, List.mem_cons_of_mem character ?_⟩
          rw [← head]
          exact member
        · exact ⟨piece, List.mem_cons_of_mem _ later, member⟩

/-- Whatever is no blank belongs to a word. -/
theorem exists_word_of_mem {wanted : Char} {text : Text} (member : wanted ∈ text)
    (ink : isBlank wanted = false) : ∃ word ∈ words text, wanted ∈ word := by
  induction text with
  | nil => cases member
  | cons character rest ih =>
      rw [words.eq_def]
      dsimp only
      by_cases blank : isBlank character = true
      · rw [if_pos blank]
        rcases List.mem_cons.mp member with here | later
        · rw [here, blank] at ink
          cases ink
        · exact ih later
      · rw [if_neg blank]
        cases rest with
        | nil => exact ⟨[character], List.mem_singleton_self _, member⟩
        | cons next tail =>
            by_cases separated : isBlank next = true
            · simp only [separated, if_true]
              rcases List.mem_cons.mp member with here | later
              · exact ⟨[character], List.mem_cons_self, List.mem_singleton.mpr here⟩
              · obtain ⟨word, listed, inside⟩ := ih later
                exact ⟨word, List.mem_cons_of_mem _ listed, inside⟩
            · simp only [separated, Bool.false_eq_true, if_false]
              apply exists_mem_consHead
              rcases List.mem_cons.mp member with here | later
              · exact .inl here
              · exact .inr (ih later)

theorem join_cons_cons (separator piece next : Text) (more : List Text) :
    join separator (piece :: next :: more) = piece ++ (separator ++ join separator (next :: more)) := by
  rw [join, List.append_assoc]
  exact nofun

theorem join_concat (separator : Text) {pieces : List Text} (filled : pieces ≠ []) (last : Text) :
    join separator (pieces ++ [last]) = join separator pieces ++ (separator ++ last) := by
  induction pieces with
  | nil => exact absurd rfl filled
  | cons piece others ih =>
      cases others with
      | nil => exact List.append_assoc piece separator last
      | cons next more =>
          have further := ih (List.cons_ne_nil next more)
          rw [List.cons_append] at further
          rw [List.cons_append, List.cons_append, join_cons_cons, further, join_cons_cons]
          simp only [List.append_assoc]

/-- Words that are put together with a space between neighbours are read back. -/
theorem words_join {pieces : List Text} (filled : ∀ piece ∈ pieces, piece ≠ [])
    (ink : ∀ piece ∈ pieces, ∀ character ∈ piece, isBlank character = false) :
    words (join [' '] pieces) = pieces := by
  induction pieces with
  | nil => rfl
  | cons piece rest ih =>
      have here := filled piece List.mem_cons_self
      have inkHere := ink piece List.mem_cons_self
      cases rest with
      | nil => exact words_eq_singleton here inkHere
      | cons next others =>
          rw [join_cons_cons, List.singleton_append, words_append_blank here inkHere rfl,
            ih (fun other member => filled other (List.mem_cons_of_mem piece member))
              (fun other member => ink other (List.mem_cons_of_mem piece member))]

end Text
end DocSite
