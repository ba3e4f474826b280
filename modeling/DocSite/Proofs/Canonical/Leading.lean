/-
Lines by their first word.

A canonical line begins with a word and a space, and which of the readers of keywords take the line depends on
that word alone.
-/
import DocSite.Proofs.Canonical.Tree
import DocSite.Proofs.Container.Keywords

namespace DocSite.Canonical

open Text (IsWord EndsWord FirstWord)

/-! ### Keywords -/

/-- Whether a keyword consists of characters of names. -/
def spelled (keyword : Text) : Bool :=
  keyword.all isNameChar

theorem letters_of_spelled {keyword : Text} (isSpelled : spelled keyword = true) :
    keyword.all isWordChar = true :=
  List.all_eq_true.mpr fun character member => isWordChar_of_isNameChar (List.all_eq_true.mp isSpelled character member)

theorem isWordChar_space : isWordChar ' ' = false := by
  rfl

theorem endsWord_space (rest : Text) : EndsWord (' ' :: rest) :=
  Text.endsWord_cons isWordChar_space

theorem firstWord_space {word : Text} (isWord : IsWord word) (rest : Text) : FirstWord word (' ' :: rest) :=
  isWord.first (endsWord_space rest)

def spacedKeyword? {Found : Type} (found : Text → Found) (keywords : List Text) (text : Text) :
    Option Found :=
  keywords.findSome? fun keyword =>
    match Text.afterPrefix? keyword text with
    | some rest => if (rest.head?.map isBlank).getD false then some (found rest) else none
    | none => none

section Spaced

variable {Found : Type} (found : Text → Found) {keywords : List Text} {word : Text}

theorem spacedKeyword?_eq_none (isWord : IsWord word)
    (allSpelled : ∀ keyword ∈ keywords, spelled keyword = true) (other : word ∉ keywords)
    (rest : Text) : spacedKeyword? found keywords (word ++ ' ' :: rest) = none :=
  (findSome?_spacedKeyword found (firstWord_space isWord rest)
    fun keyword member => letters_of_spelled (allSpelled keyword member)).trans (if_neg fun both => other both.1)

theorem spacedKeyword?_eq_some (isWord : IsWord word)
    (allSpelled : ∀ keyword ∈ keywords, spelled keyword = true) (member : word ∈ keywords)
    (rest : Text) :
    spacedKeyword? found keywords (word ++ ' ' :: rest) = some (found (' ' :: rest)) :=
  (findSome?_spacedKeyword found (firstWord_space isWord rest)
    fun keyword member => letters_of_spelled (allSpelled keyword member)).trans (if_pos ⟨member, rfl⟩)

end Spaced

/-! ### What a first word is not -/

section Lines

variable {word : Text} (isWord : IsWord word)
include isWord

theorem isFiller_word (rest : Text) : isFiller (word ++ rest) = false := by
  obtain ⟨character, tail, equal, name⟩ := isWord.exists_cons
  have opener : character ≠ '\x7b' := ne_of_isNameChar name rfl
  have closer : character ≠ '\x7d' := ne_of_isNameChar name rfl
  have semicolon : character ≠ ';' := ne_of_isNameChar name rfl
  have space : character ≠ ' ' := ne_of_isNameChar name rfl
  have tab : character ≠ '\t' := ne_of_isNameChar name rfl
  rw [equal]
  simp only [isFiller, List.cons_append, List.all_cons, opener, closer, semicolon,
    space, tab, Bool.or_self, Bool.false_and, beq_eq_false_iff_ne.mpr, ne_eq, not_false_eq_true]

theorem moduleName?_word (other : word ≠ "module".toList) (rest : Text) :
    moduleName? (word ++ ' ' :: rest) = none :=
  moduleName?_firstWord (firstWord_space isWord rest) other

theorem afterImportModifier?_word (other : word ∉ importModifiers) (rest : Text) :
    afterImportModifier? (word ++ ' ' :: rest) = none :=
  spacedKeyword?_eq_none Text.trimLeft isWord (by decide) other rest

theorem isImport_word (noModifier : word ∉ importModifiers) (other : word ≠ "import".toList)
    (rest : Text) : isImport (word ++ ' ' :: rest) = false :=
  isImport_firstWord (firstWord_space isWord rest) other fun modifier => absurd modifier noModifier

theorem opensSkippedBlock_word (other : word ∉ ["unittest".toList, "invariant".toList])
    (rest : Text) : opensSkippedBlock (word ++ ' ' :: rest) = false :=
  opensSkippedBlock_firstWord (firstWord_space isWord rest) other

theorem bareHeader?_word (other : ∀ kind : ContainerKind, word ≠ kind.keyword) (rest : Text) :
    bareHeader? (word ++ ' ' :: rest) = none := by
  apply bareHeader?_firstWord (firstWord_space isWord rest)
  intro member
  obtain ⟨kind, _, same⟩ := List.mem_map.mp member
  exact other kind same.symm

theorem headerOfCode?_word (noAttribute : word ∉ plainAttributes)
    (unlinked : Text.afterPrefix? linkageKeyword word = none) (rest : Text) :
    headerOfCode? (word ++ ' ' :: rest) = bareHeader? (word ++ ' ' :: rest) := by
  have other : word ≠ linkageKeyword := by
    intro same
    rw [same, Text.afterPrefix?_self] at unlinked
    cases unlinked
  have unmarked : (word ++ ' ' :: rest).head? ≠ some '@' := by
    obtain ⟨character, more, equal, name⟩ := isWord.exists_cons
    rw [equal]
    exact fun same => ne_of_isNameChar name rfl (Option.some.inj same)
  apply headerOfCode?_bare
  rw [afterAttribute?_other unmarked (firstWord_space isWord rest) other, if_neg fun both => noAttribute both.1]

theorem startsConstructor_word (other : word ≠ "this".toList) (rest : Text) :
    startsConstructor (word ++ ' ' :: rest) = false := by
  have noTilde : Text.afterPrefix? ['~'] (word ++ ' ' :: rest) = none := by
    obtain ⟨character, tail, equal, name⟩ := isWord.exists_cons
    rw [equal]
    exact Text.afterPrefix?_eq_none (ne_of_isNameChar name rfl).symm
  unfold startsConstructor
  rw [noTilde]
  dsimp only [Option.getD_none]
  split
  · rename_i tail begins
    obtain ⟨character, more, equal, letter⟩ := (firstWord_space isWord rest).goesOn (by decide) begins other
    have notParenthesis : '(' ≠ character := by
      intro same
      rw [← same] at letter
      cases letter
    rw [equal, Text.trimLeft_eq_self (Text.startsInk_cons (isBlank_of_isWordChar letter))]
    unfold Text.beginsWith
    rw [Text.afterPrefix?_eq_none notParenthesis]
    rfl
  · rfl

theorem afterAccessModifier?_word (other : word ∉ accessModifiers) (rest : Text) :
    afterAccessModifier? (word ++ ' ' :: rest) = none :=
  spacedKeyword?_eq_none Text.trimLeft isWord (by decide) other rest

end Lines

end DocSite.Canonical
