/-
The lines before the first declaration.

The line of a module declaration holds the dotted name, and the line of an import is an import whatever
modifiers stand in front of its keyword.
-/
import DocSite.Proofs.Canonical.Lines

namespace DocSite.Canonical

open Text (IsWord)

/-! ### Dotted names -/

def isDottedChar (character : Char) : Bool :=
  isWordChar character || character == '.'

theorem dotted_of_mem_text {name : DottedName} {character : Char} (member : character ∈ name.text) :
    isNameChar character = true ∨ character = '.' := by
  obtain ⟨first, further⟩ := name
  unfold DottedName.text at member
  induction further generalizing first with
  | nil => exact .inl (first.leading.isWord.names character member)
  | cons second further ih =>
      change character ∈ first.text ++ ['.'] ++
        Text.join ['.'] ((second :: further).map Identifier.text) at member
      rcases List.mem_append.mp member with front | behind
      · rcases List.mem_append.mp front with inFirst | dot
        · exact .inl (first.leading.isWord.names character inFirst)
        · exact .inr (List.mem_singleton.mp dot)
      · exact ih second behind

theorem soft_dotted (name : DottedName) : Soft name.text := by
  intro character member
  rcases dotted_of_mem_text member with isName | dot
  · exact soft_of_names (fun other inside => by
      rw [List.mem_singleton.mp inside]
      exact isName) character (List.mem_singleton.mpr rfl)
  · rw [dot]
    rfl

theorem dotted_eq_first (name : DottedName) : ∃ rest, name.text = name.first.text ++ rest := by
  obtain ⟨first, further⟩ := name
  cases further with
  | nil => exact ⟨[], (List.append_nil first.text).symm⟩
  | cons second further =>
      refine ⟨['.'] ++ Text.join ['.'] ((second :: further).map Identifier.text), ?_⟩
      rw [← List.append_assoc]
      rfl

theorem startsInk_dotted (name : DottedName) (rest : Text) :
    Text.StartsInk (name.text ++ rest) := by
  obtain ⟨behind, equal⟩ := dotted_eq_first name
  rw [equal, List.append_assoc]
  exact Text.IsWord.startsInk name.first.leading.isWord _

/-! ### Module declarations -/

theorem moduleCode_eq (declared : ModuleName) :
    declared.code = "module".toList ++ ' ' :: (declared.name.text ++ [';']) := by
  unfold ModuleName.code
  rw [List.append_assoc]
  rfl

theorem isWord_module : IsWord "module".toList :=
  Text.isWord_of_isIdentifier rfl

theorem isCode_module (declared : ModuleName) : IsCode declared.code := by
  have soft : Soft ("module".toList ++ ' ' :: declared.name.text) :=
    (soft_of_names isWord_module.names).append (.cons rfl (soft_dotted declared.name))
  have starts : Text.StartsInk declared.code := by
    rw [moduleCode_eq]
    exact Text.IsWord.startsInk isWord_module _
  have split : declared.code = ("module".toList ++ ' ' :: declared.name.text) ++ [';'] := by
    rw [moduleCode_eq, List.append_assoc, List.cons_append]
  rw [split] at starts ⊢
  exact isCode_concat soft.plain rfl starts rfl

theorem moduleName?_module (declared : ModuleName) :
    moduleName? declared.code = some declared.name.text := by
  have behind : Text.trimLeft (' ' :: (declared.name.text ++ [';'])) = declared.name.text ++ [';'] :=
    Text.trimLeft_eq_self (startsInk_dotted declared.name [';'])
  have inside : ∀ character ∈ declared.name.text, isDottedChar character = true := by
    intro character member
    unfold isDottedChar
    rcases dotted_of_mem_text member with isName | dot
    · rw [isWordChar_of_isNameChar isName, Bool.true_or]
    · rw [dot]
      rfl
  have name : (declared.name.text ++ [';']).takeWhile isDottedChar = declared.name.text := by
    rw [List.takeWhile_append_of_pos inside]
    exact List.append_nil _
  have filled : declared.name.text.isEmpty = false := by
    obtain ⟨rest, equal⟩ := dotted_eq_first declared.name
    rw [equal]
    exact declared.name.first.leading.isWord.isEmpty_append rest
  unfold moduleName?
  rw [moduleCode_eq, Text.afterPrefix?_append]
  dsimp only
  rw [behind]
  change (if (true && !((declared.name.text ++ [';']).takeWhile isDottedChar).isEmpty) = true then
    some ((declared.name.text ++ [';']).takeWhile isDottedChar) else none) = _
  rw [name, filled]
  rfl

/-! ### Imports -/

def modified (modifiers : List Text) (text : Text) : Text :=
  modifiers.foldr (fun modifier rest => modifier ++ ' ' :: rest) text

section Modifiers

variable {modifiers : List Text} (known : ∀ modifier ∈ modifiers, modifier ∈ importModifiers)
include known

theorem isWord_modifier : ∀ modifier ∈ modifiers, IsWord modifier := by
  have words : ∀ modifier ∈ importModifiers, Text.isIdentifier modifier = true := by decide
  exact fun modifier member => Text.isWord_of_isIdentifier (words modifier (known modifier member))

theorem soft_modified {text : Text} (soft : Soft text) : Soft (modified modifiers text) := by
  induction modifiers with
  | nil => exact soft
  | cons modifier modifiers ih =>
      have behind := ih fun other member => known other (List.mem_cons_of_mem modifier member)
      exact (soft_of_names (isWord_modifier known modifier List.mem_cons_self).names).append
        (.cons rfl behind)

/-- A modified text begins with a modifier or as the text itself does. -/
theorem modified_eq_word {word : Text} (isWord : IsWord word) (rest : Text) :
    ∃ first behind, modified modifiers (word ++ ' ' :: rest) = first ++ ' ' :: behind ∧
      IsWord first ∧ (first = word ∨ first ∈ importModifiers) := by
  cases modifiers with
  | nil => exact ⟨word, rest, rfl, isWord, .inl rfl⟩
  | cons modifier modifiers =>
      exact ⟨modifier, modified modifiers (word ++ ' ' :: rest), rfl,
        isWord_modifier known modifier List.mem_cons_self,
        .inr (known modifier List.mem_cons_self)⟩

theorem isImport_modified (rest : Text) :
    isImport (modified modifiers ("import".toList ++ ' ' :: rest)) = true := by
  have isWord : IsWord "import".toList := Text.isWord_of_isIdentifier rfl
  induction modifiers with
  | nil =>
      have unmodified := afterImportModifier?_word isWord (by decide) rest
      change isImport ("import".toList ++ ' ' :: rest) = true
      rw [isImport, unmodified]
      dsimp only
      rw [Text.afterPrefix?_append]
      rfl
  | cons modifier modifiers ih =>
      have others : ∀ other ∈ modifiers, other ∈ importModifiers :=
        fun other member => known other (List.mem_cons_of_mem modifier member)
      have ink : Text.StartsInk (modified modifiers ("import".toList ++ ' ' :: rest)) := by
        obtain ⟨first, behind, equal, firstWord, _⟩ := modified_eq_word others isWord rest
        rw [equal]
        exact Text.IsWord.startsInk firstWord _
      have stripped : afterImportModifier?
          (modifier ++ ' ' :: modified modifiers ("import".toList ++ ' ' :: rest)) =
            some (modified modifiers ("import".toList ++ ' ' :: rest)) := by
        have found := spacedKeyword?_eq_some Text.trimLeft
          (isWord_modifier known modifier List.mem_cons_self)
          (show ∀ keyword ∈ importModifiers, spelled keyword = true by decide)
          (known modifier List.mem_cons_self)
          (modified modifiers ("import".toList ++ ' ' :: rest))
        rw [show Text.trimLeft (' ' :: modified modifiers ("import".toList ++ ' ' :: rest)) =
          modified modifiers ("import".toList ++ ' ' :: rest) from Text.trimLeft_eq_self ink] at found
        exact found
      change isImport (modifier ++ ' ' :: modified modifiers ("import".toList ++ ' ' :: rest)) = true
      rw [isImport, stripped]
      exact ih others

end Modifiers

theorem importCode_eq (declared : Import) : declared.code =
    modified declared.modifiers ("import".toList ++ ' ' :: (declared.clause ++ [';'])) := by
  unfold Import.code modified
  rw [List.append_assoc]
  rfl

theorem isWord_import : IsWord "import".toList :=
  Text.isWord_of_isIdentifier rfl

theorem soft_clause (declared : Import) : Soft declared.clause := by
  intro character member
  have allowed := declared.allowed character member
  simp only [isClauseChar, Bool.or_eq_true, beq_iff_eq] at allowed
  rcases allowed with ((((isName | dot) | comma) | colon) | sign) | space
  · unfold isSoft
    rw [isName, Bool.true_or]
  · rw [dot]
    rfl
  · rw [comma]
    rfl
  · rw [colon]
    rfl
  · rw [sign]
    rfl
  · rw [space]
    rfl

theorem soft_import (declared : Import) : Soft declared.code := by
  rw [importCode_eq]
  exact soft_modified declared.known ((soft_of_names isWord_import.names).append
    (.cons rfl ((soft_clause declared).append (.cons rfl soft_nil))))

theorem getLast?_modified (modifiers : List Text) {text : Text} (filled : text ≠ []) :
    (modified modifiers text).getLast? = text.getLast? := by
  induction modifiers with
  | nil => rfl
  | cons modifier modifiers ih =>
      have filledBehind : modified modifiers text ≠ [] := by
        cases modifiers with
        | nil => exact filled
        | cons first further =>
            unfold modified
            rw [List.foldr_cons]
            simp only [ne_eq, List.append_eq_nil_iff, reduceCtorEq, and_false, not_false_eq_true]
      change (modifier ++ ' ' :: modified modifiers text).getLast? = _
      rw [← List.singleton_append, ← List.append_assoc,
        List.getLast?_append_of_ne_nil _ filledBehind, ih]

theorem isCode_import (declared : Import) : IsCode declared.code := by
  obtain ⟨first, behind, equal, isWord, _⟩ := modified_eq_word declared.known isWord_import
    (declared.clause ++ [';'])
  rw [← importCode_eq] at equal
  refine ⟨(soft_import declared).plain, trim_of_inked ?_ ?_ ?_⟩
  · rw [equal]
    simp only [ne_eq, List.append_eq_nil_iff, reduceCtorEq, and_false, not_false_eq_true]
  · rw [equal]
    exact Text.IsWord.startsInk isWord _
  · intro character member
    have filled : "import".toList ++ ' ' :: (declared.clause ++ [';']) ≠ [] := by
      simp only [ne_eq, List.append_eq_nil_iff, reduceCtorEq, and_false, not_false_eq_true]
    have last : declared.code.getLast? = some ';' := by
      rw [importCode_eq, getLast?_modified _ filled, ← List.cons_append, ← List.append_assoc,
        List.getLast?_concat]
    rw [last] at member
    cases member
    rfl

end DocSite.Canonical
