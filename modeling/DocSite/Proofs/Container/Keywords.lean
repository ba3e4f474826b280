/-
Readers of keywords.

Which readers of keywords take a text depends on the word that it begins with, up to the first character that
belongs to no word: a reader that looks for another keyword finds none, or finds one that goes on with a character
of the word. The reader of headers looks for an attribute first, and for the keyword of a container if it knows none.
-/
import DocSite.Doc.Extraction
import DocSite.Proofs.Text.Words

namespace DocSite

/-- Among keywords that a blank has to follow only the first word is found. -/
theorem findSome?_spacedKeyword {Found : Type} (kept : Text → Found) {word rest : Text}
    (first : Text.FirstWord word rest) {keywords : List Text}
    (spelled : ∀ keyword ∈ keywords, keyword.all isWordChar = true) :
    (keywords.findSome? fun keyword =>
        match Text.afterPrefix? keyword (word ++ rest) with
        | some rest => if (rest.head?.map isBlank).getD false then some (kept rest) else none
        | none => none) =
      if word ∈ keywords ∧ (rest.head?.map isBlank).getD false = true then some (kept rest) else none := by
  induction keywords with
  | nil => rfl
  | cons keyword keywords ih =>
      have further := ih fun other member => spelled other (List.mem_cons_of_mem keyword member)
      rw [List.findSome?_cons, further]
      by_cases same : word = keyword
      · rw [← same, Text.afterPrefix?_append]
        by_cases blank : (rest.head?.map isBlank).getD false = true
        · simp [blank]
        · simp [blank]
      · cases found : Text.afterPrefix? keyword (word ++ rest) with
        | none => simp [same]
        | some tail =>
            have notBlank := first.not_blank (spelled keyword List.mem_cons_self) found same
            simp [same, notBlank]

namespace ContainerKind

theorem spelled_keyword (kind : ContainerKind) : kind.keyword.all isWordChar = true := by
  cases kind with
  | enum => rfl
  | aggregate kind => cases kind <;> rfl

theorem keyword_injective : Function.Injective ContainerKind.keyword := by
  have decoded : Function.LeftInverse
      (fun text => (containerKinds.find? fun kind => kind.keyword == text).getD .enum) ContainerKind.keyword := by
    intro kind
    cases kind with
    | enum => rfl
    | aggregate kind => cases kind <;> rfl
  exact decoded.injective

end ContainerKind

def headerOfKind? (text : Text) (kind : ContainerKind) : Option ContainerHeader :=
  match Text.afterPrefix? kind.keyword text with
  | some rest =>
      if (rest.head?.map isWordChar).getD false then none
      else some ⟨kind, rest.takeWhile (· ≠ '\n')⟩
  | none => none

theorem bareHeader?_eq (text : Text) : bareHeader? text = containerKinds.findSome? (headerOfKind? text) := rfl

/-! ### Statements -/

section Statements

variable {word rest : Text} (first : Text.FirstWord word rest)

include first

theorem moduleName?_firstWord (other : word ≠ "module".toList) : moduleName? (word ++ rest) = none := by
  unfold moduleName?
  split
  · rfl
  · rename_i tail found
    rw [first.not_blank (by decide) found other]
    rfl

/-- An import has no other word in front than a modifier, and goes on behind it. -/
theorem isImport_firstWord (other : word ≠ "import".toList)
    (further : word ∈ importModifiers → isImport (Text.trimLeft rest) = false) : isImport (word ++ rest) = false := by
  have behind : afterImportModifier? (word ++ rest) = _ :=
    findSome?_spacedKeyword Text.trimLeft first (show ∀ keyword ∈ importModifiers, _ by decide)
  rw [isImport, behind]
  by_cases modifier : word ∈ importModifiers ∧ (rest.head?.map isBlank).getD false = true
  · rw [if_pos modifier]
    exact further modifier.1
  · rw [if_neg modifier]
    dsimp only
    split
    · rename_i tail found
      exact first.not_blank (by decide) found other
    · rfl

theorem opensSkippedBlock_firstWord (other : word ∉ ["unittest".toList, "invariant".toList]) :
    opensSkippedBlock (word ++ rest) = false := by
  have spelled : ∀ keyword ∈ ["unittest".toList, "invariant".toList], keyword.all isWordChar = true := by decide
  apply List.any_eq_false.mpr
  intro keyword member
  have different : word ≠ keyword := (ne_of_mem_of_not_mem member other).symm
  split
  · rename_i tail found
    rw [first.not_ended (spelled keyword member) found different]
    exact Bool.false_ne_true
  · exact Bool.false_ne_true

theorem headerOfKind?_firstWord {kind : ContainerKind} (other : word ≠ kind.keyword) :
    headerOfKind? (word ++ rest) kind = none := by
  unfold headerOfKind?
  split
  · rename_i tail found
    rw [first.not_ended kind.spelled_keyword found other]
    rfl
  · rfl

theorem bareHeader?_firstWord (other : word ∉ containerKinds.map ContainerKind.keyword) :
    bareHeader? (word ++ rest) = none := by
  rw [bareHeader?_eq, List.findSome?_eq_none_iff]
  intro kind member
  exact headerOfKind?_firstWord first fun same => other (by rw [same]; exact List.mem_map_of_mem member)

end Statements

/-! ### Attributes -/

/-- A text that is taken neither for an argument of an attribute in front of it nor for a comment. -/
structure StandsApart (text : Text) : Prop where
  ink : Text.StartsInk text
  noParenthesis : text.head? ≠ some '('
  noSlash : text.head? ≠ some '/'

theorem standsApart_letter {character : Char} (letter : isWordChar character = true) (rest : Text) :
    StandsApart (character :: rest) := by
  have different {other : Char} (outside : isWordChar other = false) : (character :: rest).head? ≠ some other := by
    intro same
    rw [Option.some.inj same, outside] at letter
    cases letter
  exact ⟨Text.startsInk_cons (isBlank_of_isWordChar letter), different (by decide), different (by decide)⟩

theorem afterArgument?_inside {inside : Text} (flat : ')' ∉ inside) (rest : Text) :
    afterArgument? ('(' :: (inside ++ ')' :: rest)) = some rest := by
  have cut : Text.cutAt? ')' (inside ++ ')' :: rest) = some (inside, rest) := Text.cutAt?_append flat rest
  exact congrArg (Option.map Prod.snd) cut

theorem afterArgument?_eq_none {text : Text} (noParenthesis : text.head? ≠ some '(') : afterArgument? text = none := by
  unfold afterArgument?
  split
  · exact absurd rfl noParenthesis
  · rfl

theorem afterAttribute?_marked (rest : Text) :
    afterAttribute? ('@' :: rest) =
      if (rest.dropWhile isWordChar).length = rest.length then none
      else if (rest.dropWhile isWordChar).head? = some '(' then afterArgument? (rest.dropWhile isWordChar)
      else some (rest.dropWhile isWordChar) := rfl

theorem afterAttribute?_unmarked {text : Text} (unmarked : text.head? ≠ some '@') :
    afterAttribute? text =
      match Text.afterPrefix? linkageKeyword text with
      | some rest => afterArgument? (Text.trimLeft rest)
      | none => plainAttributes.findSome? fun word =>
          match Text.afterPrefix? word text with
          | some rest => if (rest.head?.map isBlank).getD false then some rest else none
          | none => none := by
  unfold afterAttribute?
  split
  · exact absurd rfl unmarked
  · rfl

section Unmarked

variable {word rest : Text} (unmarked : (word ++ rest).head? ≠ some '@')

include unmarked

theorem afterAttribute?_linkage (linkage : word = linkageKeyword) :
    afterAttribute? (word ++ rest) = afterArgument? (Text.trimLeft rest) := by
  rw [afterAttribute?_unmarked unmarked, linkage, Text.afterPrefix?_append]

/-- A word that only begins with the linkage keyword is no attribute, like any other that is not listed. -/
theorem afterAttribute?_other (first : Text.FirstWord word rest) (other : word ≠ linkageKeyword) :
    afterAttribute? (word ++ rest) =
      if word ∈ plainAttributes ∧ (rest.head?.map isBlank).getD false = true then some rest else none := by
  rw [afterAttribute?_unmarked unmarked]
  cases found : Text.afterPrefix? linkageKeyword (word ++ rest) with
  | none => exact findSome?_spacedKeyword id first (by decide)
  | some tail =>
      have spelled : linkageKeyword.all isWordChar = true := by decide
      have unlisted : ∀ listed ∈ plainAttributes, Text.afterPrefix? linkageKeyword listed = none := by decide
      obtain ⟨character, more, goesOn, letter⟩ := first.goesOn spelled found other
      have apart : StandsApart tail := by
        rw [goesOn]
        exact standsApart_letter letter more
      have longer : word = linkageKeyword ++ tail.takeWhile isWordChar := by
        rw [← first.takeWhile_eq, Text.eq_append_of_afterPrefix? found,
          List.takeWhile_append_of_pos (List.all_eq_true.mp spelled)]
      have notListed : word ∉ plainAttributes := by
        intro member
        have absent := unlisted word member
        rw [longer, Text.afterPrefix?_append] at absent
        cases absent
      rw [if_neg fun both => notListed both.1]
      dsimp only
      rw [Text.trimLeft_eq_self apart.ink, afterArgument?_eq_none apart.noParenthesis]

end Unmarked

/-! ### Headers -/

theorem headerOfCode?_passed {text rest : Text} (passed : afterSpacedAttribute? text = some rest) :
    headerOfCode? text = headerOfCode? rest := by
  rw [headerOfCode?]
  split
  · rename_i behind found
    rw [passed] at found
    rw [Option.some.inj found]
  · rename_i found
    rw [passed] at found
    cases found

/-- Without an attribute in front, a header begins with the keyword of a container. -/
theorem headerOfCode?_bare {text : Text} (missing : afterAttribute? text = none) :
    headerOfCode? text = bareHeader? text := by
  have missingToo : afterSpacedAttribute? text = none := by
    unfold afterSpacedAttribute?
    rw [missing]
  rw [headerOfCode?]
  split
  · rename_i behind found
    rw [missingToo] at found
    cases found
  · rfl

theorem head?_blanks_append {blanks rest : Text} (filled : blanks ≠ [])
    (blank : ∀ character ∈ blanks, isBlank character = true) :
    ((blanks ++ rest).head?.map isBlank).getD false = true ∧ (blanks ++ rest).head? ≠ some '(' := by
  cases blanks with
  | nil => exact absurd rfl filled
  | cons character others =>
      have isBlank' := blank character List.mem_cons_self
      refine ⟨isBlank', ?_⟩
      intro same
      rw [Option.some.inj same] at isBlank'
      cases isBlank'

/-- An attribute is passed over with the blanks that follow it. -/
theorem afterSpacedAttribute?_eq_some {text gap rest : Text} (passed : afterAttribute? text = some (gap ++ rest))
    (apart : gap ≠ []) (blank : ∀ character ∈ gap, isBlank character = true) (ink : Text.StartsInk rest) :
    afterSpacedAttribute? text = some rest := by
  unfold afterSpacedAttribute?
  rw [passed]
  dsimp only
  rw [if_pos (head?_blanks_append apart blank).1, Text.trimLeft_blanks_append blank ink]

theorem headerOfCode?_noAttribute {word rest : Text} (first : Text.FirstWord word rest)
    (other : word ∉ containerKinds.map ContainerKind.keyword) (missing : afterAttribute? (word ++ rest) = none) :
    headerOfCode? (word ++ rest) = none := by
  rw [headerOfCode?_bare missing, bareHeader?_firstWord first other]

theorem headerOfCode?_parenthesis (text : Text) : headerOfCode? ('(' :: text) = none := by
  have first := Text.firstWord_nil (show isWordChar '(' = false from rfl) text
  refine headerOfCode?_noAttribute first (by decide) ?_
  rw [afterAttribute?_other (by nofun) first (by decide), if_neg fun both => absurd both.1 (by decide)]

/-- An argument apart from its attribute is not passed over. -/
theorem headerOfCode?_argumentApart {text blanks inside : Text}
    (passed : afterAttribute? text = some (blanks ++ '(' :: inside)) (apart : blanks ≠ [])
    (blank : ∀ character ∈ blanks, isBlank character = true) : headerOfCode? text = none := by
  rw [headerOfCode?_passed (afterSpacedAttribute?_eq_some passed apart blank (Text.startsInk_cons rfl)),
    headerOfCode?_parenthesis]

/-- A keyword that ends its word begins a header of its kind. -/
theorem bareHeader?_keyword (kind : ContainerKind) {rest : Text} (ends : Text.EndsWord rest) :
    bareHeader? (kind.keyword ++ rest) = some ⟨kind, rest.takeWhile (· ≠ '\n')⟩ := by
  have first : Text.FirstWord kind.keyword rest := ⟨List.all_eq_true.mp kind.spelled_keyword, ends⟩
  have listed : kind ∈ containerKinds := by
    cases kind with
    | enum => decide
    | aggregate kind => cases kind <;> decide
  have boundary : (rest.head?.map isWordChar).getD false = false := by
    cases rest with
    | nil => rfl
    | cons character others => exact ends character rfl
  obtain ⟨before, after, split, absent⟩ := List.eq_append_cons_of_mem listed
  have others : before.findSome? (headerOfKind? (kind.keyword ++ rest)) = none := by
    rw [List.findSome?_eq_none_iff]
    intro other member
    refine headerOfKind?_firstWord first fun same => absent ?_
    rw [ContainerKind.keyword_injective same]
    exact member
  have own : headerOfKind? (kind.keyword ++ rest) kind = some ⟨kind, rest.takeWhile (· ≠ '\n')⟩ := by
    unfold headerOfKind?
    rw [Text.afterPrefix?_append]
    dsimp only
    rw [boundary]
    rfl
  rw [bareHeader?_eq, split, List.findSome?_append, others, Option.none_or, List.findSome?_cons, own]

theorem headerOfCode?_keyword (kind : ContainerKind) {rest : Text} (ends : Text.EndsWord rest) :
    headerOfCode? (kind.keyword ++ rest) = some ⟨kind, rest.takeWhile (· ≠ '\n')⟩ := by
  have first : Text.FirstWord kind.keyword rest := ⟨List.all_eq_true.mp kind.spelled_keyword, ends⟩
  have plain : kind.keyword ∉ plainAttributes ∧ kind.keyword ≠ linkageKeyword ∧
      (kind.keyword ++ rest).head? ≠ some '@' := by
    cases kind with
    | enum => exact ⟨by decide, by decide, fun same => absurd (Option.some.inj same) (by decide)⟩
    | aggregate kind =>
        cases kind <;> exact ⟨by decide, by decide, fun same => absurd (Option.some.inj same) (by decide)⟩
  have missing : afterAttribute? (kind.keyword ++ rest) = none := by
    rw [afterAttribute?_other plain.2.2 first plain.2.1, if_neg fun both => plain.1 both.1]
  rw [headerOfCode?_bare missing, bareHeader?_keyword kind ends]

end DocSite
