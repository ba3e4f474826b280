/-
Attributes in front of a declaration.

An attribute is a word, perhaps behind an at sign and perhaps with an argument in parentheses. The reader of headers
passes over an attribute that it knows if no parenthesis is closed inside its argument, and it finds no header behind
an attribute that it does not know.
-/
import DocSite.Proofs.Container.Keywords

namespace DocSite

structure AttributeArgument where
  blanks : Text
  blank : ∀ character ∈ blanks, isBlank character = true
  inside : Text

def AttributeArgument.text (argument : AttributeArgument) : Text :=
  argument.blanks ++ '(' :: (argument.inside ++ [')'])

def leadingKeywords : List Text :=
  containerKinds.map ContainerKind.keyword ++ ["module", "import", "unittest", "invariant"].map String.toList

/-- An attribute with the blanks behind it. The name may be missing behind an at sign. -/
structure Attribute where
  marked : Bool
  name : Text
  letters : ∀ character ∈ name, isWordChar character = true
  named : marked = true ∨ name ≠ [] ∧ name ∉ leadingKeywords
  argument : Option AttributeArgument
  gap : Text
  apart : gap ≠ []
  blank : ∀ character ∈ gap, isBlank character = true

namespace Attribute

def behindName (given : Attribute) : Text :=
  ((given.argument.map AttributeArgument.text).getD []) ++ given.gap

def text (given : Attribute) : Text :=
  (if given.marked then ['@'] else []) ++ (given.name ++ given.behindName)

def IsKnown (given : Attribute) : Prop :=
  match given.argument with
  | none => if given.marked then given.name ≠ [] else given.name ∈ plainAttributes
  | some argument =>
      if given.marked then given.name ≠ [] ∧ argument.blanks = [] else given.name = linkageKeyword

instance (given : Attribute) : Decidable given.IsKnown := by
  unfold IsKnown
  split <;> infer_instance

def IsFlat (given : Attribute) : Prop :=
  ∀ argument ∈ given.argument, ')' ∉ argument.inside

/-! ### The text of an attribute -/

variable (given : Attribute) {rest : Text}

theorem firstWord_behindName (rest : Text) : Text.FirstWord given.name (given.behindName ++ rest) := by
  refine ⟨given.letters, ?_⟩
  unfold behindName
  rw [List.append_assoc]
  cases given.argument with
  | none => exact Text.endsWord_gap given.apart given.blank rest
  | some argument =>
      unfold AttributeArgument.text
      rw [Option.map_some, Option.getD_some, List.append_assoc]
      exact Text.endsWord_blanks_append argument.blank (Text.endsWord_cons rfl)

theorem behindName_of_none (missing : given.argument = none) (rest : Text) :
    given.behindName ++ rest = given.gap ++ rest := by
  unfold behindName
  rw [missing]
  rfl

theorem behindName_of_some {argument : AttributeArgument} (found : given.argument = some argument) (rest : Text) :
    given.behindName ++ rest = argument.blanks ++ '(' :: (argument.inside ++ ')' :: (given.gap ++ rest)) := by
  unfold behindName AttributeArgument.text
  rw [found, Option.map_some, Option.getD_some]
  simp only [List.append_assoc, List.cons_append, List.nil_append]

theorem text_marked (marked : given.marked = true) (rest : Text) :
    given.text ++ rest = '@' :: (given.name ++ (given.behindName ++ rest)) := by
  unfold text
  rw [marked, if_pos rfl, List.append_assoc, List.append_assoc]
  rfl

theorem text_unmarked (unmarked : given.marked = false) (rest : Text) :
    given.text ++ rest = given.name ++ (given.behindName ++ rest) := by
  unfold text
  rw [unmarked, if_neg Bool.false_ne_true, List.nil_append, List.append_assoc]

section Unmarked

variable {given} (unmarked : given.marked = false)

include unmarked

theorem named_unmarked : given.name ≠ [] ∧ given.name ∉ leadingKeywords :=
  given.named.resolve_left (by rw [unmarked]; exact Bool.false_ne_true)

theorem exists_letter : ∃ character others, given.name = character :: others ∧ isWordChar character = true := by
  cases word : given.name with
  | nil => exact absurd word (named_unmarked unmarked).1
  | cons character others =>
      exact ⟨character, others, rfl, given.letters character (by rw [word]; exact List.mem_cons_self)⟩

theorem head?_unmarked (rest : Text) : (given.name ++ rest).head? ≠ some '@' := by
  obtain ⟨character, others, word, letter⟩ := exists_letter unmarked
  rw [word]
  intro same
  rw [Option.some.inj same] at letter
  cases letter

end Unmarked

/-- A marked attribute ends with its name, if it has one, or with an argument that follows directly. -/
theorem afterAttribute?_text_marked (marked : given.marked = true) (rest : Text) :
    afterAttribute? (given.text ++ rest) =
      if given.name = [] then none
      else if (given.behindName ++ rest).head? = some '(' then afterArgument? (given.behindName ++ rest)
      else some (given.behindName ++ rest) := by
  rw [given.text_marked marked, afterAttribute?_marked, (given.firstWord_behindName rest).dropWhile_eq]
  by_cases nameless : given.name = []
  · rw [if_pos nameless, nameless, List.nil_append, if_pos rfl]
  · have longer : (given.behindName ++ rest).length ≠ (given.name ++ (given.behindName ++ rest)).length := by
      have filled := List.length_pos_iff.mpr nameless
      rw [@List.length_append Char given.name]
      omega
    rw [if_neg nameless, if_neg longer]

/-! ### Attributes, known and unknown -/

theorem afterAttribute?_known (known : given.IsKnown) (flat : given.IsFlat) (rest : Text) :
    afterAttribute? (given.text ++ rest) = some (given.gap ++ rest) := by
  unfold IsKnown at known
  cases found : given.argument with
  | none =>
      rw [found] at known
      obtain ⟨blank, noParenthesis⟩ := @head?_blanks_append given.gap rest given.apart given.blank
      cases marked : given.marked with
      | true =>
          rw [marked] at known
          rw [given.afterAttribute?_text_marked marked, if_neg known, given.behindName_of_none found,
            if_neg noParenthesis]
      | false =>
          rw [marked] at known
          have listed : given.name ∈ plainAttributes := known
          have other : given.name ≠ linkageKeyword := ne_of_mem_of_not_mem listed (by decide)
          rw [given.text_unmarked marked, afterAttribute?_other (head?_unmarked marked _)
            (given.firstWord_behindName rest) other, given.behindName_of_none found, if_pos ⟨listed, blank⟩]
  | some argument =>
      rw [found] at known
      have inside := afterArgument?_inside (flat argument found) (given.gap ++ rest)
      cases marked : given.marked with
      | true =>
          rw [marked] at known
          obtain ⟨named, none⟩ := known
          rw [given.afterAttribute?_text_marked marked, if_neg named, given.behindName_of_some found, none,
            List.nil_append, List.head?_cons, if_pos rfl, inside]
      | false =>
          rw [marked] at known
          rw [given.text_unmarked marked, afterAttribute?_linkage (head?_unmarked marked _) known,
            given.behindName_of_some found, Text.trimLeft_blanks_append argument.blank (Text.startsInk_cons rfl),
            inside]

theorem headerOfCode?_known (known : given.IsKnown) (flat : given.IsFlat) (ink : Text.StartsInk rest) :
    headerOfCode? (given.text ++ rest) = headerOfCode? rest :=
  headerOfCode?_passed
    (afterSpacedAttribute?_eq_some (given.afterAttribute?_known known flat rest) given.apart given.blank ink)

theorem headerOfCode?_unread {given : Attribute} (missing : afterAttribute? (given.text ++ rest) = none) :
    headerOfCode? (given.text ++ rest) = none := by
  cases marked : given.marked with
  | true =>
      rw [given.text_marked marked] at missing ⊢
      exact headerOfCode?_noAttribute (Text.firstWord_nil rfl _) (by decide) missing
  | false =>
      have noKeyword : given.name ∉ containerKinds.map ContainerKind.keyword :=
        fun member => (named_unmarked marked).2 (List.mem_append_left _ member)
      rw [given.text_unmarked marked] at missing ⊢
      exact headerOfCode?_noAttribute (given.firstWord_behindName rest) noKeyword missing

theorem headerOfCode?_unknown_marked (marked : given.marked = true) (unknown : ¬given.IsKnown) (rest : Text) :
    headerOfCode? (given.text ++ rest) = none := by
  have passed := given.afterAttribute?_text_marked marked rest
  unfold IsKnown at unknown
  by_cases nameless : given.name = []
  · rw [if_pos nameless] at passed
    exact headerOfCode?_unread passed
  · cases found : given.argument with
    | none =>
        rw [found, marked] at unknown
        exact absurd nameless unknown
    | some argument =>
        rw [found, marked] at unknown
        have apart : argument.blanks ≠ [] := fun none => unknown ⟨nameless, none⟩
        rw [if_neg nameless, given.behindName_of_some found, if_neg (head?_blanks_append apart argument.blank).2]
          at passed
        exact headerOfCode?_argumentApart passed apart argument.blank

theorem headerOfCode?_unknown_unmarked (unmarked : given.marked = false) (unknown : ¬given.IsKnown)
    (ink : Text.StartsInk rest) (noParenthesis : rest.head? ≠ some '(') :
    headerOfCode? (given.text ++ rest) = none := by
  have noMark := head?_unmarked unmarked (given.behindName ++ rest)
  unfold IsKnown at unknown
  by_cases linkage : given.name = linkageKeyword
  · have passed := afterAttribute?_linkage noMark linkage
    cases found : given.argument with
    | none =>
        rw [← given.text_unmarked unmarked, given.behindName_of_none found,
          Text.trimLeft_blanks_append given.blank ink, afterArgument?_eq_none noParenthesis] at passed
        exact headerOfCode?_unread passed
    | some argument =>
        rw [found, unmarked] at unknown
        exact absurd linkage unknown
  · have passed := afterAttribute?_other noMark (given.firstWord_behindName rest) linkage
    rw [← given.text_unmarked unmarked] at passed
    by_cases spaced : given.name ∈ plainAttributes ∧ ((given.behindName ++ rest).head?.map isBlank).getD false = true
    · rw [if_pos spaced] at passed
      cases found : given.argument with
      | none =>
          rw [found, unmarked] at unknown
          exact absurd spaced.1 unknown
      | some argument =>
          rw [given.behindName_of_some found] at passed spaced
          have apart : argument.blanks ≠ [] := by
            intro none
            rw [none] at spaced
            have blank : isBlank '(' = true := spaced.2
            exact absurd blank (by decide)
          exact headerOfCode?_argumentApart passed apart argument.blank
    · rw [if_neg spaced] at passed
      exact headerOfCode?_unread passed

/-- No header is found behind an attribute that is not known, whatever its argument. -/
theorem headerOfCode?_unknown (unknown : ¬given.IsKnown) (ink : Text.StartsInk rest)
    (noParenthesis : rest.head? ≠ some '(') : headerOfCode? (given.text ++ rest) = none := by
  cases marked : given.marked with
  | true => exact given.headerOfCode?_unknown_marked marked unknown rest
  | false => exact given.headerOfCode?_unknown_unmarked marked unknown ink noParenthesis

/-- An attribute begins with a word that leads no declaration and no statement, if it begins with a word at all. -/
theorem exists_firstWord (rest : Text) :
    ∃ word tail, given.text ++ rest = word ++ tail ∧ Text.FirstWord word tail ∧ word ∉ leadingKeywords := by
  cases marked : given.marked with
  | true => exact ⟨[], _, given.text_marked marked rest, Text.firstWord_nil rfl _, by decide⟩
  | false =>
      exact ⟨_, _, given.text_unmarked marked rest, given.firstWord_behindName rest, (named_unmarked marked).2⟩

theorem isImport_text (ink : Text.StartsInk rest) (noImport : isImport rest = false) :
    isImport (given.text ++ rest) = false := by
  have unled {character : Char} (outside : isWordChar character = false) (text : Text) :
      isImport (character :: text) = false :=
    isImport_firstWord (Text.firstWord_nil outside text) (by decide) fun listed => absurd listed (by decide)
  cases marked : given.marked with
  | true =>
      rw [given.text_marked marked]
      exact unled rfl _
  | false =>
      have other : given.name ≠ "import".toList := by
        intro same
        refine (named_unmarked marked).2 ?_
        rw [same]
        decide
      rw [given.text_unmarked marked]
      refine isImport_firstWord (given.firstWord_behindName rest) other fun _ => ?_
      cases found : given.argument with
      | none => rw [given.behindName_of_none found, Text.trimLeft_blanks_append given.blank ink, noImport]
      | some argument =>
          rw [given.behindName_of_some found, Text.trimLeft_blanks_append argument.blank (Text.startsInk_cons rfl)]
          exact unled rfl _

end Attribute

/-! ### Lists of attributes -/

theorem Attribute.standsApart (given : Attribute) (rest : Text) : StandsApart (given.text ++ rest) := by
  cases marked : given.marked with
  | true =>
      rw [given.text_marked marked]
      exact ⟨Text.startsInk_cons rfl, fun same => absurd (Option.some.inj same) (by decide),
        fun same => absurd (Option.some.inj same) (by decide)⟩
  | false =>
      obtain ⟨character, others, word, letter⟩ := Attribute.exists_letter marked
      rw [given.text_unmarked marked, word]
      exact standsApart_letter letter _

section Lists

variable {attributes : List Attribute} {rest : Text} (apart : StandsApart rest)

include apart

theorem standsApart_attributes : StandsApart (attributes.flatMap Attribute.text ++ rest) := by
  cases attributes with
  | nil => exact apart
  | cons given others =>
      rw [List.flatMap_cons, List.append_assoc]
      exact given.standsApart _

/-- Attributes without closed parentheses inside are passed over if all are known, and otherwise hide the header. -/
theorem headerOfCode?_attributes (flat : ∀ given ∈ attributes, given.IsFlat) :
    headerOfCode? (attributes.flatMap Attribute.text ++ rest) =
      if ∀ given ∈ attributes, given.IsKnown then headerOfCode? rest else none := by
  induction attributes with
  | nil => rw [if_pos nofun, List.flatMap_nil, List.nil_append]
  | cons given others ih =>
      have further := ih fun other member => flat other (List.mem_cons_of_mem given member)
      obtain ⟨ink, noParenthesis, _⟩ := @standsApart_attributes others rest apart
      rw [List.flatMap_cons, List.append_assoc]
      by_cases known : given.IsKnown
      · rw [given.headerOfCode?_known known (flat given List.mem_cons_self) ink, further]
        simp only [List.forall_mem_cons, known, true_and]
      · rw [given.headerOfCode?_unknown known ink noParenthesis, if_neg]
        exact fun all => known (all given List.mem_cons_self)

theorem isImport_attributes (noImport : isImport rest = false) :
    isImport (attributes.flatMap Attribute.text ++ rest) = false := by
  induction attributes with
  | nil => exact noImport
  | cons given others ih =>
      rw [List.flatMap_cons, List.append_assoc]
      exact given.isImport_text (standsApart_attributes apart).ink ih

end Lists

/-- Behind attributes or alone, the keyword of enums leads neither a module declaration nor a skipped block. -/
theorem exists_firstWord_enum (attributes : List Attribute) {rest : Text} (ends : Text.EndsWord rest) :
    ∃ word tail, attributes.flatMap Attribute.text ++ ("enum".toList ++ rest) = word ++ tail ∧
      Text.FirstWord word tail ∧ word ∉ ["module", "unittest", "invariant"].map String.toList := by
  cases attributes with
  | nil => exact ⟨_, rest, rfl, ⟨List.all_eq_true.mp rfl, ends⟩, by decide⟩
  | cons given others =>
      rw [List.flatMap_cons, List.append_assoc]
      obtain ⟨word, tail, split, first, other⟩ := given.exists_firstWord
        (others.flatMap Attribute.text ++ ("enum".toList ++ rest))
      refine ⟨word, tail, split, first, fun member => other ?_⟩
      have listed : ∀ keyword ∈ ["module", "unittest", "invariant"].map String.toList, keyword ∈ leadingKeywords := by
        decide
      exact listed word member

end DocSite
