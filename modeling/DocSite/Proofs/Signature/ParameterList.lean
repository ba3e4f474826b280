/-
Where a parameter list opens.

The first parenthesis of code opens the parameter list, unless the first linkage keyword stands directly in front
of it. Then it opens the argument of the linkage, and the list opens at the next parenthesis behind that
argument. A list is read exactly if some closer stands behind its opener, whatever its literals and brackets
look like.
-/
import DocSite.Proofs.Signature.Parts

namespace DocSite

/-! ### The opener -/

theorem isWord_linkageKeyword : Text.IsWord linkageKeyword :=
  Text.isWord_of_isIdentifier rfl

/-- The first linkage keyword of a text ends it, but for blanks. -/
def Text.EndsLinked (text : Text) : Prop :=
  ∃ before between, Text.cut? linkageKeyword text = some (before, between) ∧ Text.trim between = []

/-- No blanks stand at the end of a text that ends with a word. -/
theorem Text.eq_nil_of_ends_in_ink {front word before between : Text} (filled : word ≠ [])
    (ink : ∀ character ∈ word, isBlank character = false)
    (blank : ∀ character ∈ between, isBlank character = true) (split : front ++ word = before ++ between) :
    between = [] := by
  rcases List.eq_nil_or_concat between with none | ⟨others, last, ends⟩
  · exact none
  · obtain ⟨stem, final, spelled⟩ := (List.eq_nil_or_concat word).resolve_left filled
    rw [List.concat_eq_append] at ends spelled
    have inWord : final ∈ word := by
      rw [spelled]
      exact List.mem_append_right stem (List.mem_singleton_self final)
    have inBetween : last ∈ between := by
      rw [ends]
      exact List.mem_append_right others (List.mem_singleton_self last)
    rw [spelled, ends, ← List.append_assoc, ← List.append_assoc] at split
    have contrary := ink final inWord
    rw [List.singleton_inj.mp (List.append_inj_right' split rfl), blank last inBetween] at contrary
    cases contrary

/-- A text that ends with a word has the keyword of a linkage at its very end. -/
theorem Text.EndsLinked.exists_cut {front word : Text} (linked : (front ++ word).EndsLinked)
    (filled : word ≠ []) (ink : ∀ character ∈ word, isBlank character = false) :
    ∃ before, Text.cut? linkageKeyword (front ++ word) = some (before, []) ∧
      front ++ word = before ++ linkageKeyword := by
  obtain ⟨before, between, found, nothing⟩ := linked
  have split := Text.eq_of_cut? found
  dsimp only at split
  rw [← List.append_assoc] at split
  have none := Text.eq_nil_of_ends_in_ink filled ink (Text.blank_of_trim_eq_nil nothing) split
  rw [none] at found split
  rw [List.append_nil] at split
  exact ⟨before, found, split⟩

section Openers

variable {front rest : Text}

theorem cutAtParameters?_unlinked (first : '(' ∉ front) (unlinked : ¬front.EndsLinked) :
    cutAtParameters? (front ++ '(' :: rest) = some (front, rest) := by
  unfold cutAtParameters?
  rw [Text.cutAt?_append first]
  dsimp only
  cases linkage : Text.cut? linkageKeyword front with
  | none => rfl
  | some parts =>
      have between : (Text.trim parts.2).isEmpty = false := by
        rw [Bool.eq_false_iff]
        exact fun nothing => unlinked ⟨parts.1, parts.2, linkage, List.isEmpty_iff.mp nothing⟩
      simp only [between, Bool.false_eq_true, if_false]

theorem cutAtParameters?_linked (first : '(' ∉ front) (linked : front.EndsLinked) :
    cutAtParameters? (front ++ '(' :: rest) =
      match Text.cutAt? ')' rest with
      | none => some (front, rest)
      | some (argument, behind) =>
          (Text.cutAt? '(' behind).map fun parts => (front ++ '(' :: argument ++ ')' :: parts.1, parts.2) := by
  obtain ⟨before, between, linkage, nothing⟩ := linked
  unfold cutAtParameters?
  rw [Text.cutAt?_append first]
  dsimp only
  rw [linkage]
  dsimp only
  rw [nothing]
  rfl

end Openers

/-- Code whose first parenthesis opens the argument of a linkage. The parameter list opens behind it. -/
structure IsLinkedCode (code front argument behind after : Text) : Prop where
  whole : code = (front ++ '(' :: argument ++ ')' :: behind) ++ '(' :: after
  linked : front.EndsLinked
  first : '(' ∉ front
  closer : ')' ∉ argument
  next : '(' ∉ behind

theorem IsLinkedCode.cutAtParameters? {code front argument behind after : Text}
    (linked : IsLinkedCode code front argument behind after) :
    cutAtParameters? code = some (front ++ '(' :: argument ++ ')' :: behind, after) := by
  have whole : code = front ++ '(' :: (argument ++ ')' :: (behind ++ '(' :: after)) := by
    rw [linked.whole]
    simp only [List.append_assoc, List.cons_append]
  rw [whole, cutAtParameters?_linked linked.first linked.linked, Text.cutAt?_append linked.closer]
  dsimp only
  rw [Text.cutAt?_append linked.next]
  rfl

/-- The opener of a parameter list is the first parenthesis, or it stands behind the argument of a linkage. A
linkage without an argument opens the list after all when nothing closes the parenthesis. -/
theorem cutAtParameters?_cases {code before after : Text}
    (cut : cutAtParameters? code = some (before, after)) :
    ('(' ∉ before ∧ (before.EndsLinked → ')' ∉ after)) ∨
      ∃ front argument behind, IsLinkedCode code front argument behind after ∧
        before = front ++ '(' :: argument ++ ')' :: behind := by
  have opens : '(' ∈ code := by
    rw [Cursor.eq_of_cutAtParameters? cut]
    simp
  obtain ⟨front, rest, whole, first, _⟩ := Text.exists_cutAt?_of_mem opens
  rw [whole] at cut
  by_cases linked : front.EndsLinked
  · rw [cutAtParameters?_linked first linked] at cut
    cases closes : Text.cutAt? ')' rest with
    | none =>
        rw [closes] at cut
        cases cut
        exact .inl ⟨first, fun _ => Text.cutAt?_eq_none_iff.mp closes⟩
    | some parts =>
        obtain ⟨argument, others⟩ := parts
        rw [closes] at cut
        obtain ⟨⟨behind, last⟩, further, equal⟩ := Option.map_eq_some_iff.mp cut
        cases equal
        obtain ⟨inner, closer⟩ := Text.cutAt?_eq_some_iff.mp closes
        obtain ⟨outer, next⟩ := Text.cutAt?_eq_some_iff.mp further
        refine .inr ⟨front, argument, behind, ⟨?_, linked, first, closer, next⟩, rfl⟩
        rw [whole, inner, outer]
        simp only [List.append_assoc, List.cons_append]
  · rw [cutAtParameters?_unlinked first linked] at cut
    cases cut
    exact .inl ⟨first, fun isLinked => absurd isLinked linked⟩

/-! ### The list -/

/-- A parameter list is read unless nothing closes it. -/
theorem parameterText?_eq_none_iff {after : Text} : parameterText? after = none ↔ ')' ∉ after := by
  unfold parameterText?
  cases closed : cutParenthesis? after with
  | none =>
      dsimp only
      rw [Option.map_eq_none_iff, Text.cutAt?_eq_none_iff]
  | some parts =>
      have closes : ')' ∈ after := by
        rw [Cursor.eq_of_cutAtCloser? closed]
        simp
      refine iff_of_false ?_ fun absent => absent closes
      intro unread
      dsimp only at unread
      split at unread
      · split at unread <;> cases unread
      · cases unread

/-- The parameter list of the code is not closed: it opens behind the argument of a linkage, and no closer
stands behind its opener. -/
def Text.LeavesListOpen (code : Text) : Prop :=
  ∃ front argument behind after, IsLinkedCode code front argument behind after ∧ ')' ∉ after

end DocSite
