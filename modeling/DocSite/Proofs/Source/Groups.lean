/-
Nested text in parentheses.

A closer is found by counting the parentheses alone, and in nested text every parenthesis that opens also closes.
So the closer of a group is the one behind its nested text, and a list of nested texts with commas between them is
taken apart into these texts.
-/
import DocSite.Proofs.Source.Segments
import DocSite.Proofs.Text.Pieces

namespace DocSite

/-! ### Closers -/

/-- A character moves the count of open parentheses as it moves the parentheses that are due. -/
theorem count_parenthesis_dueAfter {due behind : List Char} {character : Char}
    (found : dueAfter? due character = some behind) :
    (character = '(' ∧ behind.count ')' = due.count ')' + 1) ∨
      (character = ')' ∧ due.count ')' = behind.count ')' + 1) ∨
        (character ≠ '(' ∧ character ≠ ')' ∧ behind.count ')' = due.count ')') := by
  unfold dueAfter? at found
  cases opens : closerOf? character with
  | some closer =>
      rw [opens] at found
      cases found
      unfold closerOf? at opens
      split at opens
      · cases opens
        exact .inl ⟨rfl, List.count_cons_self⟩
      · cases opens
        exact .inr (.inr ⟨by decide, by decide, List.count_cons_of_ne (by decide)⟩)
      · cases opens
        exact .inr (.inr ⟨by decide, by decide, List.count_cons_of_ne (by decide)⟩)
      · cases opens
  | none =>
      have noOpener : character ≠ '(' := by
        intro same
        rw [same] at opens
        cases opens
      rw [opens] at found
      dsimp only at found
      by_cases closes : isCloser character = true
      · rw [if_pos closes] at found
        cases due with
        | nil => cases found
        | cons next others =>
            dsimp only at found
            by_cases same : next = character
            · rw [if_pos same] at found
              cases found
              rw [same]
              by_cases round : character = ')'
              · rw [round]
                exact .inr (.inl ⟨rfl, List.count_cons_self⟩)
              · exact .inr (.inr ⟨noOpener, round, (List.count_cons_of_ne round).symm⟩)
            · rw [if_neg same] at found
              cases found
      · rw [if_neg closes] at found
        cases found
        refine .inr (.inr ⟨noOpener, ?_, rfl⟩)
        intro same
        rw [same] at closes
        exact closes rfl

/-- The closer behind a nested text is found, however many parentheses are due in front of it. -/
theorem cutAtCloser?_nested {barred : Char → Bool} {due : List Char} {quotation : Quotation} {text : Text}
    (nested : isNestedFrom barred due quotation text = true) (rest : Text) :
    cutAtCloser? '(' ')' quotation (due.count ')' + 1) (text ++ ')' :: rest) = some (text, rest) := by
  induction text generalizing due quotation with
  | nil =>
      rw [isNestedFrom, Bool.and_eq_true, List.isEmpty_iff, beq_iff_eq] at nested
      rw [nested.1, nested.2]
      rfl
  | cons character text ih =>
      rw [List.cons_append, cutAtCloser?.eq_def]
      dsimp only
      cases quotation with
      | within mark escaped =>
          rw [isNestedFrom_within] at nested
          dsimp only
          rw [ih nested]
          rfl
      | outside =>
          obtain ⟨-, -, behind, found, further⟩ := isNestedFrom_outside nested
          have passed := ih further
          dsimp only
          rcases count_parenthesis_dueAfter found with ⟨opens, more⟩ | ⟨closes, fewer⟩ | ⟨noOpener, noCloser, same⟩
          · rw [if_pos opens, ← more, passed]
            rfl
          · have noOpener : character ≠ '(' := by
              rw [closes]
              decide
            have deeper : ¬due.count ')' + 1 ≤ 1 := by omega
            rw [if_neg noOpener, if_pos closes, if_neg deeper, Nat.add_sub_cancel, fewer, passed]
            rfl
          · rw [if_neg noOpener, if_neg noCloser, ← same, passed]
            rfl

theorem cutParenthesis?_nested {barred : Char → Bool} {text : Text} (nested : isNested barred text = true)
    (rest : Text) : cutParenthesis? (text ++ ')' :: rest) = some (text, rest) :=
  cutAtCloser?_nested nested rest

/-! ### Lists -/

section Lists

variable {barred : Char → Bool} {pieces : List Text} (nested : ∀ piece ∈ pieces, isNested barred piece = true)
include nested

/-- A list of nested texts is nested. -/
theorem isNested_join : isNested unbarred (Text.join [',', ' '] pieces) = true := by
  have separators : ∀ character ∈ [',', ' '], isSilent unbarred character = true :=
    List.forall_mem_cons.mpr ⟨rfl, List.forall_mem_singleton.mpr rfl⟩
  have nothing (character : Char) (bars : unbarred character = true) : barred character = true := by cases bars
  induction pieces with
  | nil => rfl
  | cons piece others ih =>
      have here : isNested unbarred piece = true := isNestedFrom_mono nothing (nested piece List.mem_cons_self)
      have further := ih fun other member => nested other (List.mem_cons_of_mem piece member)
      cases others with
      | nil => exact here
      | cons next more =>
          rw [Text.join_cons_cons]
          exact isNested_append here (isNested_silent_append separators further) (by simp) (by simp)

/-- A list of nested texts is taken apart into these texts. -/
theorem splitTopLevelAt_join (bars : barred ',' = true) (filled : pieces ≠ []) :
    splitTopLevelAt ',' (Text.join [',', ' '] pieces) = pieces.map Text.trim := by
  have spaced (text : Text) : splitTopLevelAt ',' (' ' :: text) = splitTopLevelAt ',' text := by
    rw [← splitTopLevelAt_trim rfl, ← splitTopLevelAt_trim rfl text]
    rfl
  induction pieces with
  | nil => exact absurd rfl filled
  | cons piece others ih =>
      have here := nested piece List.mem_cons_self
      have further := ih fun other member => nested other (List.mem_cons_of_mem piece member)
      cases others with
      | nil => exact splitTopLevelAt_nested bars here
      | cons next more =>
          rw [Text.join_cons_cons, List.cons_append, splitTopLevelAt_nested_append bars rfl here,
            List.singleton_append, spaced, further (List.cons_ne_nil next more)]
          rfl

end Lists

end DocSite
