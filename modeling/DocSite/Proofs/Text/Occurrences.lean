/-
Occurrences of a phrase.

A cut at a phrase is made at its first occurrence, and it is made if there is one. A phrase without blanks that
occurs in a text with blanks inside occurs in front of these blanks or behind them.
-/
import DocSite.Proofs.Text.Pieces

namespace DocSite
namespace Text

variable {phrase text : Text}

theorem afterPrefix?_eq_none_iff : afterPrefix? phrase text = none ↔ ¬phrase <+: text := by
  constructor
  · rintro missing ⟨rest, whole⟩
    rw [← whole, afterPrefix?_append] at missing
    cases missing
  · intro absent
    cases found : afterPrefix? phrase text with
    | none => rfl
    | some rest => exact absurd ⟨rest, (eq_append_of_afterPrefix? found).symm⟩ absent

theorem cut?_eq_none_iff : cut? phrase text = none ↔ ¬phrase <:+: text := by
  induction text with
  | nil =>
      rw [cut?, Option.map_eq_none_iff, afterPrefix?_eq_none_iff, List.prefix_nil, List.infix_nil]
  | cons character rest ih =>
      rw [cut?_cons_eq_none, afterPrefix?_eq_none_iff, ih, List.infix_cons_iff, not_or]

theorem includes_iff : includes phrase text = true ↔ phrase <:+: text := by
  unfold includes
  rw [Option.isSome_iff_ne_none, ne_eq, cut?_eq_none_iff, not_not]

/-- No occurrence ends in front of the one at which a text is cut. -/
theorem not_infix_of_cut? {before behind : Text} (filled : phrase ≠ [])
    (found : cut? phrase text = some (before, behind)) : ¬phrase <:+: (before ++ phrase).dropLast := by
  induction text generalizing before with
  | nil =>
      obtain ⟨_, here, _⟩ := Option.map_eq_some_iff.mp found
      have whole := eq_append_of_afterPrefix? here
      exact absurd (List.append_eq_nil_iff.mp whole.symm).1 filled
  | cons character rest ih =>
      rw [cut?] at found
      cases here : afterPrefix? phrase (character :: rest) with
      | some after =>
          rw [here] at found
          cases found
          intro inside
          -- The phrase is longer than itself without its last character.
          have lengths := inside.length_le
          have filledLength := List.length_pos_iff.mpr filled
          rw [List.nil_append, List.length_dropLast] at lengths
          omega
      | none =>
          rw [here] at found
          obtain ⟨⟨front, others⟩, further, equal⟩ := Option.map_eq_some_iff.mp found
          cases equal
          rw [List.cons_append, List.dropLast_cons_of_ne_nil (List.append_ne_nil_of_right_ne_nil front filled),
            List.infix_cons_iff, not_or]
          refine ⟨?_, ih further⟩
          intro starts
          have begins : (front ++ phrase).dropLast <+: rest := by
            have whole := eq_of_cut? further
            rw [whole, ← List.append_assoc]
            exact (List.dropLast_prefix _).trans (List.prefix_append _ _)
          exact afterPrefix?_eq_none_iff.mp here (starts.trans ((List.prefix_cons_inj character).mpr begins))

section Blanks

variable {front rest blanks : Text} (noBlank : ∀ character ∈ phrase, isBlank character = false)

include noBlank

theorem not_mem_of_isBlank {blank : Char} (isBlank' : isBlank blank = true) : blank ∉ phrase := by
  intro member
  have contrary := noBlank blank member
  rw [isBlank'] at contrary
  cases contrary

theorem infix_append_blank (filled : phrase ≠ []) {blank : Char} (isBlank' : isBlank blank = true) :
    phrase <:+: front ++ blank :: rest ↔ phrase <:+: front ∨ phrase <:+: rest := by
  have absent := not_mem_of_isBlank noBlank isBlank'
  constructor
  · intro inside
    by_contra neither
    rw [not_or, ← cut?_eq_none_iff, ← cut?_eq_none_iff] at neither
    exact cut?_eq_none_iff.mp (cut?_append_blank filled absent neither.1 neither.2) inside
  · rintro (inFront | behind)
    · exact inFront.trans List.infix_append_left
    · exact behind.trans (behind_isInfix front rest blank)

/-- A phrase without blanks does not reach over blanks. -/
theorem infix_append_blanks (filled : phrase ≠ []) (blank : ∀ character ∈ blanks, isBlank character = true)
    (separated : blanks ≠ []) : phrase <:+: front ++ (blanks ++ rest) ↔ phrase <:+: front ∨ phrase <:+: rest := by
  induction blanks generalizing front with
  | nil => exact absurd rfl separated
  | cons character others ih =>
      have further := fun other member => blank other (List.mem_cons_of_mem character member)
      rw [List.cons_append, infix_append_blank noBlank filled (blank character List.mem_cons_self)]
      cases others with
      | nil => rfl
      | cons next tail =>
          have alone : phrase <:+: [] ++ (next :: tail ++ rest) ↔ phrase <:+: [] ∨ phrase <:+: rest :=
            ih further (List.cons_ne_nil next tail)
          rw [List.nil_append, List.infix_nil, or_iff_right filled] at alone
          rw [alone]

/-- A phrase without blanks that ends a text stands behind every blank of the text. -/
theorem suffix_append_blank {blank : Char} (isBlank' : isBlank blank = true) :
    phrase <:+ front ++ blank :: rest ↔ phrase <:+ rest := by
  have absent := not_mem_of_isBlank noBlank isBlank'
  constructor
  · intro ends
    rcases List.suffix_or_suffix_of_suffix ends (List.suffix_append front (blank :: rest)) with inside | longer
    · rcases List.suffix_cons_iff.mp inside with whole | behind
      · rw [whole] at absent
        exact absurd List.mem_cons_self absent
      · exact behind
    · exact absurd (longer.mem List.mem_cons_self) absent
  · exact fun ends => ends.trans ((List.suffix_cons blank rest).trans (List.suffix_append front _))

theorem suffix_append_blanks (blank : ∀ character ∈ blanks, isBlank character = true) (separated : blanks ≠ []) :
    phrase <:+ front ++ (blanks ++ rest) ↔ phrase <:+ rest := by
  rcases List.eq_nil_or_concat blanks with none | ⟨others, last, split⟩
  · exact absurd none separated
  · rw [List.concat_eq_append] at split
    have isBlank' : isBlank last = true := by
      apply blank
      rw [split]
      exact List.mem_append_right others (List.mem_singleton_self last)
    rw [split, List.append_assoc, List.singleton_append, ← List.append_assoc,
      suffix_append_blank noBlank isBlank']

end Blanks

end Text
end DocSite
