/-
The prose of a comment.

Prose is trimmed by dropping the empty lines at its ends, and a line of a comment is cleaned of its blanks and of
a run of stars and plus signs at its start. Neither of them touches a slash, so the slashes of a comment tell
apart what was taken for prose and what was taken for a mark.
-/
import DocSite.Proofs.Canonical.Bodies
import DocSite.Proofs.Source.Segments
import DocSite.Proofs.Text.Occurrences

namespace DocSite

/-! ### Empty lines -/

structure WithoutEmptyEnds (lines kept : List Text) : Prop where
  parts : ∃ leading trailing, lines = leading ++ (kept ++ trailing) ∧
    (∀ line ∈ leading, line = []) ∧ ∀ line ∈ trailing, line = []
  starts : kept.head? ≠ some []
  ends : kept.getLast? ≠ some []

theorem trimEmptyLines_eq (lines : List Text) :
    trimEmptyLines lines = (lines.dropWhile List.isEmpty).rdropWhile List.isEmpty := rfl

theorem withoutEmptyEnds_trimEmptyLines (lines : List Text) :
    WithoutEmptyEnds lines (trimEmptyLines lines) := by
  have filled {line : Text} (same : line = []) : line.isEmpty = true := List.isEmpty_iff.mpr same
  refine ⟨⟨lines.takeWhile List.isEmpty, (lines.dropWhile List.isEmpty).rtakeWhile List.isEmpty, ?_, ?_, ?_⟩,
    ?_, ?_⟩
  · rw [trimEmptyLines_eq, List.rdropWhile_append_rtakeWhile, List.takeWhile_append_dropWhile]
  · exact fun line member => List.isEmpty_iff.mp (List.mem_takeWhile_imp member)
  · intro line member
    exact List.isEmpty_iff.mp (List.mem_takeWhile_imp (List.mem_reverse.mp member))
  · intro first
    have isStart : trimEmptyLines lines <+: lines.dropWhile List.isEmpty :=
      List.rdropWhile_prefix List.isEmpty (lines.dropWhile List.isEmpty)
    obtain ⟨others, begins⟩ := List.head?_eq_some_iff.mp first
    obtain ⟨more, whole⟩ := isStart
    have dropped := List.head?_dropWhile_not List.isEmpty lines
    rw [← whole, begins] at dropped
    cases dropped
  · intro last
    obtain ⟨others, ends⟩ := List.getLast?_eq_some_iff.mp last
    have kept : trimEmptyLines lines ≠ [] := by
      rw [ends]
      exact List.append_ne_nil_of_right_ne_nil others (List.cons_ne_nil [] [])
    have dropped := List.rdropWhile_last_not List.isEmpty (lines.dropWhile List.isEmpty) kept
    apply dropped
    apply filled
    have same := List.getLast?_eq_some_getLast kept
    rw [last] at same
    exact (Option.some.inj same).symm

theorem trimEmptyLines_trimEmptyLines (lines : List Text) :
    trimEmptyLines (trimEmptyLines lines) = trimEmptyLines lines :=
  have trimmed := withoutEmptyEnds_trimEmptyLines lines
  Canonical.trimEmptyLines_eq_self trimmed.starts trimmed.ends

theorem trimEmptyLines_cons_nil (lines : List Text) : trimEmptyLines ([] :: lines) = trimEmptyLines lines := by
  rw [trimEmptyLines_eq, List.dropWhile_cons_of_pos rfl, ← trimEmptyLines_eq]

theorem trimEmptyLines_concat_nil (lines : List Text) :
    trimEmptyLines (lines ++ [[]]) = trimEmptyLines lines := by
  rw [trimEmptyLines_eq, trimEmptyLines_eq, List.dropWhile_append]
  by_cases nothing : (lines.dropWhile List.isEmpty).isEmpty = true
  · rw [if_pos nothing, List.isEmpty_iff.mp nothing]
    rfl
  · rw [if_neg nothing, List.rdropWhile_concat_pos List.isEmpty _ _ rfl]

/-! ### Slashes -/

theorem count_dropWhile_of_kept {kept : Char} {dropped : Char → Bool} (isKept : dropped kept = false)
    (text : Text) : (text.dropWhile dropped).count kept = text.count kept := by
  have gone : (text.takeWhile dropped).count kept = 0 := by
    apply List.count_eq_zero_of_not_mem
    intro member
    rw [List.mem_takeWhile_imp member] at isKept
    cases isKept
  rw [← @List.takeWhile_append_dropWhile Char dropped text, List.count_append, gone, Nat.zero_add,
    List.takeWhile_append_dropWhile]

theorem count_slash_cleanCommentLine (text : Text) : (cleanCommentLine text).count '/' = text.count '/' := by
  have slash : isBlank '/' = false := rfl
  unfold cleanCommentLine
  rw [Text.count_trim slash, count_dropWhile_of_kept rfl, Text.count_trim slash]

theorem flatten_trimEmptyLines (lines : List Text) : (trimEmptyLines lines).flatten = lines.flatten := by
  obtain ⟨leading, trailing, whole, empty, emptyToo⟩ := (withoutEmptyEnds_trimEmptyLines lines).parts
  conv_rhs => rw [whole]
  rw [List.flatten_append, List.flatten_append, List.flatten_eq_nil_iff.mpr empty,
    List.flatten_eq_nil_iff.mpr emptyToo, List.append_nil, List.nil_append]

/-- The prose of lines has exactly the slashes of the lines. -/
theorem count_slash_prose (lines : List Text) :
    (trimEmptyLines (lines.map cleanCommentLine)).flatten.count '/' = lines.flatten.count '/' := by
  rw [flatten_trimEmptyLines]
  induction lines with
  | nil => rfl
  | cons line lines ih =>
      rw [List.map_cons, List.flatten_cons, List.flatten_cons, List.count_append, List.count_append, ih,
        count_slash_cleanCommentLine]

/-! ### Blocks, one line at a time -/

section Blocks

variable {body : Text} {lines : List Line}

theorem blockParagraphs_closed {parts : Text × Text} (found : Text.cut? "*/".toList body = some parts) :
    blockParagraphs body lines = ([cleanCommentLine parts.1], lines) := by
  unfold blockParagraphs
  rw [found]

theorem blockParagraphs_open (missing : Text.cut? "*/".toList body = none) (next : Line) :
    blockParagraphs body (next :: lines) =
      (cleanCommentLine body :: (blockParagraphs next.text lines).1, (blockParagraphs next.text lines).2) := by
  rw [blockParagraphs, missing]

theorem nestedParagraphs_closed {depth : Int} (closed : depth ≤ 0) :
    nestedParagraphs depth body lines = ([cleanCommentLine (dropNestingCloser body)], lines) := by
  unfold nestedParagraphs
  rw [if_pos closed]

theorem nestedParagraphs_end {depth : Int} (deep : 0 < depth) :
    nestedParagraphs depth body [] = ([cleanCommentLine body], []) := by
  unfold nestedParagraphs
  rw [if_neg (Int.not_le.mpr deep)]

theorem nestedParagraphs_open {depth : Int} (deep : 0 < depth) (next : Line) :
    nestedParagraphs depth body (next :: lines) =
      (cleanCommentLine body :: (nestedParagraphs (depth + nestingDelta next.text) next.text lines).1,
        (nestedParagraphs (depth + nestingDelta next.text) next.text lines).2) := by
  rw [nestedParagraphs, if_neg (Int.not_le.mpr deep)]

end Blocks

end DocSite
