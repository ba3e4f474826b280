/-
The decision of the checks.

The check for constructors can only accept, and the checks for parentheses, statements and assignments can only
reject. So an accepted line has its parentheses, and it is a constructor or none of the other checks has had
anything against it. What the checks see of a line are words, which end where no word character follows.
-/
import DocSite.Signature.Checks
import DocSite.Proofs.Text.Words
import Mathlib.Tactic.SplitIfs

namespace DocSite

section Verdicts

variable (code : Text)

theorem checkParentheses_ne_true : checkParentheses code ≠ some true := by
  intro accepts
  unfold checkParentheses at accepts
  split at accepts
  · split at accepts <;> cases accepts
  · cases accepts

theorem checkConstructor_ne_false : checkConstructor code ≠ some false := by
  intro rejects
  unfold checkConstructor at rejects
  split at rejects <;> cases rejects

theorem checkControlFlow_ne_true : checkControlFlow code ≠ some true := by
  intro accepts
  unfold checkControlFlow at accepts
  split at accepts
  · cases accepts
  · dsimp only at accepts
    split_ifs at accepts <;> cases accepts

theorem checkAssignment_ne_true : checkAssignment code ≠ some true := by
  intro accepts
  unfold checkAssignment at accepts
  split at accepts
  · cases accepts
  · split at accepts
    · split at accepts
      · split at accepts <;> cases accepts
      · cases accepts
    · cases accepts

end Verdicts

/-- What accepted code has passed. -/
theorem isSignatureCode_iff {code : Text} :
    isSignatureCode code = true ↔ checkParentheses code = none ∧
      (checkConstructor code = some true ∨ checkConstructor code = none ∧ checkControlFlow code = none ∧
        checkAssignment code = none ∧ checkSignatureShape code = some true) := by
  have parentheses := checkParentheses_ne_true code
  have constructor := checkConstructor_ne_false code
  have control := checkControlFlow_ne_true code
  have assignment := checkAssignment_ne_true code
  unfold isSignatureCode signatureChecks
  simp only [List.findSome?_cons, List.findSome?_nil]
  generalize checkParentheses code = first at *
  generalize checkConstructor code = second at *
  generalize checkControlFlow code = third at *
  generalize checkAssignment code = fourth at *
  rcases first with _ | _ | _
  · rcases second with _ | _ | _
    · rcases third with _ | _ | _
      · rcases fourth with _ | _ | _
        · rcases checkSignatureShape code with _ | _ | _ <;> simp
        · simp
        · exact absurd rfl assignment
      · simp
      · exact absurd rfl control
    · exact absurd rfl constructor
    · simp
  · simp
  · exact absurd rfl parentheses

/-- The first parenthesis of accepted code has a closer behind it. -/
theorem exists_parentheses_of_accepted {code : Text} (accepted : isSignatureCode code = true) :
    ∃ before rest, Text.cutAt? '(' code = some (before, rest) ∧ ')' ∈ rest := by
  have silent := (isSignatureCode_iff.mp accepted).1
  unfold checkParentheses at silent
  split at silent
  · rename_i before rest cut
    refine ⟨before, rest, cut, ?_⟩
    split at silent
    · rename_i closes
      exact List.contains_iff_mem.mp closes
    · cases silent
  · cases silent

/-! ### Words -/

/-- A word is read up to its end. -/
theorem leadingWord?_append {word rest : Text} (starts : Text.startsName word = true)
    (letters : ∀ character ∈ word, isWordChar character = true) (ends : Text.EndsWord rest) :
    leadingWord? (word ++ rest) = some (word, rest) := by
  have startsHere : Text.startsName (word ++ rest) = true := by
    cases word with
    | nil => cases starts
    | cons character others => exact starts
  have first : Text.FirstWord word rest := ⟨letters, ends⟩
  unfold leadingWord?
  rw [if_pos startsHere, first.takeWhile_eq, first.dropWhile_eq]

theorem dropTypeSuffix_word {word : Text} (isWord : Text.IsWord word) : dropTypeSuffix word = word := by
  have kept : dropTypeSuffix.dropReversed word.reverse = word.reverse := by
    unfold dropTypeSuffix.dropReversed
    split
    · rename_i rest equal
      have star := isWord.names '*' (List.mem_reverse.mp (by rw [equal]; exact List.mem_cons_self))
      cases star
    · rename_i rest equal
      have bracket := isWord.names ']' (List.mem_reverse.mp (by rw [equal]; exact List.mem_cons_self))
      cases bracket
    · rfl
  unfold dropTypeSuffix
  rw [kept, List.reverse_reverse]

/-- Two identifiers have the shape of a signature. -/
theorem shapeOfPair_identifiers {type name : Text} (typed : Text.isIdentifier type = true)
    (named : Text.isIdentifier name = true) : shapeOfPair type name = true := by
  unfold shapeOfPair
  rw [dropTypeSuffix_word (Text.isWord_of_isIdentifier typed)]
  dsimp only
  rw [named, typed]
  cases signatureKeywords.contains type with
  | true => rfl
  | false => rw [Bool.not_false, Bool.true_and, Bool.or_true]

end DocSite
