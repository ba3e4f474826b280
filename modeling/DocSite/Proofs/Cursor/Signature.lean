/-
Signatures by position.

The parameter list of a signature is cut out of the code by the positions of its parentheses. The closer
is looked for only where an opening parenthesis stands; anywhere else is a fault.
-/
import DocSite.Proofs.Cursor.Basic
import DocSite.Signature.Parse

namespace DocSite
namespace Cursor

def closerAt (code : Text) (position : Nat) : Scan (Option Nat) :=
  if code[position]? = some '(' then
    match findClosing code position with
    | .ok closer => .ok closer
    | .error _ => .error (.noParenthesis position)
  else .error (.noParenthesis position)

def positionOf? (wanted : Char) (code : Text) (start : Nat) : Option Nat :=
  (Text.cutAt? wanted (code.drop start)).map fun parts => start + parts.1.length

def slice (code : Text) (start stop : Nat) : Text :=
  (code.take stop).drop start

def parametersAt (code : Text) (paren : Nat) : Scan (Option Text) := do
  match ← closerAt code paren with
  | none => return (positionOf? ')' code paren).map (slice code (paren + 1))
  | some close =>
      let rest := code.drop (close + 1)
      if Text.beginsWith ['('] (Text.trimLeft rest) then
        let second := close + 1 + (rest.length - (Text.trimLeft rest).length)
        match ← closerAt code second with
        | some secondClose => return some (slice code (second + 1) secondClose)
        | none => return some (slice code (paren + 1) close)
      else return some (slice code (paren + 1) close)

def functionAt (line : Text) (comments : List Text) (number : Int) : Scan (Option FunctionDoc) := do
  let code := codeOf (Text.trim line)
  match parameterParen? code with
  | none => return none
  | some paren =>
      match ← parametersAt code paren with
      | none => return none
      | some parameters =>
          return (nameAndType? (Text.words (code.take paren))).map fun named =>
            { name := named.1
              returnType := named.2
              parameters := (splitTopLevelAt ',' parameters).filter fun piece => !piece.isEmpty
              comments := comments
              line := number
              isPrivate := isPrivateDeclaration code }

/-! ### Positions of parts -/

theorem eq_of_cutAt? {wanted : Char} {text : Text} {parts : Text × Text}
    (found : Text.cutAt? wanted text = some parts) : text = parts.1 ++ wanted :: parts.2 := by
  induction text generalizing parts with
  | nil => cases found
  | cons character rest ih =>
      unfold Text.cutAt? at found
      split at found
      · rename_i same
        cases found
        rw [same]
        rfl
      · obtain ⟨inner, cut, equal⟩ := Option.map_eq_some_iff.mp found
        cases equal
        exact congrArg (List.cons character) (ih cut)

theorem eq_of_cutAtCloser? {opener closer : Char} {quotation : Quotation} {depth : Nat}
    {text : Text} {parts : Text × Text}
    (found : cutAtCloser? opener closer quotation depth text = some parts) :
    text = parts.1 ++ closer :: parts.2 := by
  induction text generalizing quotation depth parts with
  | nil => cases found
  | cons character rest ih =>
      have kept {depth : Nat} (further : ((cutAtCloser? opener closer
          (quotation.step character) depth rest).map fun parts =>
            (character :: parts.1, parts.2)) = some parts) :
          character :: rest = parts.1 ++ closer :: parts.2 := by
        obtain ⟨inner, cut, equal⟩ := Option.map_eq_some_iff.mp further
        cases equal
        exact congrArg (List.cons character) (ih cut)
      unfold cutAtCloser? at found
      dsimp only at found
      split at found
      · exact kept found
      · split at found
        · exact kept found
        · split at found
          · rename_i same
            split at found
            · cases found
              rw [same]
              rfl
            · exact kept found
          · exact kept found

/-- The parameter list opens at a parenthesis, and the cut gives what stands on its two sides. -/
theorem eq_of_cutAtParameters? {code : Text} {parts : Text × Text}
    (found : cutAtParameters? code = some parts) : code = parts.1 ++ '(' :: parts.2 := by
  unfold cutAtParameters? at found
  split at found
  · cases found
  · rename_i before afterFirst first
    have whole := eq_of_cutAt? first
    dsimp only at found whole
    split at found
    · cases found
      exact whole
    · split at found
      · split at found
        · cases found
          exact whole
        · rename_i argument behind closed
          obtain ⟨inner, cut, equal⟩ := Option.map_eq_some_iff.mp found
          have middle := eq_of_cutAt? closed
          have last := eq_of_cutAt? cut
          cases equal
          dsimp only at middle last ⊢
          rw [whole, middle, last]
          simp only [List.append_assoc, List.cons_append]
      · cases found
        exact whole

theorem drop_behind (before : Text) (character : Char) (rest : Text) :
    (before ++ character :: rest).drop (before.length + 1) = rest := by
  rw [← List.drop_drop, List.drop_left]
  rfl

theorem slice_middle (before inside rest : Text) :
    slice (before ++ (inside ++ rest)) before.length (before.length + inside.length) = inside := by
  unfold slice
  rw [List.drop_take, Nat.add_sub_cancel_left, List.drop_left, List.take_left]

theorem slice_behind (before : Text) (character : Char) (inside rest : Text) :
    slice (before ++ character :: (inside ++ rest)) (before.length + 1)
      (before.length + 1 + inside.length) = inside := by
  have middle := slice_middle (before ++ [character]) inside rest
  rwa [List.append_assoc, List.length_append] at middle

theorem slice_self (code : Text) (position : Nat) : slice code position position = [] :=
  List.drop_eq_nil_of_le (List.length_take_le _ _)

/-- Code from a position on, in front of a later position and behind it. -/
theorem slice_append_drop (code : Text) {start middle : Nat} (order : start ≤ middle) :
    slice code start middle ++ code.drop middle = code.drop start := by
  have parts := List.take_append_drop (middle - start) (code.drop start)
  rwa [List.drop_drop, Nat.add_sub_cancel' order, ← List.drop_take] at parts

theorem slice_append_slice (code : Text) {start middle stop : Nat} (order : start ≤ middle)
    (orderToo : middle ≤ stop) : slice code start middle ++ slice code middle stop = slice code start stop := by
  have front : slice code start middle = slice (code.take stop) start middle := by
    unfold slice
    rw [List.take_take, Nat.min_eq_left orderToo]
  rw [front]
  exact slice_append_drop (code.take stop) order

theorem positionOf?_paren (before after : Text) :
    positionOf? ')' (before ++ '(' :: after) before.length =
      (Text.cutAt? ')' after).map fun parts => before.length + 1 + parts.1.length := by
  have notCloser : ¬('(' : Char) = ')' := by decide
  unfold positionOf?
  rw [List.drop_left, Text.cutAt?, if_neg notCloser, Option.map_map]
  congr 1
  funext parts
  simp only [Function.comp_apply, List.length_cons]
  omega

/-! ### Agreement -/

theorem closerAt_eq_ok (before after : Text) :
    closerAt (before ++ '(' :: after) before.length =
      .ok ((cutParenthesis? after).map fun parts => before.length + 1 + parts.1.length) := by
  have opens : (before ++ '(' :: after)[before.length]? = some '(' := by
    rw [List.getElem?_append_right (Nat.le_refl _), Nat.sub_self]
    rfl
  have dropped : (before ++ '(' :: after).drop before.length = '(' :: after := List.drop_left
  unfold closerAt findClosing
  rw [if_pos opens, dropped]
  rfl

/-- The closers of a parameter list are looked for at parentheses only. -/
theorem parametersAt_eq_ok (before after : Text) :
    parametersAt (before ++ '(' :: after) before.length = .ok (parameterText? after) := by
  unfold parametersAt parameterText?
  rw [closerAt_eq_ok]
  cases closed : cutParenthesis? after with
  | none =>
      simp only [Option.map_none, bind, Except.bind, pure, Except.pure, positionOf?_paren,
        Option.map_map]
      cases cut : Text.cutAt? ')' after with
      | none => rfl
      | some parts =>
          have whole := eq_of_cutAt? cut
          simp only [Option.map_some, Function.comp_apply]
          rw [whole, slice_behind]
  | some parts =>
      obtain ⟨inside, rest⟩ := parts
      have whole : after = inside ++ ')' :: rest := eq_of_cutAtCloser? closed
      have first : slice (before ++ '(' :: after) (before.length + 1)
          (before.length + 1 + inside.length) = inside := by
        rw [whole, slice_behind]
      have remains :
          (before ++ '(' :: after).drop (before.length + 1 + inside.length + 1) = rest := by
        rw [whole, ← List.drop_drop, ← List.drop_drop, drop_behind, List.drop_left]
        rfl
      simp only [Option.map_some, bind, Except.bind, pure, Except.pure, remains, first]
      cases trimmed : Text.trimLeft rest with
      | nil => rfl
      | cons character second =>
          by_cases opens : character = '('
          · subst opens
            -- The second parenthesis stands behind the closer of the first one and some blanks.
            obtain ⟨blanks, split⟩ : ∃ blanks, rest = blanks ++ '(' :: second :=
              ⟨rest.takeWhile isBlank, by
                rw [← trimmed]
                exact List.takeWhile_append_dropWhile.symm⟩
            have place : before.length + 1 + inside.length + 1 +
                (rest.length - ('(' :: second).length) =
                  (before ++ '(' :: (inside ++ ')' :: blanks)).length := by
              rw [split]
              simp only [List.length_append, List.length_cons]
              omega
            have code : before ++ '(' :: after =
                (before ++ '(' :: (inside ++ ')' :: blanks)) ++ '(' :: second := by
              rw [whole, split]
              simp only [List.append_assoc, List.cons_append]
            rw [if_pos (by rfl), place, code, closerAt_eq_ok]
            cases closedAgain : cutParenthesis? second with
            | none => simp only [Option.map_none, closedAgain]
            | some parts =>
                have inner : second = parts.1 ++ ')' :: parts.2 := eq_of_cutAtCloser? closedAgain
                simp only [Option.map_some, closedAgain]
                rw [inner, slice_behind]
          · have silent : Text.beginsWith ['('] (character :: second) = false := by
              simp only [Text.beginsWith, Text.afterPrefix?, if_neg (Ne.symm opens),
                Option.isSome_none]
            rw [silent]
            simp only [Bool.false_eq_true, if_false]
            split
            · rename_i same
              exact absurd (List.cons.inj same).1 opens
            · rfl

theorem functionAt_eq_ok (line : Text) (comments : List Text) (number : Int) :
    functionAt line comments number = .ok (parseFunction? line comments number) := by
  unfold functionAt parseFunction? parseSignature? parameterParen?
  dsimp only
  cases cut : cutAtParameters? (codeOf (Text.trim line)) with
  | none => rfl
  | some parts =>
      have whole := eq_of_cutAtParameters? cut
      have found : parametersAt (codeOf (Text.trim line)) parts.1.length =
          .ok (parameterText? parts.2) := by
        rw [whole]
        exact parametersAt_eq_ok parts.1 parts.2
      have taken : (codeOf (Text.trim line)).take parts.1.length = parts.1 := by
        rw [whole, List.take_left]
      simp only [Option.map_some, found, bind, Except.bind, taken]
      cases parameterText? parts.2 <;> rfl

end Cursor
end DocSite
