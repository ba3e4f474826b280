/-
Texts that differ inside literals.

Two texts are alike when they have the same characters outside literals, and inside them characters that lead on to
the same quotation. The reader of pieces does the same with both: it cuts them at the same places into pieces that
are alike, and finds the same closers. To put one idle character in the place of another inside a literal makes a
text that is alike.
-/
import DocSite.Proofs.Source.Positions
import DocSite.Proofs.Source.Segments
import Mathlib.Data.List.Forall2

namespace DocSite

/-- Texts that differ only inside literals and lead from the same quotation to the same quotation. -/
inductive Alike : Quotation → Quotation → Text → Text → Prop
  | nil (quotation : Quotation) : Alike quotation quotation [] []
  | same {start stop : Quotation} {text other : Text} (character : Char)
      (further : Alike (start.step character) stop text other) :
      Alike start stop (character :: text) (character :: other)
  | inside {mark : Char} {escaped : Bool} {stop : Quotation} {text other : Text} (first second : Char)
      (equal : (Quotation.within mark escaped).step first = (Quotation.within mark escaped).step second)
      (further : Alike ((Quotation.within mark escaped).step first) stop text other) :
      Alike (.within mark escaped) stop (first :: text) (second :: other)

def AlikeOutside : Text → Text → Prop :=
  Alike .outside .outside

structure AlikeParts (start stop : Quotation) (parts other : Text × Text) : Prop where
  inside : Alike start .outside parts.1 other.1
  behind : Alike .outside stop parts.2 other.2

theorem trimRight_cons (character : Char) (rest : Text) :
    Text.trimRight (character :: rest) =
      if Text.trimRight rest = [] ∧ isBlank character = true then [] else character :: Text.trimRight rest := by
  unfold Text.trimRight Text.trimRightBy
  rw [List.reverse_cons, List.dropWhile_append]
  by_cases nothing : rest.reverse.dropWhile isBlank = []
  · rw [nothing]
    by_cases blank : isBlank character = true
    · simp [blank]
    · simp [blank]
  · simp [nothing]

namespace Alike

variable {start stop : Quotation} {text other : Text}

theorem length_eq (alike : Alike start stop text other) : text.length = other.length := by
  induction alike with
  | nil => rfl
  | same character _ ih => exact congrArg (· + 1) ih
  | inside first second _ _ ih => exact congrArg (· + 1) ih

theorem refl (start : Quotation) (text : Text) : Alike start (start.after text) text text := by
  induction text generalizing start with
  | nil => exact .nil start
  | cons character rest ih => exact .same character (ih (start.step character))

/-! ### Pieces -/

theorem cons_cases (alike : Alike start stop text other) :
    (text = [] ∧ other = [] ∧ start = stop) ∨
      ∃ first second rest otherRest, text = first :: rest ∧ other = second :: otherRest ∧
        (start = .outside → first = second) ∧ start.step first = start.step second ∧
        Alike (start.step first) stop rest otherRest := by
  cases alike with
  | nil => exact .inl ⟨rfl, rfl, rfl⟩
  | same character further => exact .inr ⟨character, character, _, _, rfl, rfl, fun _ => rfl, rfl, further⟩
  | inside first second equal further => exact .inr ⟨first, second, _, _, rfl, rfl, nofun, equal, further⟩

/-- Alike texts are cut into as many pieces, and the pieces are alike. -/
theorem topLevelSegments {isSeparator : Char → Bool} (alike : Alike start stop text other)
    (closed : stop = .outside) (depth : Nat) :
    ∃ first rest firstOther restOther,
      DocSite.topLevelSegments isSeparator start depth text = first :: rest ∧
      DocSite.topLevelSegments isSeparator start depth other = firstOther :: restOther ∧
      Alike start .outside first firstOther ∧ List.Forall₂ AlikeOutside rest restOther := by
  induction alike generalizing depth with
  | nil quotation => exact ⟨[], [], [], [], rfl, rfl, closed ▸ .nil quotation, .nil⟩
  | @same start stop text other character _ ih =>
      obtain ⟨first, rest, firstOther, restOther, segments, segmentsOther, alikeFirst, alikeRest⟩ :=
        ih closed (Nesting.step ⟨start, depth⟩ character).depth
      rw [← Nesting.quotation_step ⟨start, depth⟩ character] at segments segmentsOther
      have pieces := topLevelSegments_cons isSeparator ⟨start, depth⟩ character text
      have piecesOther := topLevelSegments_cons isSeparator ⟨start, depth⟩ character other
      rw [segments] at pieces
      rw [segmentsOther] at piecesOther
      rcases pieces with ⟨kept, pieces⟩ | ⟨separates, flat, top, pieces⟩
      · obtain ⟨-, piecesOther⟩ := piecesOther.resolve_right fun cut => kept ⟨cut.1, cut.2.1, cut.2.2.1⟩
        exact ⟨_, _, _, _, pieces, piecesOther, .same character alikeFirst, alikeRest⟩
      · obtain ⟨-, -, -, piecesOther⟩ := piecesOther.resolve_left fun kept => kept.1 ⟨separates, flat, top⟩
        cases top
        rw [step_flat flat] at alikeFirst
        exact ⟨_, _, _, _, pieces, piecesOther, .nil .outside, .cons alikeFirst alikeRest⟩
  | @inside mark escaped stop text other character replaced equal _ ih =>
      obtain ⟨first, rest, firstOther, restOther, segments, segmentsOther, alikeFirst, alikeRest⟩ := ih closed depth
      refine ⟨character :: first, rest, replaced :: firstOther, restOther, ?_, ?_, ?_, alikeRest⟩
      · rw [DocSite.topLevelSegments, segments]
        rfl
      · rw [DocSite.topLevelSegments, ← equal, segmentsOther]
        rfl
      · exact .inside character replaced equal alikeFirst

/-! ### Closers -/

theorem rel_map {α β γ δ : Type} {before : α → β → Prop} {after : γ → δ → Prop} {first : α → γ} {second : β → δ}
    (lift : ∀ value other, before value other → after (first value) (second other)) {found : Option α}
    {foundOther : Option β} (related : Option.Rel before found foundOther) :
    Option.Rel after (found.map first) (foundOther.map second) := by
  cases related with
  | none => exact .none
  | some related => exact .some (lift _ _ related)

/-- The same closer is found in alike texts. -/
theorem cutAtCloser? {opener closer : Char} (alike : Alike start stop text other)
    (unquoted : isQuoteMark closer = false) (depth : Nat) :
    Option.Rel (AlikeParts start stop) (DocSite.cutAtCloser? opener closer start depth text)
      (DocSite.cutAtCloser? opener closer start depth other) := by
  induction alike generalizing depth with
  | nil => exact .none
  | @same start stop text other character further ih =>
      have keeps (depth : Nat) : Option.Rel (AlikeParts start stop)
          ((DocSite.cutAtCloser? opener closer (start.step character) depth text).map fun parts =>
            (character :: parts.1, parts.2))
          ((DocSite.cutAtCloser? opener closer (start.step character) depth other).map fun parts =>
            (character :: parts.1, parts.2)) :=
        rel_map (fun _ _ related => ⟨.same character related.inside, related.behind⟩) (ih depth)
      cases start with
      | within mark escaped =>
          rw [DocSite.cutAtCloser?, DocSite.cutAtCloser?]
          exact keeps depth
      | outside =>
          rw [DocSite.cutAtCloser?, DocSite.cutAtCloser?]
          dsimp only
          split_ifs with opens closes last
          · exact keeps (depth + 1)
          · rw [closes, show Quotation.outside.step closer = .outside from if_neg (by simp [unquoted])] at further
            exact .some ⟨.nil .outside, further⟩
          · exact keeps (depth - 1)
          · exact keeps depth
  | @inside mark escaped stop text other first second equal _ ih =>
      rw [DocSite.cutAtCloser?, DocSite.cutAtCloser?]
      dsimp only
      rw [← equal]
      exact rel_map (fun _ _ related => ⟨.inside first second equal related.inside, related.behind⟩) (ih depth)

/-! ### Trimmed texts -/

theorem trimLeft (alike : Alike .outside stop text other) :
    Alike .outside stop (Text.trimLeft text) (Text.trimLeft other) := by
  induction text generalizing other with
  | nil =>
      obtain ⟨-, rfl, rfl⟩ | ⟨_, _, _, _, ⟨⟩, -⟩ := alike.cons_cases
      exact .nil .outside
  | cons character rest ih =>
      obtain ⟨⟨⟩, -⟩ | ⟨_, second, _, otherRest, ⟨⟩, rfl, same, -, further⟩ := alike.cons_cases
      cases same rfl
      unfold Text.trimLeft Text.trimLeftBy
      by_cases blank : isBlank character = true
      · rw [List.dropWhile_cons_of_pos blank, List.dropWhile_cons_of_pos blank]
        rw [step_flat (isFlat_of_isBlank blank)] at further
        exact ih further
      · rw [List.dropWhile_cons_of_neg blank, List.dropWhile_cons_of_neg blank]
        exact alike

/-- Trailing blanks are trimmed from alike texts together: a blank neither closes a literal nor stands for its
mark. -/
theorem trimRight (alike : Alike start stop text other) (closed : stop = .outside) (proper : start.Proper) :
    (Text.trimRight text = [] ∧ Text.trimRight other = [] ∧ start = .outside) ∨
      (Text.trimRight text ≠ [] ∧ Text.trimRight other ≠ [] ∧
        Alike start .outside (Text.trimRight text) (Text.trimRight other)) := by
  have ink {mark : Char} (isQuote : isQuoteMark mark = true) : ¬isBlank mark = true := by
    intro blank
    have flat := isFlat_of_isBlank blank
    unfold isFlat at flat
    rw [isQuote] at flat
    cases flat
  induction alike with
  | nil quotation => exact .inl ⟨rfl, rfl, closed⟩
  | @same start stop text other character _ ih =>
      rw [trimRight_cons, trimRight_cons]
      rcases ih closed (proper.step character) with ⟨nothing, nothingOther, ends⟩ | ⟨some, someOther, further⟩
      · -- Only blanks follow, so no literal is open behind this character.
        by_cases blank : isBlank character = true
        · rw [if_pos ⟨nothing, blank⟩, if_pos ⟨nothingOther, blank⟩]
          refine .inl ⟨rfl, rfl, ?_⟩
          cases start with
          | outside => rfl
          | within mark escaped =>
              rw [Quotation.eq_of_step_eq_outside ends] at blank
              exact absurd blank (ink proper)
        · rw [if_neg fun both => blank both.2, if_neg fun both => blank both.2, nothing, nothingOther]
          exact .inr ⟨nofun, nofun, .same character (ends ▸ .nil .outside)⟩
      · rw [if_neg fun both => some both.1, if_neg fun both => someOther both.1]
        exact .inr ⟨nofun, nofun, .same character further⟩
  | @inside mark escaped stop text other first second equal _ ih =>
      rw [trimRight_cons, trimRight_cons]
      rcases ih closed (proper.step first) with ⟨nothing, nothingOther, ends⟩ | ⟨some, someOther, further⟩
      · -- Both characters are the mark that closes the literal.
        have closes := Quotation.eq_of_step_eq_outside ends
        have closesOther := Quotation.eq_of_step_eq_outside (equal.symm.trans ends)
        rw [if_neg fun both => ink proper (closes ▸ both.2), if_neg fun both => ink proper (closesOther ▸ both.2),
          nothing, nothingOther]
        exact .inr ⟨nofun, nofun, .inside first second equal (ends ▸ .nil .outside)⟩
      · rw [if_neg fun both => some both.1, if_neg fun both => someOther both.1]
        exact .inr ⟨nofun, nofun, .inside first second equal further⟩

theorem trim (alike : AlikeOutside text other) : AlikeOutside (Text.trim text) (Text.trim other) := by
  rcases (Alike.trimLeft alike).trimRight rfl trivial with ⟨nothing, nothingOther, -⟩ | ⟨-, -, trimmed⟩
  · change AlikeOutside (Text.trimRight (Text.trimLeft text)) (Text.trimRight (Text.trimLeft other))
    rw [nothing, nothingOther]
    exact .nil .outside
  · exact trimmed

/-! ### Replaced characters -/

/-- One idle character in the place of another inside a literal makes a text that is alike. -/
theorem set {position : Nat} {first second : Char} (proper : start.Proper)
    (found : text[position]? = some first) (inside : start.after (text.take position) ≠ .outside)
    (idle : Quotation.isIdle first = true) (idleToo : Quotation.isIdle second = true) :
    Alike start (start.after text) text (text.set position second) := by
  induction text generalizing start position with
  | nil => cases found
  | cons character rest ih =>
      cases position with
      | zero =>
          cases found
          cases start with
          | outside => exact absurd rfl inside
          | within mark escaped =>
              have equal := (Quotation.step_idle proper idle).trans (Quotation.step_idle proper idleToo).symm
              exact .inside _ _ equal (.refl _ rest)
      | succ position => exact .same character (ih (proper.step character) found inside)

end Alike

theorem lengths_eq {texts others : List Text} (each : List.Forall₂ AlikeOutside texts others) :
    others.map List.length = texts.map List.length := by
  induction each with
  | nil => rfl
  | cons first _ ih => rw [List.map_cons, List.map_cons, ih, Alike.length_eq first]

end DocSite
