/-
Positions in a text.

In front of every position the reader of pieces knows whether a literal is open and how many brackets are. It cuts
exactly at the separators where neither is open, and a bracket closes where the brackets outside literals come into
balance for the first time. So what stands inside a literal neither cuts nor counts, and whatever stands outside
does what its character says, in a comment too.
-/
import DocSite.Proofs.Cursor.Signature
import DocSite.Proofs.Source.Plain

namespace DocSite

open Cursor (slice slice_append_drop)

/-! ### Literals -/

def Quotation.after (quotation : Quotation) (text : Text) : Quotation :=
  text.foldl Quotation.step quotation

def quotationAt (text : Text) (position : Nat) : Quotation :=
  Quotation.outside.after (text.take position)

/-- No literal is open in front of a position. -/
def IsBare (text : Text) (position : Nat) : Prop :=
  quotationAt text position = .outside

namespace Quotation

theorem after_append (quotation : Quotation) (front rest : Text) :
    quotation.after (front ++ rest) = (quotation.after front).after rest :=
  List.foldl_append

def Proper : Quotation → Prop
  | .outside => True
  | .within mark _ => isQuoteMark mark = true

theorem Proper.step {quotation : Quotation} (proper : quotation.Proper) (character : Char) :
    (quotation.step character).Proper := by
  cases quotation with
  | outside =>
      unfold Quotation.step
      dsimp only
      split
      · assumption
      · trivial
  | within mark escaped =>
      cases escaped with
      | true => exact proper
      | false =>
          unfold Quotation.step
          dsimp only
          split_ifs
          · exact proper
          · trivial
          · exact proper

/-- Only its own mark closes a literal. -/
theorem eq_of_step_eq_outside {mark : Char} {escaped : Bool} {character : Char}
    (closes : (Quotation.within mark escaped).step character = .outside) : character = mark := by
  cases escaped with
  | true => cases closes
  | false =>
      unfold Quotation.step at closes
      dsimp only at closes
      split_ifs at closes with backslash same
      exact same

def isIdle (character : Char) : Bool :=
  !isQuoteMark character && character != '\\'

/-- The quotation behind a character without a meaning of its own. -/
def rested : Quotation → Quotation
  | .outside => .outside
  | .within mark _ => .within mark false

theorem step_idle {quotation : Quotation} (proper : quotation.Proper) {character : Char}
    (idle : isIdle character = true) : quotation.step character = quotation.rested := by
  simp only [isIdle, Bool.and_eq_true, Bool.not_eq_true', bne_iff_ne, ne_eq] at idle
  obtain ⟨unquoted, unescaping⟩ := idle
  cases quotation with
  | outside => exact if_neg (Bool.not_eq_true _ ▸ unquoted)
  | within mark escaped =>
      cases escaped with
      | true => rfl
      | false =>
          have other : character ≠ mark := by
            rintro rfl
            rw [show isQuoteMark character = true from proper] at unquoted
            cases unquoted
          exact (if_neg fun both => unescaping both.1).trans (if_neg other)

end Quotation

theorem quotationAt_eq_after {text : Text} {start stop : Nat} (order : start ≤ stop) :
    quotationAt text stop = (quotationAt text start).after (slice text start stop) := by
  have front : text.take start = (text.take stop).take start := by
    rw [List.take_take, Nat.min_eq_left order]
  unfold quotationAt slice
  rw [← Quotation.after_append, front, List.take_append_drop]

/-- Behind a bare position the quotation is that of the part of the text from there on. -/
theorem IsBare.isBare_iff {text : Text} {start position : Nat} (bare : IsBare text start) (order : start ≤ position) :
    IsBare text position ↔ Quotation.outside.after (slice text start position) = .outside := by
  rw [IsBare, quotationAt_eq_after order, bare]

/-! ### Brackets -/

/-- What the reader of pieces knows in front of a character. -/
structure Nesting where
  quotation : Quotation
  depth : Nat

namespace Nesting

def step (nesting : Nesting) (character : Char) : Nesting :=
  match nesting.quotation with
  | .outside => ⟨Quotation.outside.step character, depthAfter nesting.depth character⟩
  | .within mark escaped => ⟨(Quotation.within mark escaped).step character, nesting.depth⟩

def after (nesting : Nesting) (text : Text) : Nesting :=
  text.foldl step nesting

def top : Nesting :=
  ⟨.outside, 0⟩

theorem quotation_step (nesting : Nesting) (character : Char) :
    (nesting.step character).quotation = nesting.quotation.step character := by
  obtain ⟨quotation, depth⟩ := nesting
  cases quotation <;> rfl

theorem quotation_after (nesting : Nesting) (text : Text) :
    (nesting.after text).quotation = nesting.quotation.after text := by
  induction text generalizing nesting with
  | nil => rfl
  | cons character rest ih =>
      refine (ih (nesting.step character)).trans ?_
      rw [quotation_step]
      rfl

end Nesting

def nestingAt (text : Text) (position : Nat) : Nesting :=
  Nesting.top.after (text.take position)

theorem quotation_nestingAt (text : Text) (position : Nat) :
    (nestingAt text position).quotation = quotationAt text position :=
  Nesting.top.quotation_after (text.take position)

theorem take_succ_of_getElem? {text : Text} {position : Nat} {character : Char}
    (found : text[position]? = some character) : text.take (position + 1) = text.take position ++ [character] := by
  rw [List.take_add_one, found]
  rfl

theorem quotationAt_succ {text : Text} {position : Nat} {character : Char}
    (found : text[position]? = some character) :
    quotationAt text (position + 1) = (quotationAt text position).step character := by
  unfold quotationAt
  rw [take_succ_of_getElem? found, Quotation.after_append]
  rfl

theorem nestingAt_eq_top_iff {text : Text} {position : Nat} :
    nestingAt text position = .top ↔ IsBare text position ∧ (nestingAt text position).depth = 0 := by
  rw [IsBare, ← quotation_nestingAt]
  generalize nestingAt text position = nesting
  obtain ⟨quotation, depth⟩ := nesting
  exact Nesting.mk.injEq _ _ _ _ ▸ Iff.rfl

theorem nestingAt_succ {text : Text} {position : Nat} {character : Char}
    (found : text[position]? = some character) :
    nestingAt text (position + 1) = (nestingAt text position).step character := by
  unfold nestingAt Nesting.after
  rw [take_succ_of_getElem? found, List.foldl_append]
  rfl

/-- The depth moves at the brackets in bare positions and at nothing else. -/
theorem depth_nestingAt_succ {text : Text} {position : Nat} {character : Char}
    (found : text[position]? = some character) :
    (IsBare text position →
        (nestingAt text (position + 1)).depth = depthAfter (nestingAt text position).depth character) ∧
      (¬IsBare text position → (nestingAt text (position + 1)).depth = (nestingAt text position).depth) := by
  rw [nestingAt_succ found, IsBare, ← quotation_nestingAt]
  unfold Nesting.step
  cases (nestingAt text position).quotation with
  | outside => exact ⟨fun _ => rfl, fun other => absurd rfl other⟩
  | within mark escaped => exact ⟨nofun, fun _ => rfl⟩

/-! ### Cuts -/

def cutsOf : List Text → List Nat
  | [] => []
  | [_] => []
  | piece :: next :: pieces => piece.length :: (cutsOf (next :: pieces)).map (· + (piece.length + 1))

theorem cutsOf_consHead (character : Char) (pieces : List Text) :
    cutsOf (Text.consHead character pieces) = (cutsOf pieces).map (· + 1) := by
  match pieces with
  | [] => rfl
  | [_] => rfl
  | piece :: next :: pieces =>
      change (piece.length + 1) :: (cutsOf (next :: pieces)).map (· + (piece.length + 1 + 1)) =
        (piece.length :: (cutsOf (next :: pieces)).map (· + (piece.length + 1))).map (· + 1)
      rw [List.map_cons, List.map_map]
      rfl

theorem cutsOf_nil_cons {pieces : List Text} (filled : pieces ≠ []) :
    cutsOf ([] :: pieces) = 0 :: (cutsOf pieces).map (· + 1) := by
  match pieces with
  | [] => exact absurd rfl filled
  | next :: pieces => rfl

theorem consHead_ne_nil (character : Char) (pieces : List Text) : Text.consHead character pieces ≠ [] := by
  cases pieces <;> exact List.cons_ne_nil _ _

section Cuts

variable (isSeparator : Char → Bool)

theorem topLevelSegments_ne_nil (quotation : Quotation) (depth : Nat) (text : Text) :
    topLevelSegments isSeparator quotation depth text ≠ [] := by
  cases text with
  | nil => exact List.cons_ne_nil _ _
  | cons character rest =>
      cases quotation with
      | within mark escaped =>
          rw [topLevelSegments]
          exact consHead_ne_nil character _
      | outside =>
          rw [topLevelSegments]
          split
          · exact consHead_ne_nil character _
          · exact List.cons_ne_nil _ _

theorem topLevelSegments_cons (nesting : Nesting) (character : Char) (rest : Text) :
    (¬(isSeparator character = true ∧ isFlat character = true ∧ nesting = .top) ∧
        topLevelSegments isSeparator nesting.quotation nesting.depth (character :: rest) =
          Text.consHead character (topLevelSegments isSeparator (nesting.step character).quotation
            (nesting.step character).depth rest)) ∨
      (isSeparator character = true ∧ isFlat character = true ∧ nesting = .top ∧
        topLevelSegments isSeparator nesting.quotation nesting.depth (character :: rest) =
          [] :: topLevelSegments isSeparator (nesting.step character).quotation
            (nesting.step character).depth rest) := by
  obtain ⟨quotation, depth⟩ := nesting
  cases quotation with
  | within mark escaped =>
      refine .inl ⟨nofun, ?_⟩
      rw [topLevelSegments]
      rfl
  | outside =>
      by_cases separates : isSeparator character = true ∧ isFlat character = true ∧ depth = 0
      · obtain ⟨isOne, flat, top⟩ := separates
        refine .inr ⟨isOne, flat, congrArg _ top, ?_⟩
        change topLevelSegments isSeparator .outside depth _ = [] :: topLevelSegments isSeparator
          (Quotation.outside.step character) (depthAfter depth character) rest
        rw [top, step_flat flat, depthAfter_flat flat]
        exact topLevelSegments_separator flat isOne rest
      · refine .inl ⟨fun both => separates ⟨both.1, both.2.1, congrArg Nesting.depth both.2.2⟩, ?_⟩
        rw [topLevelSegments, if_pos]
        · rfl
        · by_contra cut
          simp only [Bool.or_eq_true, Bool.not_eq_true', bne_iff_ne, not_or, Bool.not_eq_true,
            Bool.not_eq_false, ne_eq, not_not] at cut
          obtain ⟨⟨⟨⟨quote, opener⟩, closer⟩, isOne⟩, top⟩ := cut
          refine separates ⟨isOne, ?_, top⟩
          unfold isFlat
          rw [quote, opener, closer]
          rfl

/-- A text is cut where a separator stands outside literals and brackets. -/
theorem mem_cutsOf_topLevelSegments (nesting : Nesting) (text : Text) (position : Nat) :
    position ∈ cutsOf (topLevelSegments isSeparator nesting.quotation nesting.depth text) ↔
      ∃ character, text[position]? = some character ∧ isSeparator character = true ∧
        isFlat character = true ∧ nesting.after (text.take position) = .top := by
  induction text generalizing nesting position with
  | nil => exact ⟨nofun, nofun⟩
  | cons character rest ih =>
      have later := ih (nesting.step character)
      rcases topLevelSegments_cons isSeparator nesting character rest with
        ⟨kept, pieces⟩ | ⟨separates, flat, top, pieces⟩
      · rw [pieces, cutsOf_consHead, List.mem_map]
        cases position with
        | zero =>
            refine iff_of_false nofun ?_
            rintro ⟨_, ⟨⟩, separates, flat, top⟩
            exact kept ⟨separates, flat, top⟩
        | succ position =>
            simp only [Nat.add_right_cancel_iff, exists_eq_right]
            exact later position
      · rw [pieces, cutsOf_nil_cons (topLevelSegments_ne_nil _ _ _ _), List.mem_cons, List.mem_map]
        cases position with
        | zero => exact iff_of_true (.inl rfl) ⟨character, rfl, separates, flat, top⟩
        | succ position =>
            simp only [Nat.add_right_cancel_iff, exists_eq_right]
            exact (or_iff_right (Nat.succ_ne_zero position)).trans (later position)

end Cuts

theorem join_consHead (separator : Text) (character : Char) (pieces : List Text) :
    Text.join separator (Text.consHead character pieces) = character :: Text.join separator pieces := by
  match pieces with
  | [] => rfl
  | [_] => rfl
  | _ :: _ :: _ => rfl

/-- The pieces with the separators between them are the text, so the cuts are positions in it. -/
theorem join_topLevelSegments (separator : Char) (nesting : Nesting) (text : Text) :
    Text.join [separator] (topLevelSegments (· == separator) nesting.quotation nesting.depth text) = text := by
  induction text generalizing nesting with
  | nil => rfl
  | cons character rest ih =>
      have further := ih (nesting.step character)
      rcases topLevelSegments_cons (· == separator) nesting character rest with
        ⟨-, pieces⟩ | ⟨separates, -, -, pieces⟩
      · rw [pieces, join_consHead, further]
      · have same := beq_iff_eq.mp separates
        subst same
        cases segments : topLevelSegments (· == character) (nesting.step character).quotation
            (nesting.step character).depth rest with
        | nil => exact absurd segments (topLevelSegments_ne_nil _ _ _ _)
        | cons piece others =>
            rw [segments] at further
            rw [pieces, segments]
            exact congrArg (List.cons character) further

/-! ### Closers -/

/-- The characters of a text in front of which no literal is open. -/
def bareFrom : Quotation → Text → Text
  | _, [] => []
  | .outside, character :: rest => character :: bareFrom (Quotation.outside.step character) rest
  | .within mark escaped, character :: rest => bareFrom ((Quotation.within mark escaped).step character) rest

/-- In front of a closer: no literal is open, and the bare brackets of its form, with some open in front of the text,
come into balance with it for the first time. -/
structure ComesToClose (opener closer : Char) (quotation : Quotation) (depth : Nat) (inside : Text) : Prop where
  bare : quotation.after inside = .outside
  balance : depth + (bareFrom quotation inside).count opener = (bareFrom quotation inside).count closer + 1
  first : ∀ front, front <+: bareFrom quotation inside → front.count closer < depth + front.count opener

section Closers

variable {opener closer character : Char} {depth : Nat} {inside : Text}

theorem comesToClose_within {mark : Char} {escaped : Bool} :
    ComesToClose opener closer (.within mark escaped) depth (character :: inside) ↔
      ComesToClose opener closer ((Quotation.within mark escaped).step character) depth inside :=
  ⟨fun ⟨bare, balance, first⟩ => ⟨bare, balance, first⟩, fun ⟨bare, balance, first⟩ => ⟨bare, balance, first⟩⟩

theorem comesToClose_outside {before : Nat}
    (moves : before + [character].count opener = depth + [character].count closer)
    (filled : 0 < before) :
    ComesToClose opener closer .outside before (character :: inside) ↔
      ComesToClose opener closer (Quotation.outside.step character) depth inside := by
  have counted (wanted : Char) (text : Text) :
      (character :: text).count wanted = [character].count wanted + text.count wanted := by
    rw [← List.singleton_append, List.count_append]
  constructor
  · rintro ⟨bare, balance, first⟩
    refine ⟨bare, ?_, fun front isFront => ?_⟩
    · rw [bareFrom, counted opener (bareFrom _ _), counted closer (bareFrom _ _)] at balance
      omega
    · have longer := first (character :: front) ((List.prefix_cons_inj character).mpr isFront)
      rw [counted opener front, counted closer front] at longer
      omega
  · rintro ⟨bare, balance, first⟩
    refine ⟨bare, ?_, fun front isFront => ?_⟩
    · rw [bareFrom, counted opener (bareFrom _ _), counted closer (bareFrom _ _)]
      omega
    · cases front with
      | nil => exact filled
      | cons other front =>
          obtain ⟨same, isFront⟩ := List.cons_prefix_cons.mp isFront
          have shorter := first front isFront
          rw [same, counted opener front, counted closer front]
          omega

theorem comesToClose_nil : ComesToClose opener closer .outside depth [] ↔ depth = 1 := by
  constructor
  · intro closes
    exact closes.balance
  · rintro rfl
    refine ⟨rfl, rfl, fun front isFront => ?_⟩
    rw [List.prefix_nil.mp isFront]
    exact Nat.one_pos

theorem not_comesToClose_within_nil {mark : Char} {escaped : Bool} :
    ¬ComesToClose opener closer (.within mark escaped) depth [] := by
  intro closes
  cases closes.bare

/-- Behind a closer that closes the last open bracket there is nothing to look for. -/
theorem not_comesToClose_closer (different : opener ≠ closer) (last : depth ≤ 1) :
    ¬ComesToClose opener closer .outside depth (closer :: inside) := by
  intro closes
  have first := closes.first [closer] ⟨_, rfl⟩
  rw [List.count_singleton_self, List.count_singleton, if_neg (by simpa using different.symm)] at first
  omega

/-- A character that is kept begins what lies inside. -/
theorem map_cons_eq_some_iff {found : Option (Text × Text)} {text rest : Text} {closes stillCloses : Text → Prop}
    (cut : ∀ inside, found = some (inside, rest) ↔ text = inside ++ closer :: rest ∧ stillCloses inside)
    (noEnd : ¬(character = closer ∧ closes []))
    (step : ∀ inside, closes (character :: inside) ↔ stillCloses inside) :
    (found.map fun parts => (character :: parts.1, parts.2)) = some (inside, rest) ↔
      character :: text = inside ++ closer :: rest ∧ closes inside := by
  rw [Option.map_eq_some_iff]
  constructor
  · rintro ⟨⟨front, behind⟩, here, same⟩
    cases same
    obtain ⟨whole, comes⟩ := (cut front).mp here
    exact ⟨congrArg (List.cons character) whole, (step front).mpr comes⟩
  · rintro ⟨whole, comes⟩
    cases inside with
    | nil =>
        cases whole
        exact absurd ⟨rfl, comes⟩ noEnd
    | cons first inside =>
        cases whole
        exact ⟨(inside, rest), (cut inside).mpr ⟨rfl, (step inside).mp comes⟩, rfl⟩

end Closers

/-- A text is cut at the first closer at which the bare brackets of its form balance. -/
theorem cutAtCloser?_eq_some_iff {opener closer : Char} (different : opener ≠ closer) {quotation : Quotation}
    {depth : Nat} (filled : 0 < depth) {text inside rest : Text} :
    cutAtCloser? opener closer quotation depth text = some (inside, rest) ↔
      text = inside ++ closer :: rest ∧ ComesToClose opener closer quotation depth inside := by
  induction text generalizing quotation depth inside with
  | nil =>
      constructor
      · intro found
        cases found
      · rintro ⟨whole, -⟩
        exact absurd (List.append_eq_nil_iff.mp whole.symm).2 (List.cons_ne_nil _ _)
  | cons character text ih =>
      cases quotation with
      | within mark escaped =>
          rw [cutAtCloser?]
          exact map_cons_eq_some_iff (fun _ => ih filled) (fun both => not_comesToClose_within_nil both.2)
            fun _ => comesToClose_within
      | outside =>
          rw [cutAtCloser?]
          dsimp only
          by_cases opens : character = opener
          · subst opens
            rw [if_pos rfl]
            refine map_cons_eq_some_iff (fun _ => ih (Nat.succ_pos depth)) (fun both => different both.1) fun _ =>
              comesToClose_outside ?_ filled
            simp [different]
          · rw [if_neg opens]
            by_cases closes : character = closer
            · subst closes
              rw [if_pos rfl]
              by_cases last : depth ≤ 1
              · rw [if_pos last]
                constructor
                · intro found
                  cases found
                  exact ⟨rfl, comesToClose_nil.mpr (Nat.le_antisymm last filled)⟩
                · rintro ⟨whole, comes⟩
                  cases inside with
                  | nil =>
                      cases whole
                      rfl
                  | cons first inside =>
                      cases whole
                      exact absurd comes (not_comesToClose_closer different last)
              · rw [if_neg last]
                refine map_cons_eq_some_iff (fun _ => ih (by omega))
                  (fun both => last (comesToClose_nil.mp both.2).le) fun _ => comesToClose_outside ?_ filled
                simp only [List.count_singleton, beq_self_eq_true, if_true]
                rw [if_neg (by simpa using different.symm)]
                omega
            · rw [if_neg closes]
              refine map_cons_eq_some_iff (fun _ => ih filled) (fun both => closes both.1) fun _ =>
                comesToClose_outside ?_ filled
              simp [opens, closes]

theorem ne_of_closerOf? {opener closer : Char} (closes : closerOf? opener = some closer) : opener ≠ closer := by
  rintro rfl
  unfold closerOf? at closes
  split at closes
  · exact absurd closes (by decide)
  · exact absurd closes (by decide)
  · exact absurd closes (by decide)
  · cases closes

theorem drop_eq_slice_append {text : Text} {start stop : Nat} {character : Char} (order : start ≤ stop)
    (found : text[stop]? = some character) :
    text.drop start = slice text start stop ++ character :: text.drop (stop + 1) := by
  obtain ⟨inside, here⟩ := List.getElem?_eq_some_iff.mp found
  rw [← slice_append_drop text order, List.drop_eq_getElem_cons inside, here]

/-- The closer of a bracket stands where the brackets behind it come into balance. -/
theorem findClosing_eq_ok_iff {text : Text} {start stop : Nat} {opener closer : Char}
    (found : text[start]? = some opener) (closes : closerOf? opener = some closer) :
    findClosing text start = .ok (some stop) ↔
      start < stop ∧ text[stop]? = some closer ∧
        ComesToClose opener closer .outside 1 (slice text (start + 1) stop) := by
  obtain ⟨inside, here⟩ := List.getElem?_eq_some_iff.mp found
  have behind : text.drop start = opener :: text.drop (start + 1) := by
    rw [List.drop_eq_getElem_cons inside, here]
  have search : findClosing text start =
      .ok ((cutAtCloser? opener closer .outside 1 (text.drop (start + 1))).map fun parts =>
        start + 1 + parts.1.length) := by
    unfold findClosing
    rw [behind]
    dsimp only
    rw [closes]
  rw [search, Except.ok.injEq, Option.map_eq_some_iff]
  constructor
  · rintro ⟨⟨between, rest⟩, cut, rfl⟩
    obtain ⟨whole, comes⟩ := (cutAtCloser?_eq_some_iff (ne_of_closerOf? closes) Nat.one_pos).mp cut
    dsimp only
    have same : slice text (start + 1) (start + 1 + between.length) = between := by
      unfold slice
      rw [List.drop_take, Nat.add_sub_cancel_left, whole, List.take_left]
    refine ⟨by omega, ?_, ?_⟩
    · rw [← List.getElem?_drop, whole, List.getElem?_append_right le_rfl, Nat.sub_self]
      rfl
    · rw [same]
      exact comes
  · rintro ⟨order, last, comes⟩
    refine ⟨(slice text (start + 1) stop, text.drop (stop + 1)), ?_, ?_⟩
    · exact (cutAtCloser?_eq_some_iff (ne_of_closerOf? closes) Nat.one_pos).mpr
        ⟨drop_eq_slice_append order last, comes⟩
    · have bound := (List.getElem?_eq_some_iff.mp last).1
      unfold slice
      rw [List.length_drop, List.length_take]
      omega

end DocSite
