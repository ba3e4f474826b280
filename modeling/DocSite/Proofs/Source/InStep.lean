/-
Readers in step.

The reader of lines and the reader of pieces take the same literals for literals as long as no quote mark stands
behind a backslash outside literals and every comment that ends has closed, by its own marks, the literals that it
seems to open. Up to the first place where this fails they agree on every position outside comments, and from there
on they do not. Inside a comment the reader of pieces goes on as in code, so there it is the comment's own marks
that tell what is inert.
-/
import DocSite.Proofs.Source.Nested
import DocSite.Proofs.Source.Positions

namespace DocSite

open CodeScan (Reading readCharacter ofText ofText_cons)
open Cursor (slice)

/-! ### States of the reader of lines -/

/-- The zone behind a character, and whether the next one is bound. Behind the slashes of a line comment nothing is
read. -/
def CodeScan.Reading.after? : Reading → Option (Zone × Bool)
  | .inert zone bound => some (zone, bound)
  | .structural => some (.code, false)
  | .lineComment => none

/-- The zone in front of a position, and whether the character there is bound to the one before it. -/
def stateAt (text : Text) : Nat → Option (Zone × Bool)
  | 0 => some (.code, false)
  | position + 1 =>
      match stateAt text position, text[position]? with
      | some (zone, bound), some character =>
          (readCharacter zone bound character text[position + 1]?).after?
      | _, _ => none

theorem stateAt_succ {text : Text} {position : Nat} {zone : Zone} {bound : Bool} {character : Char}
    (here : stateAt text position = some (zone, bound)) (found : text[position]? = some character) :
    stateAt text (position + 1) = (readCharacter zone bound character text[position + 1]?).after? := by
  rw [stateAt, here, found]

theorem exists_state_before {text : Text} {position : Nat} {state : Zone × Bool}
    (here : stateAt text (position + 1) = some state) :
    ∃ zone bound character, stateAt text position = some (zone, bound) ∧ text[position]? = some character ∧
      (readCharacter zone bound character text[position + 1]?).after? = some state := by
  cases before : stateAt text position with
  | none =>
      rw [stateAt, before] at here
      cases here
  | some state =>
      cases found : text[position]? with
      | none =>
          rw [stateAt, before, found] at here
          cases here
      | some character =>
          obtain ⟨zone, bound⟩ := state
          rw [stateAt_succ before found] at here
          exact ⟨zone, bound, character, rfl, rfl, here⟩

/-- From every position the line is read on as a text that begins in the state there. -/
theorem scanCode_eq_followedBy {text : Text} {position : Nat} {zone : Zone} {bound : Bool}
    (here : stateAt text position = some (zone, bound)) :
    ∃ front : CodeScan, front.code = text.take position ∧
      scanCode text = front.followedBy (ofText zone bound (text.drop position)) := by
  induction position generalizing zone bound with
  | zero =>
      cases here
      exact ⟨⟨[], [], none, .code, false⟩, rfl, rfl⟩
  | succ position ih =>
      obtain ⟨zoneBefore, boundBefore, character, before, found, next⟩ := exists_state_before here
      obtain ⟨front, code, read⟩ := ih before
      obtain ⟨inside, same⟩ := List.getElem?_eq_some_iff.mp found
      have rest : text.drop position = character :: text.drop (position + 1) := by
        rw [List.drop_eq_getElem_cons inside, same]
      have first : (text.drop (position + 1)).head? = text[position + 1]? := List.head?_drop
      rw [rest, ofText_cons, first] at read
      cases reading : readCharacter zoneBefore boundBefore character text[position + 1]? with
      | inert zone bound =>
          rw [reading] at next read
          cases next
          refine ⟨⟨front.bare, front.code ++ [character], none, zone, bound⟩, ?_, ?_⟩
          · rw [take_succ_of_getElem? found, code]
          · rw [read]
            simp [CodeScan.followedBy, Reading.scan, CodeScan.pass]
      | structural =>
          rw [reading] at next read
          cases next
          refine ⟨⟨front.bare ++ [character], front.code ++ [character], none, .code, false⟩, ?_, ?_⟩
          · rw [take_succ_of_getElem? found, code]
          · rw [read]
            simp [CodeScan.followedBy, Reading.scan, CodeScan.mark]
      | lineComment =>
          rw [reading] at next
          cases next

/-! ### Comments -/

/-- A position in a comment, with the position where the comment begins. -/
structure IsInComment (text : Text) (start position : Nat) : Prop where
  opens : stateAt text start = some (.code, false)
  order : start < position
  inside : ∀ between, start < between → between ≤ position → ∃ bound, stateAt text between = some (.block, bound)

theorem IsInComment.next {text : Text} {start position : Nat} {bound : Bool}
    (inComment : IsInComment text start position) (still : stateAt text (position + 1) = some (.block, bound)) :
    IsInComment text start (position + 1) where
  opens := inComment.opens
  order := Nat.lt_succ_of_lt inComment.order
  inside between behind upTo := by
    rcases Nat.le_succ_iff.mp upTo with earlier | last
    · exact inComment.inside between behind earlier
    · exact ⟨bound, last ▸ still⟩

/-- Up to a limit, nothing drives the two readers apart: no quote mark stands behind a backslash outside literals,
and the quote marks of a comment have closed what they open when its last slash comes. -/
structure StaysInStep (text : Text) (limit : Nat) : Prop where
  escapes : ∀ position character, position < limit → stateAt text position = some (.code, true) →
    text[position]? = some character → isQuoteMark character = false
  comments : ∀ start star, star < limit → IsInComment text start star →
    stateAt text (star + 1) = some (.code, true) →
      Quotation.outside.after (slice text start (star + 1)) = .outside

/-! ### Agreement -/

/-- What the reader of pieces knows in each zone as long as both are in step. -/
def AgreesAt (text : Text) (position : Nat) (bound : Bool) : Zone → Prop
  | .code => IsBare text position
  | .block => ∃ start, IsBare text start ∧ IsInComment text start position
  | zone => SeesAs (quotationAt text position) zone bound

theorem SeesAs.eq_outside {quotation : Quotation} {bound : Bool} (sees : SeesAs quotation .code bound) :
    quotation = .outside := by
  cases sees
  rfl

theorem SeesAs.ne_block {quotation : Quotation} {zone : Zone} {bound : Bool} (sees : SeesAs quotation zone bound) :
    zone ≠ .block := by
  cases sees <;> nofun

theorem SeesAs.exists_within {quotation : Quotation} {zone : Zone} {bound : Bool}
    (sees : SeesAs quotation zone bound) (literal : zone ≠ .code) :
    ∃ mark escaped, quotation = .within mark escaped := by
  cases sees with
  | outside => exact absurd rfl literal
  | _ => exact ⟨_, _, rfl⟩

theorem agreesAt_of_sees {text : Text} {position : Nat} {zone : Zone} {bound : Bool}
    (sees : SeesAs (quotationAt text position) zone bound) : AgreesAt text position bound zone := by
  cases zone with
  | code => exact sees.eq_outside
  | block => exact absurd rfl sees.ne_block
  | _ => exact sees

theorem AgreesAt.isBare_iff {text : Text} {position : Nat} {zone : Zone} {bound : Bool}
    (agrees : AgreesAt text position bound zone) (outside : zone ≠ .block) :
    IsBare text position ↔ zone = .code := by
  have literal (sees : SeesAs (quotationAt text position) zone bound) (other : zone ≠ .code) :
      ¬IsBare text position := by
    obtain ⟨mark, escaped, same⟩ := sees.exists_within other
    unfold IsBare
    rw [same]
    nofun
  cases zone with
  | code => exact iff_of_true agrees rfl
  | block => exact absurd rfl outside
  | _ => exact iff_of_false (literal agrees nofun) nofun

theorem readCharacter_marked {character : Char} {next : Option Char} (marked : isMark character next = true) :
    isQuoteMark character = false ∧
      (readCharacter .code false character next = .inert .code true ∨
        readCharacter .code false character next = .inert .block true ∨
        readCharacter .code false character next = .lineComment) := by
  simp only [isMark, Bool.or_eq_true, beq_iff_eq, Bool.and_eq_true] at marked
  rcases marked with rfl | ⟨rfl, rfl | rfl⟩
  · exact ⟨rfl, .inl rfl⟩
  · exact ⟨rfl, .inr (.inr rfl)⟩
  · exact ⟨rfl, .inr (.inl rfl)⟩

theorem readCharacter_block (bound : Bool) (character : Char) (next : Option Char) :
    readCharacter .block bound character next = .inert .block false ∨
      readCharacter .block bound character next = .inert .code true := by
  cases bound with
  | true => exact .inl rfl
  | false =>
      unfold readCharacter
      dsimp only
      rw [if_neg Bool.false_ne_true]
      split
      · exact .inr rfl
      · exact .inl rfl

section Step

variable {text : Text} {limit position : Nat} {bound boundAfter : Bool} {character : Char} {after : Zone}
  (found : text[position]? = some character)
  (next : stateAt text (position + 1) = some (after, boundAfter))

include found next

theorem agreesAt_of_literal {zone : Zone} (here : stateAt text position = some (zone, bound))
    (sees : SeesAs (quotationAt text position) zone bound) (literal : zone ≠ .code) :
    AgreesAt text (position + 1) boundAfter after := by
  obtain ⟨mark, escaped, same⟩ := sees.exists_within literal
  rw [same] at sees
  obtain ⟨zoneAfter, still, reading, seesStill⟩ := sees.within character text[position + 1]?
  rw [stateAt_succ here found, reading] at next
  cases next
  apply agreesAt_of_sees
  rw [quotationAt_succ found, same]
  exact seesStill

variable (stays : StaysInStep text limit) (early : position < limit)

include stays early

theorem agreesAt_of_code (here : stateAt text position = some (.code, bound)) (bare : IsBare text position) :
    AgreesAt text (position + 1) boundAfter after := by
  have read := (stateAt_succ here found).symm.trans next
  have quoted : quotationAt text (position + 1) = Quotation.outside.step character := by
    rw [quotationAt_succ found, bare]
  have stillBare (unquoted : isQuoteMark character = false) : IsBare text (position + 1) :=
    quoted.trans (if_neg (Bool.not_eq_true _ ▸ unquoted))
  cases bound with
  | true =>
      -- Behind a backslash or at the end of a comment: only a quote mark would mean something to the other reader.
      cases read
      exact stillBare (stays.escapes position character early here found)
  | false =>
      by_cases marked : isMark character text[position + 1]? = true
      · obtain ⟨unquoted, escape | comment | lineComment⟩ := readCharacter_marked marked
        · rw [escape] at read
          cases read
          exact stillBare unquoted
        · -- The comment begins here, in a bare position.
          rw [comment] at read
          cases read
          refine ⟨position, bare, here, Nat.lt_succ_self position, fun between behind upTo => ⟨true, ?_⟩⟩
          rw [Nat.le_antisymm upTo behind]
          exact next
        · rw [lineComment] at read
          cases read
      · rw [Bool.not_eq_true] at marked
        rcases SeesAs.outside_step character _ marked with ⟨zone, reading, -, -, sees⟩ | ⟨reading, outside⟩
        · rw [reading] at read
          cases read
          exact agreesAt_of_sees (quoted ▸ sees)
        · rw [reading] at read
          cases read
          exact quoted.trans outside

theorem agreesAt_of_block (here : stateAt text position = some (.block, bound))
    (comment : ∃ start, IsBare text start ∧ IsInComment text start position) :
    AgreesAt text (position + 1) boundAfter after := by
  obtain ⟨start, bare, inComment⟩ := comment
  have read := (stateAt_succ here found).symm.trans next
  rcases readCharacter_block bound character text[position + 1]? with goesOn | ends
  · rw [goesOn] at read
    cases read
    exact ⟨start, bare, inComment.next next⟩
  · rw [ends] at read
    cases read
    exact (bare.isBare_iff (Nat.le_succ_of_le inComment.order.le)).mpr
      (stays.comments start position early inComment next)

end Step

/-- Readers that stay in step agree at every position that is read. -/
theorem StaysInStep.agreesAt {text : Text} {limit position : Nat} {zone : Zone} {bound : Bool}
    (stays : StaysInStep text limit) (upTo : position ≤ limit)
    (here : stateAt text position = some (zone, bound)) : AgreesAt text position bound zone := by
  induction position generalizing zone bound with
  | zero =>
      cases here
      exact rfl
  | succ position ih =>
      obtain ⟨zoneBefore, boundBefore, character, before, found, -⟩ := exists_state_before here
      have agrees := ih (Nat.le_of_succ_le upTo) before
      cases zoneBefore with
      | code => exact agreesAt_of_code found here stays upTo before agrees
      | block => exact agreesAt_of_block found here stays upTo before agrees
      | _ => exact agreesAt_of_literal found here before agrees nofun

/-- The readers agree outside comments exactly as long as they stay in step. -/
theorem staysInStep_iff {text : Text} {limit : Nat} :
    StaysInStep text limit ↔ ∀ position zone bound, position ≤ limit →
      stateAt text position = some (zone, bound) → zone ≠ .block → (IsBare text position ↔ zone = .code) := by
  constructor
  · intro stays position zone bound upTo here outside
    exact (stays.agreesAt upTo here).isBare_iff outside
  · intro agree
    constructor
    · intro position character early here found
      have bare := (agree position .code true early.le here nofun).mpr rfl
      have next : stateAt text (position + 1) = some (.code, false) := stateAt_succ here found
      have bareNext := (agree (position + 1) .code false early next nofun).mpr rfl
      -- A quote mark here would open a literal, but no literal is open behind it.
      by_contra quote
      rw [Bool.not_eq_false] at quote
      unfold IsBare at bareNext
      rw [quotationAt_succ found, bare] at bareNext
      exact nomatch (if_pos quote).symm.trans bareNext
    · intro start star early inComment ends
      have opens := (agree start .code false (inComment.order.le.trans early.le) inComment.opens nofun).mpr rfl
      have closed := (agree (star + 1) .code true early ends nofun).mpr rfl
      exact (opens.isBare_iff (Nat.le_succ_of_le inComment.order.le)).mp closed

end DocSite
