/-
Nested text.

A text is nested when its literals close, its brackets close in the order in which they open, and it has
neither a comment mark nor a backslash outside its literals. It is read with the stack of the closers that
are due. Both readers of this library pass over nested text as a whole: the reader of lines comes out in code
with its braces in balance, and the reader of pieces comes out outside all brackets.
-/
import DocSite.Proofs.Source.Append
import DocSite.Proofs.Source.Plain

namespace DocSite

/-- The closers that are due behind a character outside literals. A closer has to be the next one due. -/
def dueAfter? (due : List Char) (character : Char) : Option (List Char) :=
  match closerOf? character with
  | some closer => some (closer :: due)
  | none =>
      if isCloser character then
        match due with
        | [] => none
        | next :: others => if next = character then some others else none
      else some due

/-- Whether a character begins a comment or an escape in front of the next one. -/
def isMark (character : Char) (next : Option Char) : Bool :=
  character == '\\' || (character == '/' && (next == some '/' || next == some '*'))

/-- Whether a text closes what is open in front of it and is nested otherwise. Barred characters stand
only inside literals and brackets. -/
def isNestedFrom (barred : Char → Bool) (due : List Char) (quotation : Quotation) : Text → Bool
  | [] => due.isEmpty && quotation == .outside
  | character :: rest =>
      match quotation with
      | .within _ _ => isNestedFrom barred due (quotation.step character) rest
      | .outside =>
          !isMark character rest.head? && !(due.isEmpty && barred character) &&
            match dueAfter? due character with
            | some due => isNestedFrom barred due (quotation.step character) rest
            | none => false

/-- Whether a text is nested, with no barred character outside literals and brackets. -/
def isNested (barred : Char → Bool) (text : Text) : Bool :=
  isNestedFrom barred [] .outside text

def unbarred : Char → Bool := fun _ => false

/-! ### One character -/

theorem length_dueAfter {due behind : List Char} {character : Char}
    (found : dueAfter? due character = some behind) :
    depthAfter due.length character = behind.length := by
  unfold dueAfter? at found
  unfold depthAfter isOpener
  cases opens : closerOf? character with
  | some closer =>
      rw [opens] at found
      cases found
      rfl
  | none =>
      rw [opens] at found
      dsimp only at found
      by_cases closes : isCloser character = true
      · rw [if_pos closes] at found
        cases due with
        | nil => cases found
        | cons next others =>
            dsimp only at found
            by_cases same : next = character
            · rw [if_pos same] at found
              cases found
              rw [closes]
              rfl
            · rw [if_neg same] at found
              cases found
      · rw [if_neg closes] at found
        cases found
        rw [Bool.not_eq_true] at closes
        rw [closes]
        rfl

theorem isNestedFrom_within {barred : Char → Bool} {due : List Char} {mark : Char} {escaped : Bool}
    {character : Char} {rest : Text} :
    isNestedFrom barred due (.within mark escaped) (character :: rest) =
      isNestedFrom barred due ((Quotation.within mark escaped).step character) rest := by
  rw [isNestedFrom]

theorem isNestedFrom_outside {barred : Char → Bool} {due : List Char} {character : Char}
    {rest : Text} (nested : isNestedFrom barred due .outside (character :: rest) = true) :
    isMark character rest.head? = false ∧ (due = [] → barred character = false) ∧
      ∃ behind, dueAfter? due character = some behind ∧
        isNestedFrom barred behind (Quotation.outside.step character) rest = true := by
  rw [isNestedFrom] at nested
  simp only [Bool.and_eq_true, Bool.not_eq_true'] at nested
  obtain ⟨⟨unmarked, allowed⟩, further⟩ := nested
  refine ⟨unmarked, fun empty => ?_, ?_⟩
  · rw [empty] at allowed
    exact allowed
  · cases found : dueAfter? due character with
    | none =>
        rw [found] at further
        cases further
    | some behind =>
        rw [found] at further
        exact ⟨behind, rfl, further⟩

/-! ### Composition -/

theorem isNestedFrom_mono {barred fewer : Char → Bool}
    (weaker : ∀ character, fewer character = true → barred character = true) {due : List Char}
    {quotation : Quotation} {text : Text} (nested : isNestedFrom barred due quotation text = true) :
    isNestedFrom fewer due quotation text = true := by
  induction text generalizing due quotation with
  | nil => exact nested
  | cons character rest ih =>
      cases quotation with
      | within mark escaped =>
          rw [isNestedFrom_within] at nested ⊢
          exact ih nested
      | outside =>
          obtain ⟨unmarked, allowed, behind, found, further⟩ := isNestedFrom_outside nested
          have stillAllowed : (due.isEmpty && fewer character) = false := by
            by_contra refused
            rw [Bool.not_eq_false, Bool.and_eq_true, List.isEmpty_iff] at refused
            rw [weaker character refused.2] at allowed
            cases allowed refused.1
          rw [isNestedFrom, unmarked, stillAllowed, found]
          exact ih further

theorem isMark_append {character : Char} {front rest : Text}
    (unmarked : isMark character front.head? = false) (noSlash : rest.head? ≠ some '/')
    (noStar : rest.head? ≠ some '*') : isMark character (front ++ rest).head? = false := by
  cases front with
  | cons second others => exact unmarked
  | nil =>
      unfold isMark at unmarked ⊢
      rw [Bool.or_eq_false_iff] at unmarked ⊢
      refine ⟨unmarked.1, ?_⟩
      rw [List.nil_append, beq_eq_false_iff_ne.mpr noSlash, beq_eq_false_iff_ne.mpr noStar]
      exact Bool.and_false _

/-- What follows a nested text is read as if it stood alone, unless it completes a comment mark. -/
theorem isNestedFrom_append {barred : Char → Bool} {due : List Char} {quotation : Quotation}
    {front rest : Text} (nested : isNestedFrom barred due quotation front = true)
    (noSlash : rest.head? ≠ some '/') (noStar : rest.head? ≠ some '*') :
    isNestedFrom barred due quotation (front ++ rest) = isNested barred rest := by
  induction front generalizing due quotation with
  | nil =>
      rw [isNestedFrom, Bool.and_eq_true, List.isEmpty_iff, beq_iff_eq] at nested
      rw [nested.1, nested.2, List.nil_append, isNested]
  | cons character front ih =>
      cases quotation with
      | within mark escaped =>
          rw [isNestedFrom_within] at nested
          rw [List.cons_append, isNestedFrom_within]
          exact ih nested
      | outside =>
          obtain ⟨unmarked, allowed, behind, found, further⟩ := isNestedFrom_outside nested
          have stillAllowed : (due.isEmpty && barred character) = false := by
            cases due with
            | nil => exact allowed rfl
            | cons closer others => rfl
          rw [List.cons_append, isNestedFrom, isMark_append unmarked noSlash noStar, stillAllowed, found]
          exact ih further

theorem isNested_append {barred : Char → Bool} {front rest : Text}
    (first : isNested barred front = true) (second : isNested barred rest = true)
    (noSlash : rest.head? ≠ some '/') (noStar : rest.head? ≠ some '*') :
    isNested barred (front ++ rest) = true := by
  have joined := isNestedFrom_append first noSlash noStar
  rw [second] at joined
  exact joined

theorem dueAfter?_append {due behind : List Char} {character : Char}
    (found : dueAfter? due character = some behind) (more : List Char) :
    dueAfter? (due ++ more) character = some (behind ++ more) := by
  unfold dueAfter? at found ⊢
  cases opens : closerOf? character with
  | some closer =>
      rw [opens] at found
      cases found
      rfl
  | none =>
      rw [opens] at found
      dsimp only at found ⊢
      by_cases closes : isCloser character = true
      · rw [if_pos closes] at found ⊢
        cases due with
        | nil => cases found
        | cons next others =>
            dsimp only [List.cons_append] at found ⊢
            by_cases same : next = character
            · rw [if_pos same] at found ⊢
              cases found
              rfl
            · rw [if_neg same] at found
              cases found
      · rw [if_neg closes] at found ⊢
        cases found
        rfl

/-- Inside a bracket nothing is barred, and the closer of the bracket is due behind a nested text. -/
theorem isNestedFrom_inside {inner barred : Char → Bool} {due : List Char} {quotation : Quotation}
    {text rest : Text} (closer : Char) (more : List Char)
    (nested : isNestedFrom inner due quotation text = true) (noSlash : rest.head? ≠ some '/')
    (noStar : rest.head? ≠ some '*') :
    isNestedFrom barred (due ++ closer :: more) quotation (text ++ rest) =
      isNestedFrom barred (closer :: more) .outside rest := by
  induction text generalizing due quotation with
  | nil =>
      rw [isNestedFrom, Bool.and_eq_true, List.isEmpty_iff, beq_iff_eq] at nested
      rw [nested.1, nested.2]
      rfl
  | cons character text ih =>
      cases quotation with
      | within mark escaped =>
          rw [isNestedFrom_within] at nested
          rw [List.cons_append, isNestedFrom_within]
          exact ih nested
      | outside =>
          obtain ⟨unmarked, -, behind, found, further⟩ := isNestedFrom_outside nested
          have allowed : ((due ++ closer :: more).isEmpty && barred character) = false := by
            cases due <;> rfl
          rw [List.cons_append, isNestedFrom, isMark_append unmarked noSlash noStar, allowed,
            dueAfter?_append found]
          exact ih further

/-- A nested text in brackets. -/
theorem isNested_group {barred : Char → Bool} {opener closer : Char}
    (closes : closerOf? opener = some closer) (allowed : barred opener = false) {inner rest : Text}
    (nested : isNested unbarred inner = true) (behind : isNested barred rest = true) :
    isNested barred (opener :: (inner ++ closer :: rest)) = true := by
  have brackets : (opener = '(' ∧ closer = ')') ∨ (opener = '[' ∧ closer = ']') ∨
      (opener = '\x7b' ∧ closer = '\x7d') := by
    unfold closerOf? at closes
    split at closes
    · exact .inl ⟨rfl, (Option.some.inj closes).symm⟩
    · exact .inr (.inl ⟨rfl, (Option.some.inj closes).symm⟩)
    · exact .inr (.inr ⟨rfl, (Option.some.inj closes).symm⟩)
    · cases closes
  have inside (noSlash : closer ≠ '/') (noStar : closer ≠ '*') :=
    @isNestedFrom_inside unbarred barred [] .outside inner (closer :: rest) closer [] nested
      (by simpa using noSlash) (by simpa using noStar)
  unfold isNested at behind ⊢
  rw [isNestedFrom, allowed]
  rcases brackets with ⟨rfl, rfl⟩ | ⟨rfl, rfl⟩ | ⟨rfl, rfl⟩
  all_goals
    exact (inside (by decide) (by decide)).trans behind

/-- Whether a character means nothing to either reader, whatever stands around it. -/
def isSilent (barred : Char → Bool) (character : Char) : Bool :=
  isPlain character && isFlat character && !barred character

theorem isNested_cons {barred : Char → Bool} {character : Char} {rest : Text}
    (silent : isSilent barred character = true) (nested : isNested barred rest = true) :
    isNested barred (character :: rest) = true := by
  simp only [isSilent, Bool.and_eq_true, Bool.not_eq_true'] at silent
  obtain ⟨⟨plain, flat⟩, allowed⟩ := silent
  have step := step_flat flat
  simp only [isPlain, isFlat, Bool.not_eq_true', Bool.or_eq_false_iff] at plain flat
  have unopened : closerOf? character = none := Option.isNone_iff_eq_none.mp (by
    rw [← Option.not_isSome, show (closerOf? character).isSome = false from flat.1.2]
    rfl)
  have due : dueAfter? [] character = some [] := by
    unfold dueAfter?
    rw [unopened, flat.2]
    rfl
  have unmarked : isMark character rest.head? = false := by
    unfold isMark
    rw [plain.1.1.1.1, plain.2]
    rfl
  rw [isNested, isNestedFrom, unmarked, allowed, due, step]
  exact nested

/-- Text of silent characters in front of nested text. -/
theorem isNested_silent_append {barred : Char → Bool} {front rest : Text}
    (silent : ∀ character ∈ front, isSilent barred character = true)
    (nested : isNested barred rest = true) : isNested barred (front ++ rest) = true := by
  induction front with
  | nil => exact nested
  | cons character front ih =>
      exact isNested_cons (silent character List.mem_cons_self)
        (ih fun other member => silent other (List.mem_cons_of_mem character member))

theorem isNested_of_silent {barred : Char → Bool} {text : Text}
    (silent : ∀ character ∈ text, isSilent barred character = true) : isNested barred text = true := by
  have alone := isNested_silent_append silent (show isNested barred [] = true from rfl)
  rwa [List.append_nil] at alone

/-! ### Pieces -/

/-- A nested text without separators belongs to one piece as a whole. -/
theorem topLevelSegments_nested {isSeparator barred : Char → Bool}
    (bars : ∀ character, isSeparator character = true → barred character = true)
    {due : List Char} {quotation : Quotation} {text : Text}
    (nested : isNestedFrom barred due quotation text = true) (rest : Text) :
    topLevelSegments isSeparator quotation due.length (text ++ rest) =
      text.foldr Text.consHead (topLevelSegments isSeparator .outside 0 rest) := by
  induction text generalizing due quotation with
  | nil =>
      rw [isNestedFrom, Bool.and_eq_true, List.isEmpty_iff, beq_iff_eq] at nested
      rw [nested.1, nested.2]
      rfl
  | cons character text ih =>
      cases quotation with
      | within mark escaped =>
          rw [isNestedFrom_within] at nested
          rw [List.cons_append, topLevelSegments, ih nested, List.foldr_cons]
      | outside =>
          obtain ⟨-, allowed, behind, found, further⟩ := isNestedFrom_outside nested
          have kept : (isQuoteMark character || isOpener character || isCloser character ||
              !isSeparator character || due.length != 0) = true := by
            cases due with
            | cons closer others => exact Bool.or_true _
            | nil =>
                have inside : isSeparator character = false := by
                  by_contra separates
                  rw [bars character (Bool.not_eq_false _ ▸ separates)] at allowed
                  cases allowed rfl
                rw [inside]
                simp
          rw [List.cons_append, topLevelSegments, if_pos kept, length_dueAfter found, ih further,
            List.foldr_cons]

theorem foldr_consHead (text piece : Text) (pieces : List Text) :
    text.foldr Text.consHead (piece :: pieces) = (text ++ piece) :: pieces := by
  induction text with
  | nil => rfl
  | cons character text ih =>
      rw [List.foldr_cons, ih]
      rfl

section Splitting

variable {barred : Char → Bool} {separator : Char} {text : Text}

theorem barred_of_eq (bars : barred separator = true) (character : Char)
    (same : (character == separator) = true) : barred character = true := by
  rwa [beq_iff_eq.mp same]

theorem splitTopLevelAt_nested_append (bars : barred separator = true)
    (flat : isFlat separator = true) (nested : isNested barred text = true) (rest : Text) :
    splitTopLevelAt separator (text ++ separator :: rest) =
      Text.trim text :: splitTopLevelAt separator rest := by
  have separates := @topLevelSegments_separator (fun character => character == separator) separator
    flat (beq_self_eq_true separator) rest
  have passed := topLevelSegments_nested (barred_of_eq bars) nested (separator :: rest)
  rw [separates, foldr_consHead, List.append_nil] at passed
  exact (congrArg (List.map Text.trim) passed).trans List.map_cons

theorem splitTopLevelAt_nested (bars : barred separator = true) (nested : isNested barred text = true) :
    splitTopLevelAt separator text = [Text.trim text] := by
  have passed := topLevelSegments_nested (barred_of_eq bars) nested []
  rw [topLevelSegments, foldr_consHead, List.append_nil] at passed
  exact congrArg (List.map Text.trim) passed

end Splitting

/-! ### Code -/

inductive SeesAs : Quotation → Zone → Bool → Prop
  | outside : SeesAs .outside .code false
  | string (escaped : Bool) : SeesAs (.within '"' escaped) .string escaped
  | character (escaped : Bool) : SeesAs (.within '\x27' escaped) .character escaped
  | raw : SeesAs (.within '\x60' false) .raw false

namespace SeesAs

open CodeScan

/-- Inside a literal both readers go on alike. -/
theorem within {mark : Char} {escaped : Bool} {zone : Zone} {bound : Bool}
    (sees : SeesAs (.within mark escaped) zone bound) (character : Char) (next : Option Char) :
    ∃ after boundAfter, readCharacter zone bound character next = .inert after boundAfter ∧
      SeesAs ((Quotation.within mark escaped).step character) after boundAfter := by
  cases sees with
  | string =>
      cases escaped with
      | true => exact ⟨_, _, rfl, .string false⟩
      | false =>
          by_cases backslash : character = '\\'
          · rw [backslash]
            exact ⟨_, _, rfl, .string true⟩
          · by_cases closes : character = '"'
            · rw [closes]
              exact ⟨_, _, rfl, .outside⟩
            · refine ⟨.string, false, ?_, ?_⟩
              · simp [readCharacter, backslash, closes]
              · simp only [Quotation.step, backslash, closes, false_and, if_false]
                exact .string false
  | character =>
      cases escaped with
      | true => exact ⟨_, _, rfl, .character false⟩
      | false =>
          by_cases backslash : character = '\\'
          · rw [backslash]
            exact ⟨_, _, rfl, .character true⟩
          · by_cases closes : character = '\x27'
            · rw [closes]
              exact ⟨_, _, rfl, .outside⟩
            · refine ⟨.character, false, ?_, ?_⟩
              · simp [readCharacter, backslash, closes]
              · simp only [Quotation.step, backslash, closes, false_and, if_false]
                exact .character false
  | raw =>
      by_cases closes : character = '\x60'
      · rw [closes]
        exact ⟨_, _, rfl, .outside⟩
      · refine ⟨.raw, false, ?_, ?_⟩
        · simp [readCharacter, closes]
        · simp only [Quotation.step, closes, ne_eq, not_true_eq_false, and_false, if_false]
          exact .raw

/-- Outside literals a character opens a literal for both readers or is structure. -/
theorem outside_step (character : Char) (next : Option Char) (unmarked : isMark character next = false) :
    (∃ zone, readCharacter .code false character next = .inert zone false ∧
        closerOf? character = none ∧ isCloser character = false ∧
        SeesAs (Quotation.outside.step character) zone false) ∨
      readCharacter .code false character next = .structural ∧
        Quotation.outside.step character = .outside := by
  simp only [isMark, Bool.or_eq_false_iff, beq_eq_false_iff_ne, Bool.and_eq_false_imp, beq_iff_eq] at unmarked
  obtain ⟨backslash, slash⟩ := unmarked
  by_cases double : character = '"'
  · rw [double]
    exact .inl ⟨.string, rfl, rfl, rfl, .string false⟩
  by_cases single : character = '\x27'
  · rw [single]
    exact .inl ⟨.character, rfl, rfl, rfl, .character false⟩
  by_cases raw : character = '\x60'
  · rw [raw]
    exact .inl ⟨.raw, rfl, rfl, rfl, .raw⟩
  refine .inr ⟨?_, ?_⟩
  · have noLine : ¬ (character = '/' ∧ next = some '/') := fun both => (slash both.1).1 both.2
    have noBlock : ¬ (character = '/' ∧ next = some '*') := fun both => (slash both.1).2 both.2
    simp only [readCharacter, backslash, double, single, raw, noLine, noBlock, Bool.false_eq_true,
      if_false]
  · simp [Quotation.step, isQuoteMark, double, single, raw]

end SeesAs

/-- A brace and the closing braces that are due behind it. -/
theorem count_dueAfter {due behind : List Char} {character : Char}
    (found : dueAfter? due character = some behind) :
    [character].count '\x7b' + due.count '\x7d' = [character].count '\x7d' + behind.count '\x7d' := by
  unfold dueAfter? at found
  by_cases opener : character = '\x7b'
  · rw [opener] at found ⊢
    cases found
    have none : ['\x7b'].count '\x7d' = 0 := by decide
    have one : ['\x7b'].count '\x7b' = 1 := by decide
    rw [none, one, List.count_cons_self, Nat.zero_add, Nat.add_comm]
  by_cases round : character = '('
  · rw [round] at found ⊢
    cases found
    rfl
  by_cases square : character = '['
  · rw [square] at found ⊢
    cases found
    rfl
  have unopened : closerOf? character = none := by
    unfold closerOf?
    split
    · exact absurd rfl round
    · exact absurd rfl square
    · exact absurd rfl opener
    · rfl
  have noOpener : [character].count '\x7b' = 0 := by
    rw [List.count_singleton, beq_eq_false_iff_ne.mpr opener]
    rfl
  rw [unopened] at found
  dsimp only at found
  rw [noOpener, Nat.zero_add]
  by_cases closes : isCloser character = true
  · rw [if_pos closes] at found
    cases due with
    | nil => cases found
    | cons next others =>
        dsimp only at found
        by_cases same : next = character
        · rw [if_pos same] at found
          cases found
          rw [same, ← List.singleton_append, List.count_append]
        · rw [if_neg same] at found
          cases found
  · rw [if_neg closes] at found
    cases found
    have noCloser : character ≠ '\x7d' := by
      intro same
      rw [same] at closes
      exact closes rfl
    rw [List.count_singleton, beq_eq_false_iff_ne.mpr noCloser]
    exact (Nat.zero_add _).symm

/-- A text that is read from code to code, with the closing braces that its opening ones lack. -/
structure ReadsThrough (scan : CodeScan) (lacking : Nat) : Prop where
  comment : scan.comment = none
  zone : scan.zone = .code
  escaped : scan.escaped = false
  braces : scan.bare.count '\x7b' + lacking = scan.bare.count '\x7d'

theorem readsThrough_nested {barred : Char → Bool} {due : List Char} {quotation : Quotation}
    {text : Text} {zone : Zone} {bound : Bool} (sees : SeesAs quotation zone bound)
    (nested : isNestedFrom barred due quotation text = true) :
    ReadsThrough (CodeScan.ofText zone bound text) (due.count '\x7d') := by
  induction text generalizing due quotation zone bound with
  | nil =>
      rw [isNestedFrom, Bool.and_eq_true, List.isEmpty_iff, beq_iff_eq] at nested
      rw [nested.1]
      rw [nested.2] at sees
      cases sees
      exact ⟨rfl, rfl, rfl, rfl⟩
  | cons character text ih =>
      rw [CodeScan.ofText_cons]
      cases quotation with
      | within mark escaped =>
          rw [isNestedFrom_within] at nested
          obtain ⟨after, boundAfter, reading, still⟩ := sees.within character text.head?
          obtain ⟨comment, zone, escaped, braces⟩ := ih still nested
          rw [reading]
          exact ⟨comment, zone, escaped, braces⟩
      | outside =>
          cases sees
          obtain ⟨unmarked, -, behind, found, further⟩ := isNestedFrom_outside nested
          have counted := count_dueAfter found
          rcases SeesAs.outside_step character text.head? unmarked with
            ⟨zone, reading, opener, closer, still⟩ | ⟨reading, still⟩
          · obtain ⟨comment, zone, escaped, braces⟩ := ih still further
            have same : behind = due := by
              unfold dueAfter? at found
              rw [opener, closer] at found
              cases found
              rfl
            rw [reading, ← same]
            exact ⟨comment, zone, escaped, braces⟩
          · rw [still] at further
            obtain ⟨comment, zone, escaped, braces⟩ := ih .outside further
            rw [reading]
            refine ⟨comment, zone, escaped, ?_⟩
            change (character :: _).count '\x7b' + _ = (character :: _).count '\x7d'
            rw [← List.singleton_append, List.count_append, List.count_append]
            omega

theorem endsInCode_nested {barred : Char → Bool} {text : Text} (nested : isNested barred text = true) :
    EndsInCode text :=
  have through := readsThrough_nested .outside nested
  ⟨through.comment, through.zone, through.escaped⟩

/-- Nested text does not move the balance of braces. -/
theorem braceDelta_nested {barred : Char → Bool} {text : Text} (nested : isNested barred text = true) :
    braceDelta text = 0 := by
  have braces := (readsThrough_nested .outside nested).braces
  rw [List.count_nil, Nat.add_zero] at braces
  unfold braceDelta
  dsimp only
  rw [scanCode, braces, Int.sub_self]

end DocSite
