/-
Reading one line of code.

How a character is read depends on the zone, on whether it is bound, and on the one character after it.
From this single-step form follow the facts that hold of whole lines: the code is a beginning of the
line, and reading a beginning of the code again finds no line comment.
-/
import DocSite.Source.Code
import DocSite.Proofs.Text.Trim

namespace DocSite
namespace CodeScan

/-! ### One character -/

inductive Reading where
  | inert (zone : Zone) (bound : Bool)
  | structural
  | lineComment
  deriving DecidableEq, Repr

def readCharacter (zone : Zone) (bound : Bool) (character : Char) (next : Option Char) : Reading :=
  if bound then .inert zone false
  else
    match zone with
    | .block => if character = '*' ∧ next = some '/' then .inert .code true else .inert .block false
    | .raw => .inert (if character = '\x60' then .code else .raw) false
    | .string =>
        if character = '\\' then .inert .string true
        else .inert (if character = '"' then .code else .string) false
    | .character =>
        if character = '\\' then .inert .character true
        else .inert (if character = '\x27' then .code else .character) false
    | .code =>
        if character = '\\' then .inert .code true
        else if character = '"' then .inert .string false
        else if character = '\x27' then .inert .character false
        else if character = '\x60' then .inert .raw false
        else if character = '/' ∧ next = some '/' then .lineComment
        else if character = '/' ∧ next = some '*' then .inert .block true
        else .structural

def Reading.scan (reading : Reading) (character : Char) (rest : Text) : CodeScan :=
  match reading with
  | .inert zone bound => (ofText zone bound rest).pass character
  | .structural => (ofText .code false rest).mark character
  | .lineComment => ⟨[], [], some rest.tail, .code, false⟩

theorem ofText_cons (zone : Zone) (bound : Bool) (character : Char) (rest : Text) :
    ofText zone bound (character :: rest) =
      (readCharacter zone bound character rest.head?).scan character rest := by
  cases bound with
  | true => rfl
  | false =>
      cases zone <;> simp only [ofText, readCharacter, Bool.false_eq_true, if_false]
      case raw => rfl
      all_goals split_ifs <;> rfl

/-- Only the slash before another slash begins a line comment. -/
theorem readCharacter_eq_lineComment {zone : Zone} {bound : Bool} {character : Char}
    {next : Option Char} (reading : readCharacter zone bound character next = .lineComment) :
    zone = .code ∧ bound = false ∧ character = '/' ∧ next = some '/' := by
  cases bound with
  | true => cases reading
  | false =>
      cases zone <;> simp only [readCharacter, Bool.false_eq_true, if_false] at reading
      case code =>
        split_ifs at reading with _ _ _ _ slashes
        exact ⟨rfl, rfl, slashes.1, slashes.2⟩
      case raw => cases reading
      all_goals split_ifs at reading

/-! ### Whole lines -/

theorem code_begins (zone : Zone) (bound : Bool) (text : Text) :
    (ofText zone bound text).code <+: text := by
  induction text generalizing zone bound with
  | nil => exact List.nil_prefix
  | cons character rest ih =>
      rw [ofText_cons]
      cases readCharacter zone bound character rest.head? with
      | inert zone bound => exact (List.prefix_cons_inj character).mpr (ih zone bound)
      | structural => exact (List.prefix_cons_inj character).mpr (ih .code false)
      | lineComment => exact List.nil_prefix

/-- Nothing becomes structure that does not stand in the text. -/
theorem bare_sublist (zone : Zone) (bound : Bool) (text : Text) :
    (ofText zone bound text).bare.Sublist text := by
  induction text generalizing zone bound with
  | nil => exact List.Sublist.slnil
  | cons character rest ih =>
      rw [ofText_cons]
      cases readCharacter zone bound character rest.head? with
      | inert zone bound => exact (ih zone bound).cons character
      | structural => exact (ih .code false).cons_cons character
      | lineComment => exact List.nil_sublist _

/-- Without a character behind it nothing begins a line comment. -/
theorem ofText_singleton (zone : Zone) (bound : Bool) (character : Char) :
    (ofText zone bound [character]).code = [character] ∧
      (ofText zone bound [character]).comment = none := by
  rw [ofText_cons]
  cases reading : readCharacter zone bound character ([] : Text).head? with
  | inert zone bound => exact ⟨rfl, rfl⟩
  | structural => exact ⟨rfl, rfl⟩
  | lineComment => cases (readCharacter_eq_lineComment reading).2.2.2

/-- A beginning of the code of a text is read as code to its end. -/
theorem ofText_of_prefix_code {zone : Zone} {bound : Bool} {text start : Text}
    (isStart : start <+: (ofText zone bound text).code) :
    (ofText zone bound start).code = start ∧ (ofText zone bound start).comment = none := by
  induction text generalizing zone bound start with
  | nil =>
      rw [List.prefix_nil.mp isStart]
      exact ⟨rfl, rfl⟩
  | cons character rest ih =>
      rcases start with _ | ⟨first, _ | ⟨second, further⟩⟩
      · exact ⟨rfl, rfl⟩
      · exact ofText_singleton zone bound first
      · -- Two characters are left, so the first one is read as it is in the whole text.
        obtain ⟨same, inside⟩ := List.cons_prefix_cons.mp
          (isStart.trans (code_begins zone bound (character :: rest)))
        have next : rest.head? = some second := by
          obtain ⟨more, equal⟩ := inside
          rw [← equal]
          rfl
        subst same
        rw [ofText_cons, next] at isStart
        rw [ofText_cons, List.head?_cons]
        generalize readCharacter zone bound first (some second) = reading at isStart ⊢
        cases reading with
        | inert zone bound =>
            change _ <+: first :: (ofText zone bound rest).code at isStart
            obtain ⟨code, comment⟩ := ih (List.cons_prefix_cons.mp isStart).2
            exact ⟨congrArg (List.cons first) code, comment⟩
        | structural =>
            change _ <+: first :: (ofText .code false rest).code at isStart
            obtain ⟨code, comment⟩ := ih (List.cons_prefix_cons.mp isStart).2
            exact ⟨congrArg (List.cons first) code, comment⟩
        | lineComment =>
            change _ <+: [] at isStart
            cases List.prefix_nil.mp isStart

end CodeScan

/-! ### The code of a line -/

theorem codeOf_begins (line : Text) : codeOf line <+: line :=
  (Text.trimRight_begins _).trans (CodeScan.code_begins .code false line)

/-- The code of code is the code itself, and it has no line comment. -/
theorem splitLineComment_codeOf (line : Text) :
    splitLineComment (codeOf line) = (codeOf line, []) := by
  obtain ⟨code, comment⟩ :=
    CodeScan.ofText_of_prefix_code (Text.trimRight_begins (scanCode line).code)
  have codeAgain : (scanCode (codeOf line)).code = codeOf line := code
  have commentAgain : (scanCode (codeOf line)).comment = none := comment
  simp only [splitLineComment, codeAgain, commentAgain, Option.getD_none]
  exact Prod.ext (Text.trimRight_trimRight _) rfl

theorem codeOf_codeOf (line : Text) : codeOf (codeOf line) = codeOf line :=
  (congrArg Prod.fst (splitLineComment_codeOf line) : (splitLineComment (codeOf line)).1 = _)

/-- The code of a line that starts with no blank starts with none either. -/
theorem startsInk_codeOf {line : Text} (ink : Text.StartsInk line) : Text.StartsInk (codeOf line) :=
  ink.of_start (codeOf_begins line)

theorem trim_codeOf {line : Text} (ink : Text.StartsInk line) :
    Text.trim (codeOf line) = codeOf line := by
  rw [Text.trim_eq_trimRight (startsInk_codeOf ink)]
  exact Text.trimRight_trimRight (scanCode line).code

/-- A text without braces does not move the balance. -/
theorem braceDelta_eq_zero {line : Text} (noOpener : '\x7b' ∉ line) (noCloser : '\x7d' ∉ line) :
    braceDelta line = 0 := by
  have inside := CodeScan.bare_sublist .code false line
  have openers : (scanCode line).bare.count '\x7b' = 0 :=
    List.count_eq_zero.mpr fun member => noOpener (inside.mem member)
  have closers : (scanCode line).bare.count '\x7d' = 0 :=
    List.count_eq_zero.mpr fun member => noCloser (inside.mem member)
  unfold braceDelta
  dsimp only
  rw [openers, closers]
  rfl

end DocSite
