/-
Bodies, one line at a time.

The loops over the bodies of aggregates and enums differ only in what a line of code records, in front of the
body and inside it. With these rules as a parameter both are one walk that goes from state to state by single
lines. Such a walk never looks past the line that ends it, so what stands behind that line is free.
-/
import DocSite.Proofs.Doc.Turns
import DocSite.Proofs.Walk.Comment

namespace DocSite

/-- Where a walk over a container stands between two lines: in front of the body, or inside it with the
members recorded so far. The balance is that of the braces. -/
inductive BodyState (Member : Type) where
  | pending (balance : Int)
  | inside (balance : Int) (reader : CommentReader) (members : List Member)
  deriving DecidableEq

def BodyState.members {Member : Type} : BodyState Member → List Member
  | .pending _ => []
  | .inside _ _ members => members

inductive BodyTurn (Member : Type) where
  | goes (state : BodyState Member)
  | ends (members : List Member)
  deriving DecidableEq

/-- What lines of code mean to a walk over a container. -/
structure BodyRules (Member : Type) where
  header : Line → BodyTurn Member
  /-- A line in front of the body, at the balance before the line. -/
  pending : Int → Line → BodyTurn Member
  /-- What a line inside the body records, and the balance and the register behind it unless it ends the
  body. -/
  inside : Int → CommentRegister → Line → List Member × Option (Int × CommentRegister)

namespace BodyRules

variable {Member : Type} (rules : BodyRules Member)

def stepInside (balance : Int) (register : CommentRegister) (members : List Member) (line : Line) :
    BodyTurn Member :=
  match rules.inside balance register line with
  | (more, some (after, next)) => .goes (.inside after (.idle next) (members ++ more))
  | (more, none) => .ends (members ++ more)

def step : BodyState Member → Line → BodyTurn Member
  | .pending balance, line => rules.pending balance line
  | .inside balance reader members, line =>
      match reader.read? line.text with
      | some next => .goes (.inside balance next members)
      | none => rules.stepInside balance reader.register members line

def run (state : BodyState Member) : List Line → List Member × List Line
  | [] => (state.members, [])
  | line :: rest =>
      match rules.step state line with
      | .ends members => (members, rest)
      | .goes next => run next rest

def finish : BodyTurn Member → List Line → List Member × List Line
  | .ends members, rest => (members, rest)
  | .goes next, rest => rules.run next rest

theorem run_cons (state : BodyState Member) (line : Line) (rest : List Line) :
    rules.run state (line :: rest) = rules.finish (rules.step state line) rest := by
  rw [run]
  cases rules.step state line <;> rfl

def scan (first : Line) (rest : List Line) : List Member × List Line :=
  rules.finish (rules.header first) rest

/-! ### Nothing behind the last line matters -/

theorem run_confined (state : BodyState Member) (lines : List Line)
    (stops : (rules.run state lines).2 ≠ []) :
    ∃ front, lines = front ++ (rules.run state lines).2 ∧
      ∀ others, rules.run state (front ++ others) = ((rules.run state lines).1, others) := by
  induction lines generalizing state with
  | nil => exact absurd rfl stops
  | cons line rest ih =>
      rw [run_cons] at stops ⊢
      cases turn : rules.step state line with
      | ends members =>
          refine ⟨[line], rfl, ?_⟩
          intro others
          rw [List.singleton_append, run_cons, turn]
          rfl
      | goes next =>
          rw [turn] at stops
          obtain ⟨front, split, free⟩ := ih next stops
          refine ⟨line :: front, congrArg (List.cons line) split, ?_⟩
          intro others
          rw [List.cons_append, run_cons, turn]
          exact free others

theorem scan_confined (first : Line) (rest : List Line) (stops : (rules.scan first rest).2 ≠ []) :
    ∃ front, rest = front ++ (rules.scan first rest).2 ∧
      ∀ others, rules.scan first (front ++ others) = ((rules.scan first rest).1, others) := by
  unfold scan at stops ⊢
  cases turn : rules.header first with
  | ends members => exact ⟨[], rfl, fun others => rfl⟩
  | goes next =>
      rw [turn] at stops
      exact rules.run_confined next rest stops

/-! ### Comments on the way -/

theorem run_readAll? {reader next : CommentReader} {front : List Line}
    (reads : reader.readAll? front = some next) (balance : Int) (members : List Member)
    (rest : List Line) :
    rules.run (.inside balance reader members) (front ++ rest) =
      rules.run (.inside balance next members) rest := by
  induction front generalizing reader with
  | nil =>
      cases reads
      rfl
  | cons line front ih =>
      rw [CommentReader.readAll?] at reads
      obtain ⟨after, here, further⟩ := Option.bind_eq_some_iff.mp reads
      rw [List.cons_append, run_cons, step, here]
      exact ih further

/-- A loop over a body that takes its turns by the rules is the walk. -/
theorem run_inside (body : Int → CommentRegister → List Line → List Member × List Line)
    (nil : ∀ balance register, body balance register [] = ([], []))
    (consumed : ∀ balance register next line rest remaining,
      register.consume? line rest = some (next, remaining) →
        body balance register (line :: rest) = body balance next remaining)
    (ignored : ∀ balance register line rest, register.consume? line rest = none →
      body balance register (line :: rest) =
        match rules.inside balance register line with
        | (more, some (after, next)) =>
            (more ++ (body after next rest).1, (body after next rest).2)
        | (more, none) => (more, rest))
    (balance : Int) (register : CommentRegister) (members : List Member) (lines : List Line) :
    rules.run (.inside balance (.idle register) members) lines =
      (members ++ (body balance register lines).1, (body balance register lines).2) := by
  induction measured : lines.length using Nat.strongRecOn
    generalizing balance register members lines with
  | ind size ih =>
      subst measured
      cases lines with
      | nil =>
          rw [nil, List.append_nil]
          rfl
      | cons line rest =>
          cases found : register.consume? line rest with
          | some turn =>
              obtain ⟨next, remaining⟩ := turn
              have shorter := CommentRegister.consume?_length_le found
              obtain ⟨front, reader, split, reads, ends⟩ := CommentReader.consume?_read found
              have further := ih remaining.length (Nat.lt_succ_of_le shorter) balance next members
                remaining rfl
              rw [consumed _ _ _ _ _ _ found, ← further]
              subst split
              rw [← List.cons_append, rules.run_readAll? reads]
              rcases ends with closed | atEnd
              · rw [closed]
              · subst atEnd
                rfl
          | none =>
              have code : (CommentReader.idle register).read? line.text = none :=
                (CommentReader.read?_idle_eq_none_iff register line rest).mpr found
              rw [ignored _ _ _ _ found, run_cons, step, code]
              simp only [stepInside, CommentReader.register]
              rcases rules.inside balance register line with ⟨more, _ | ⟨after, next⟩⟩
              · rfl
              · simp only [finish]
                rw [ih rest.length (Nat.lt_succ_self _) after next (members ++ more) rest rfl,
                  List.append_assoc]

end BodyRules

/-! ### Aggregates -/

/-- A line in front of the body of an aggregate. A semicolon before the body ends the declaration. -/
def pendingAggregateTurn (balance : Int) (line : Line) : BodyTurn AggregateMember :=
  let code := codeOf line.text
  let after := balance + braceDelta code
  if opensBrace code then
    let inline := inlineMembers (bodySegment code true (decide (after ≤ 0))) line.number
    if after ≤ 0 then .ends inline else .goes (.inside after (.idle .empty) inline)
  else if Text.endsWith ';' code then .ends []
  else .goes (.pending after)

def insideAggregate (balance : Int) (register : CommentRegister) (line : Line) :
    List AggregateMember × Option (Int × CommentRegister) :=
  let (code, trailing) := splitLineComment line.text
  let delta := braceDelta code
  let after := balance + delta
  if closesBody after delta code then
    (if balance = 1 then inlineMembers (bodySegment code false true) line.number else [], none)
  else
    let (members, next) := memberOfLine balance after register code trailing line.number
    (members, some (after, next))

def aggregateRules : BodyRules AggregateMember where
  header := pendingAggregateTurn 0
  pending := pendingAggregateTurn
  inside := insideAggregate

theorem run_insideAggregate (balance : Int) (register : CommentRegister)
    (members : List AggregateMember) (lines : List Line) :
    aggregateRules.run (.inside balance (.idle register) members) lines =
      (members ++ (openAggregateBody balance register lines).1,
        (openAggregateBody balance register lines).2) := by
  apply aggregateRules.run_inside openAggregateBody
  · intro balance register
    rw [openAggregateBody]
  · intro balance register next line rest remaining consumed
    exact openAggregateBody_consumed consumed
  · intro balance register line rest ignored
    rw [openAggregateBody_ignored ignored]
    simp only [aggregateRules, insideAggregate]
    by_cases closes : closesBody (balance + braceDelta (splitLineComment line.text).1)
        (braceDelta (splitLineComment line.text).1) (splitLineComment line.text).1 = true
    · rw [if_pos closes, if_pos closes]
    · rw [if_neg closes, if_neg closes]

theorem run_pendingAggregate (balance : Int) (lines : List Line) :
    aggregateRules.run (.pending balance) lines = pendingAggregateBody balance lines := by
  induction lines generalizing balance with
  | nil => rfl
  | cons line rest ih =>
      rw [BodyRules.run_cons, pendingAggregateBody]
      simp only [BodyRules.step, aggregateRules, pendingAggregateTurn, aggregateBodyFrom]
      by_cases opens : opensBrace (codeOf line.text) = true
      · simp only [opens, if_true]
        by_cases closed : balance + braceDelta (codeOf line.text) ≤ 0
        · simp only [closed, decide_true, if_true]
          rfl
        · simp only [closed, decide_false, if_false, Bool.false_eq_true]
          exact run_insideAggregate _ .empty _ rest
      · simp only [opens, Bool.false_eq_true, if_false]
        by_cases ends : Text.endsWith ';' (codeOf line.text) = true
        · simp only [ends, if_true]
          rfl
        · simp only [ends, Bool.false_eq_true, if_false]
          exact ih _

theorem scan_aggregateRules (first : Line) (rest : List Line) :
    aggregateRules.scan first rest = aggregateBody first rest := by
  unfold aggregateBody
  rw [← run_pendingAggregate, BodyRules.run_cons]
  rfl

/-! ### Enums -/

def enumTurn (balance : Int) (closed : Bool) (found : List EnumMemberDoc × CommentRegister) :
    BodyTurn EnumMemberDoc :=
  if closed then .ends found.1 else .goes (.inside balance (.idle found.2) found.1)

/-- The header of an enum. Here a segment that is not empty takes the trailing comment, whatever it has. -/
def enumHeaderTurn (line : Line) : BodyTurn EnumMemberDoc :=
  let (code, trailing) := splitLineComment line.text
  let balance := braceDelta code
  if opensBrace code then
    let segment := bodySegment code true (decide (balance ≤ 0))
    enumTurn balance (decide (balance ≤ 0))
      (if segment.isEmpty then ([], .empty) else attachMembers segment line.number .empty trailing)
  else if Text.endsWith ';' code then .ends []
  else .goes (.pending balance)

/-- A line in front of the body of an enum. A semicolon before the body ends the declaration. -/
def pendingEnumTurn (balance : Int) (line : Line) : BodyTurn EnumMemberDoc :=
  let (code, trailing) := splitLineComment line.text
  let delta := braceDelta code
  let after := balance + delta
  if opensBrace code then
    let closed := closesBody after delta code
    enumTurn after closed (membersOfLine balance closed .empty code trailing line.number true)
  else if Text.endsWith ';' code then .ends []
  else .goes (.pending after)

def insideEnum (balance : Int) (register : CommentRegister) (line : Line) :
    List EnumMemberDoc × Option (Int × CommentRegister) :=
  let (code, trailing) := splitLineComment line.text
  let delta := braceDelta code
  let after := balance + delta
  let closed := closesBody after delta code
  let (members, next) := membersOfLine balance closed register code trailing line.number false
  (members, if closed then none else some (after, next))

def enumRules : BodyRules EnumMemberDoc where
  header := enumHeaderTurn
  pending := pendingEnumTurn
  inside := insideEnum

theorem run_insideEnum (balance : Int) (register : CommentRegister) (members : List EnumMemberDoc)
    (lines : List Line) :
    enumRules.run (.inside balance (.idle register) members) lines =
      (members ++ (openEnumBody balance register lines).1,
        (openEnumBody balance register lines).2) := by
  apply enumRules.run_inside openEnumBody
  · intro balance register
    rw [openEnumBody]
  · intro balance register next line rest remaining consumed
    exact openEnumBody_consumed consumed
  · intro balance register line rest ignored
    rw [openEnumBody_ignored ignored]
    simp only [enumRules, insideEnum]
    by_cases closes : closesBody (balance + braceDelta (splitLineComment line.text).1)
        (braceDelta (splitLineComment line.text).1) (splitLineComment line.text).1 = true
    · rw [if_pos closes, if_pos closes]
    · rw [if_neg closes, if_neg closes]

theorem finish_enumTurn (balance : Int) (closed : Bool)
    (found : List EnumMemberDoc × CommentRegister) (rest : List Line) :
    enumRules.finish (enumTurn balance closed found) rest =
      if closed then (found.1, rest)
      else (found.1 ++ (openEnumBody balance found.2 rest).1,
        (openEnumBody balance found.2 rest).2) := by
  cases closed with
  | true => rfl
  | false => exact run_insideEnum balance found.2 found.1 rest

theorem run_pendingEnum (balance : Int) (lines : List Line) :
    enumRules.run (.pending balance) lines = pendingEnumBody balance lines := by
  induction lines generalizing balance with
  | nil => rfl
  | cons line rest ih =>
      rw [BodyRules.run_cons, pendingEnumBody]
      simp only [BodyRules.step, enumRules, pendingEnumTurn]
      by_cases opens : opensBrace (splitLineComment line.text).1 = true
      · simp only [opens, if_true]
        exact finish_enumTurn _ _ _ rest
      · simp only [opens, Bool.false_eq_true, if_false]
        by_cases ends : Text.endsWith ';' (splitLineComment line.text).1 = true
        · simp only [ends, if_true]
          rfl
        · simp only [ends, Bool.false_eq_true, if_false]
          exact ih _

theorem scan_enumRules (first : Line) (rest : List Line) :
    enumRules.scan first rest = enumBody first rest := by
  unfold BodyRules.scan enumBody
  simp only [enumRules, enumHeaderTurn]
  by_cases opens : opensBrace (splitLineComment first.text).1 = true
  · simp only [opens, if_true]
    exact finish_enumTurn _ _ _ rest
  · simp only [opens, Bool.false_eq_true, if_false]
    by_cases ends : Text.endsWith ';' (splitLineComment first.text).1 = true
    · simp only [ends, if_true]
      rfl
    · simp only [ends, Bool.false_eq_true, if_false]
      exact run_pendingEnum _ rest

end DocSite
