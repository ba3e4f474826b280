/-
Aggregates by position.

The scan of an aggregate starts at a position and refuses a line that is no header of its kind. A named
aggregate turns its keyword into a kind, which is a fault for any other word. The loop over the body
checks that it moves forward.
-/
import DocSite.Container.Aggregate
import DocSite.Proofs.Cursor.Signature
import DocSite.Proofs.Doc.Turns

namespace DocSite
namespace Cursor

/-! ### Members on the line of a brace -/

def functionOfStatementAt (statement : Text) (number : Int) : Scan (Option FunctionDoc) :=
  if isFunction statement then functionAt statement [] number else .ok none

def memberOfStatementAt (number : Int) (statement : Text) : Scan AggregateMember := do
  match ← functionOfStatementAt statement number with
  | some function => return .method function
  | none =>
      return .field { declaration := statement, line := number
                      isPrivate := isPrivateDeclaration statement }

def inlineMembersAt (segment : Text) (number : Int) : Scan (List AggregateMember) := do
  let pieces := splitTopLevelAt ';' segment
  let terminated ← (pieces.dropLast.filter fun piece => !piece.isEmpty).mapM fun piece =>
    memberOfStatementAt number (piece ++ [';'])
  let last := pieces.getLast?.getD []
  let unterminated ← if last.isEmpty then .ok none else functionOfStatementAt last number
  return terminated ++ (unterminated.map AggregateMember.method).toList

theorem functionOfStatementAt_eq_ok (statement : Text) (number : Int) :
    functionOfStatementAt statement number = .ok (functionOfStatement? statement number) := by
  unfold functionOfStatementAt functionOfStatement?
  split
  · exact functionAt_eq_ok statement [] number
  · rfl

theorem memberOfStatementAt_eq_ok (number : Int) (statement : Text) :
    memberOfStatementAt number statement = .ok (memberOfStatement number statement) := by
  unfold memberOfStatementAt memberOfStatement
  rw [functionOfStatementAt_eq_ok]
  simp only [bind, Except.bind]
  cases functionOfStatement? statement number <;> rfl

theorem inlineMembersAt_eq_ok (segment : Text) (number : Int) :
    inlineMembersAt segment number = .ok (inlineMembers segment number) := by
  unfold inlineMembersAt inlineMembers
  have statements : (fun piece => memberOfStatementAt number (piece ++ [';'])) =
      fun piece => pure (memberOfStatement number (piece ++ [';'])) :=
    funext fun piece => memberOfStatementAt_eq_ok number (piece ++ [';'])
  simp only [statements, List.mapM_pure, functionOfStatementAt_eq_ok, pure_bind]
  by_cases empty : ((splitTopLevelAt ';' segment).getLast?.getD []).isEmpty = true
  · simp only [empty, if_true]
    rfl
  · simp only [empty, Bool.false_eq_true, if_false]
    rfl

/-! ### Aggregates -/

def memberOfLineAt (before balance : Int) (register : CommentRegister) (code trailing : Text)
    (number : Nat) : Scan (List AggregateMember × CommentRegister) := do
  if isFiller code then return ([], register)
  if (matchHeader? code).isSome then return ([], .empty)
  if isFunction code then
    if before = 1 then
      let (comments, register) := register.attachWith trailing
      let function ← functionAt code comments number
      return ((function.map AggregateMember.method).toList, register)
    else return ([], register.discard)
  else if balance = 1 ∧ Text.endsWith ';' code then
    let (comments, register) := register.attachWith trailing
    return ([.field { declaration := code, comments := comments, line := number
                      isPrivate := isPrivateDeclaration code }], register)
  else return ([], register.discard)

theorem memberOfLineAt_eq_ok (before balance : Int) (register : CommentRegister)
    (code trailing : Text) (number : Nat) :
    memberOfLineAt before balance register code trailing number =
      .ok (memberOfLine before balance register code trailing number) := by
  unfold memberOfLineAt memberOfLine
  simp only [functionAt_eq_ok, bind, Except.bind, pure, Except.pure]
  repeat' split
  all_goals rfl

def openAggregateAt (lines : List Text) (position : Nat) (balance : Int)
    (register : CommentRegister) : Scan (List AggregateMember × Nat) :=
  if position < lines.length then do
    let line ← lineAt lines position
    match ← consumeAt lines position register with
    | some (register, resume) =>
        if position < resume ∧ resume ≤ lines.length then
          openAggregateAt lines resume balance register
        else .error (.standstill position resume)
    | none =>
        let (code, trailing) := splitLineComment line
        let delta := braceDelta code
        let after := balance + delta
        if closesBody after delta code then
          let inline ← if balance = 1 then
            inlineMembersAt (bodySegment code false true) (position + 1) else .ok []
          return (inline, position + 1)
        let (members, register) ←
          memberOfLineAt balance after register code trailing (position + 1)
        let (more, resume) ← openAggregateAt lines (position + 1) after register
        return (members ++ more, resume)
  else .ok ([], position)
termination_by lines.length - position

def pendingAggregateAt (lines : List Text) (position : Nat) (balance : Int) :
    Scan (List AggregateMember × Nat) :=
  if position < lines.length then do
    let line ← lineAt lines position
    let code := codeOf line
    let after := balance + braceDelta code
    if opensBrace code then
      let closed := decide (after ≤ 0)
      let inline ← inlineMembersAt (bodySegment code true closed) (position + 1)
      if closed then return (inline, position + 1)
      let (more, resume) ← openAggregateAt lines (position + 1) after .empty
      return (inline ++ more, resume)
    else if Text.endsWith ';' code then return ([], position + 1)
    else pendingAggregateAt lines (position + 1) after
  else .ok ([], position)
termination_by lines.length - position

/-- The aggregate whose header stands at a position. A line that is no such header is a fault. -/
def scanAggregateAt (lines : List Text) (position : Nat) (comments : List Text) :
    Scan (Option AggregateDoc × Nat) := do
  let first ← lineAt lines position
  match matchHeader? first with
  | none => .error (.noAggregateHeader position)
  | some header =>
      match header.kind with
      | .enum => .error (.noAggregateHeader position)
      | .aggregate _ =>
          let (members, resume) ← pendingAggregateAt lines position 0
          if header.name.isEmpty then return (none, resume)
          match AggregateKind.ofKeyword? header.kind.keyword with
          | none => .error (.unknownKind header.kind.keyword)
          | some kind =>
              return (some { name := header.name, kind := kind, comments := comments
                             methods := members.filterMap AggregateMember.method?
                             fields := members.filterMap AggregateMember.field?
                             line := position + 1 }, resume)

theorem openAggregateAt_follows (lines : List Text) (position : Nat) (balance : Int)
    (register : CommentRegister) (within : position ≤ lines.length) :
    Follows lines position (openAggregateAt lines position balance register)
      (openAggregateBody balance register (linesFrom lines position)) := by
  induction measured : lines.length - position using Nat.strongRecOn
    generalizing position balance register with
  | ind left ih =>
      subst measured
      unfold openAggregateAt
      by_cases inside : position < lines.length
      · rw [if_pos inside, lineAt_eq_ok inside, linesFrom_eq_cons inside]
        simp only [bind, Except.bind]
        cases consumed : register.consume? (lineOf lines position inside)
            (linesFrom lines (position + 1)) with
        | some next =>
            obtain ⟨next, remaining⟩ := next
            obtain ⟨resume, succeeds, remains, forward, ends⟩ := consumeAt_follows inside consumed
            rw [openAggregateBody_consumed consumed, remains]
            simp only [succeeds]
            rw [if_pos ⟨forward, ends⟩]
            obtain ⟨resume, succeeds, remains, further, ends⟩ :=
              ih (lines.length - resume) (by omega) resume balance next ends rfl
            exact ⟨resume, succeeds, remains, by omega, ends⟩
        | none =>
            rw [openAggregateBody_ignored consumed]
            simp only [consumeAt_eq_none inside consumed, memberOfLineAt_eq_ok,
              inlineMembersAt_eq_ok]
            split
            · refine ⟨position + 1, ?_, rfl, Nat.le_succ _, inside⟩
              split <;> rfl
            · obtain ⟨resume, succeeds, remains, forward, ends⟩ :=
                ih (lines.length - (position + 1)) (by omega) (position + 1) _ _ inside rfl
              rw [succeeds]
              exact ⟨resume, rfl, remains, Nat.le_of_succ_le forward, ends⟩
      · have behind := Nat.le_of_not_lt inside
        rw [if_neg inside, linesFrom_eq_nil behind, openAggregateBody]
        exact .stop_at_end behind within _

theorem pendingAggregateAt_follows (lines : List Text) (position : Nat) (balance : Int)
    (inside : position < lines.length) :
    Follows lines (position + 1) (pendingAggregateAt lines position balance)
      (pendingAggregateBody balance (linesFrom lines position)) := by
  induction measured : lines.length - position generalizing position balance with
  | zero => omega
  | succ left ih =>
      unfold pendingAggregateAt
      rw [if_pos inside, lineAt_eq_ok inside, linesFrom_eq_cons inside]
      simp only [bind, Except.bind, pendingAggregateBody, aggregateBodyFrom,
        inlineMembersAt_eq_ok]
      split
      · split
        · exact .stop inside _
        · obtain ⟨resume, succeeds, remains, forward, ends⟩ :=
            openAggregateAt_follows lines (position + 1)
              (balance + braceDelta (codeOf (Text.trim lines[position]))) .empty inside
          rw [succeeds]
          exact ⟨resume, rfl, remains, forward, ends⟩
      · split
        · exact .stop inside _
        · by_cases more : position + 1 < lines.length
          · have further := ih (position + 1)
              (balance + braceDelta (codeOf (Text.trim lines[position]))) more (by omega)
            exact further.of_next
          · have behind := Nat.le_of_not_lt more
            unfold pendingAggregateAt
            rw [if_neg more, linesFrom_eq_nil behind]
            exact .stop_at_end behind inside _

/-- The keyword of a kind of aggregate names that kind. -/
theorem ofKeyword?_keyword (kind : AggregateKind) :
    AggregateKind.ofKeyword? kind.keyword = some kind := by
  cases kind <;> decide

/-- An aggregate is scanned wherever its header stands. -/
theorem scanAggregateAt_follows {lines : List Text} {position : Nat} {header : ContainerHeader}
    {kind : AggregateKind} (inside : position < lines.length)
    (accepted : matchHeader? (Text.trim lines[position]) = some header)
    (sort : header.kind = .aggregate kind) (comments : List Text) :
    Follows lines (position + 1) (scanAggregateAt lines position comments)
      (scanAggregate kind header.name comments (lineOf lines position inside)
        (linesFrom lines (position + 1))) := by
  obtain ⟨resume, succeeds, remains, forward, within⟩ :=
    pendingAggregateAt_follows lines position 0 inside
  rw [linesFrom_eq_cons inside] at succeeds remains
  unfold scanAggregateAt scanAggregate aggregateBody
  rw [lineAt_eq_ok inside]
  simp only [bind, Except.bind, accepted, sort, ContainerKind.keyword, ofKeyword?_keyword, succeeds]
  split
  · exact ⟨resume, rfl, remains, forward, within⟩
  · exact ⟨resume, rfl, remains, forward, within⟩

end Cursor
end DocSite
