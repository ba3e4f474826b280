/-
Enums by position.

The scan of an enum starts at a position, refuses a line that is no header of an enum, and checks that it
moves forward through the body.
-/
import DocSite.Container.Enumeration
import DocSite.Proofs.Cursor.Basic
import DocSite.Proofs.Doc.Turns

namespace DocSite
namespace Cursor

def openEnumAt (lines : List Text) (position : Nat) (balance : Int) (register : CommentRegister) :
    Scan (List EnumMemberDoc × Nat) :=
  if position < lines.length then do
    let line ← lineAt lines position
    match ← consumeAt lines position register with
    | some (register, resume) =>
        if position < resume ∧ resume ≤ lines.length then openEnumAt lines resume balance register
        else .error (.standstill position resume)
    | none =>
        let (code, trailing) := splitLineComment line
        let delta := braceDelta code
        let after := balance + delta
        let closed := closesBody after delta code
        let (members, register) :=
          membersOfLine balance closed register code trailing (position + 1) false
        if closed then return (members, position + 1)
        let (more, resume) ← openEnumAt lines (position + 1) after register
        return (members ++ more, resume)
  else .ok ([], position)
termination_by lines.length - position

def pendingEnumAt (lines : List Text) (position : Nat) (balance : Int) :
    Scan (List EnumMemberDoc × Nat) :=
  if position < lines.length then do
    let line ← lineAt lines position
    let (code, trailing) := splitLineComment line
    let delta := braceDelta code
    let after := balance + delta
    if opensBrace code then
      let closed := closesBody after delta code
      let (members, register) :=
        membersOfLine balance closed .empty code trailing (position + 1) true
      if closed then return (members, position + 1)
      let (more, resume) ← openEnumAt lines (position + 1) after register
      return (members ++ more, resume)
    else if Text.endsWith ';' code then return ([], position + 1)
    else pendingEnumAt lines (position + 1) after
  else .ok ([], position)
termination_by lines.length - position

def enumBodyAt (lines : List Text) (position : Nat) : Scan (List EnumMemberDoc × Nat) := do
  let first ← lineAt lines position
  let (code, trailing) := splitLineComment first
  let balance := braceDelta code
  if opensBrace code then
    let closed := decide (balance ≤ 0)
    let segment := bodySegment code true closed
    let (members, register) :=
      if segment.isEmpty then ([], CommentRegister.empty)
      else attachMembers segment (position + 1) .empty trailing
    if closed then return (members, position + 1)
    let (more, resume) ← openEnumAt lines (position + 1) balance register
    return (members ++ more, resume)
  else if Text.endsWith ';' code then return ([], position + 1)
  else pendingEnumAt lines (position + 1) balance

/-- The enum whose header stands at a position. A line that is no such header is a fault. -/
def scanEnumAt (lines : List Text) (position : Nat) (comments : List Text) :
    Scan (Option EnumDoc × Nat) := do
  let first ← lineAt lines position
  match matchHeader? first with
  | none => .error (.noEnumHeader position)
  | some header =>
      match header.kind with
      | .aggregate _ => .error (.noEnumHeader position)
      | .enum =>
          let (members, resume) ← enumBodyAt lines position
          if header.name.isEmpty then return (none, resume)
          return (some { name := header.name, comments := comments, members := members
                         line := position + 1 }, resume)

theorem openEnumAt_follows (lines : List Text) (position : Nat) (balance : Int)
    (register : CommentRegister) (within : position ≤ lines.length) :
    Follows lines position (openEnumAt lines position balance register)
      (openEnumBody balance register (linesFrom lines position)) := by
  induction measured : lines.length - position using Nat.strongRecOn
    generalizing position balance register with
  | ind left ih =>
      subst measured
      unfold openEnumAt
      by_cases inside : position < lines.length
      · rw [if_pos inside, lineAt_eq_ok inside, linesFrom_eq_cons inside]
        simp only [bind, Except.bind]
        cases consumed : register.consume? (lineOf lines position inside)
            (linesFrom lines (position + 1)) with
        | some next =>
            obtain ⟨next, remaining⟩ := next
            obtain ⟨resume, succeeds, remains, forward, ends⟩ := consumeAt_follows inside consumed
            rw [openEnumBody_consumed consumed, remains]
            simp only [succeeds]
            rw [if_pos ⟨forward, ends⟩]
            obtain ⟨resume, succeeds, remains, further, ends⟩ :=
              ih (lines.length - resume) (by omega) resume balance next ends rfl
            exact ⟨resume, succeeds, remains, by omega, ends⟩
        | none =>
            rw [openEnumBody_ignored consumed]
            simp only [consumeAt_eq_none inside consumed]
            split
            · exact (Follows.stop inside _).of_next
            · obtain ⟨resume, succeeds, remains, forward, ends⟩ :=
                ih (lines.length - (position + 1)) (by omega) (position + 1) _ _ inside rfl
              rw [succeeds]
              exact ⟨resume, rfl, remains, Nat.le_of_succ_le forward, ends⟩
      · have behind := Nat.le_of_not_lt inside
        rw [if_neg inside, linesFrom_eq_nil behind, openEnumBody]
        exact .stop_at_end behind within _

theorem pendingEnumAt_follows (lines : List Text) (position : Nat) (balance : Int)
    (within : position ≤ lines.length) :
    Follows lines position (pendingEnumAt lines position balance)
      (pendingEnumBody balance (linesFrom lines position)) := by
  induction measured : lines.length - position generalizing position balance with
  | zero =>
      have behind : lines.length ≤ position := by omega
      unfold pendingEnumAt
      rw [if_neg (Nat.not_lt.mpr behind), linesFrom_eq_nil behind]
      exact .stop_at_end behind within _
  | succ left ih =>
      have inside : position < lines.length := by omega
      unfold pendingEnumAt
      rw [if_pos inside, lineAt_eq_ok inside, linesFrom_eq_cons inside]
      simp only [bind, Except.bind, pendingEnumBody]
      split
      · split
        · exact (Follows.stop inside _).of_next
        · obtain ⟨resume, succeeds, remains, forward, ends⟩ :=
            openEnumAt_follows lines (position + 1) _ _ inside
          rw [succeeds]
          exact ⟨resume, rfl, remains, Nat.le_of_succ_le forward, ends⟩
      · split
        · exact (Follows.stop inside _).of_next
        · exact (ih (position + 1) _ inside (by omega)).of_next

theorem enumBodyAt_follows {lines : List Text} {position : Nat}
    (inside : position < lines.length) :
    Follows lines (position + 1) (enumBodyAt lines position)
      (enumBody (lineOf lines position inside) (linesFrom lines (position + 1))) := by
  unfold enumBodyAt enumBody
  rw [lineAt_eq_ok inside]
  simp only [bind, Except.bind]
  split
  · split
    · exact .stop inside _
    · obtain ⟨resume, succeeds, remains, forward, ends⟩ :=
        openEnumAt_follows lines (position + 1) _ _ inside
      rw [succeeds]
      exact ⟨resume, rfl, remains, forward, ends⟩
  · split
    · exact .stop inside _
    · exact pendingEnumAt_follows lines (position + 1) _ inside

/-- An enum is scanned wherever its header stands. -/
theorem scanEnumAt_follows {lines : List Text} {position : Nat} {header : ContainerHeader}
    (inside : position < lines.length)
    (accepted : matchHeader? (Text.trim lines[position]) = some header)
    (sort : header.kind = .enum) (comments : List Text) :
    Follows lines (position + 1) (scanEnumAt lines position comments)
      (scanEnum header.name comments (lineOf lines position inside)
        (linesFrom lines (position + 1))) := by
  obtain ⟨resume, succeeds, remains, forward, within⟩ := enumBodyAt_follows inside
  unfold scanEnumAt scanEnum
  rw [lineAt_eq_ok inside]
  simp only [bind, Except.bind, accepted, sort, succeeds]
  split
  · exact ⟨resume, rfl, remains, forward, within⟩
  · exact ⟨resume, rfl, remains, forward, within⟩

end Cursor
end DocSite
