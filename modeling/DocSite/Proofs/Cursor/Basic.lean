/-
Scanning by position.

The scanners of this library take the lines that are left and return the lines that remain. Here they
are written with a position in the raw lines instead, and whatever could go wrong does so openly: a
look-up past the end, a scan that starts on a line it does not accept, a keyword that names no kind, a
closer looked for where no parenthesis stands, a step that does not move forward. This module holds the
positions, the comments and the skipped bodies.
-/
import DocSite.Comment.Register
import DocSite.Source.Body
import DocSite.Source.Nesting

namespace DocSite
namespace Cursor

/-- What can go wrong in a scan by position. -/
inductive Fault where
  | pastEnd (position : Nat)
  | noComment (position : Nat)
  | noAggregateHeader (position : Nat)
  | noEnumHeader (position : Nat)
  | unknownKind (keyword : Text)
  | noParenthesis (position : Nat)
  | standstill (position resume : Nat)
  deriving DecidableEq, Repr

abbrev Scan := Except Fault

/-! ### Positions -/

def lineAt (lines : List Text) (position : Nat) : Scan Text :=
  match lines[position]? with
  | some line => .ok (Text.trim line)
  | none => .error (.pastEnd position)

def linesFrom (lines : List Text) (position : Nat) : List Line :=
  numberedLines (position + 1) (lines.drop position)

theorem linesFrom_zero (source : Text) : linesFrom (Text.lines source) 0 = sourceLines source := rfl

theorem lineAt_eq_ok {lines : List Text} {position : Nat} (inside : position < lines.length) :
    lineAt lines position = .ok (Text.trim lines[position]) := by
  simp only [lineAt, List.getElem?_eq_getElem inside]

theorem linesFrom_eq_cons {lines : List Text} {position : Nat} (inside : position < lines.length) :
    linesFrom lines position =
      ⟨position + 1, Text.trim lines[position]⟩ :: linesFrom lines (position + 1) := by
  unfold linesFrom
  rw [List.drop_eq_getElem_cons inside]
  rfl

theorem linesFrom_eq_nil {lines : List Text} {position : Nat} (behind : lines.length ≤ position) :
    linesFrom lines position = [] := by
  unfold linesFrom
  rw [List.drop_eq_nil_of_le behind]
  rfl

/-- A scan by position succeeds with a result and a resume position such that the lines from there on
are the ones that the scan of the remaining lines leaves. -/
def Follows {Result : Type} (lines : List Text) (position : Nat) (scan : Scan (Result × Nat))
    (plain : Result × List Line) : Prop :=
  ∃ resume, scan = .ok (plain.1, resume) ∧ plain.2 = linesFrom lines resume ∧
    position ≤ resume ∧ resume ≤ lines.length

section Follow

variable {Result : Type} {lines : List Text} {position : Nat}

theorem Follows.stop (within : position ≤ lines.length) (result : Result) :
    Follows lines position (.ok (result, position)) (result, linesFrom lines position) :=
  ⟨position, rfl, rfl, Nat.le_refl position, within⟩

theorem Follows.stop_at_end (behind : lines.length ≤ position) (within : position ≤ lines.length)
    (result : Result) : Follows lines position (.ok (result, position)) (result, []) := by
  rw [← linesFrom_eq_nil behind]
  exact .stop within result

theorem Follows.of_next {scan : Scan (Result × Nat)} {plain : Result × List Line}
    (follows : Follows lines (position + 1) scan plain) : Follows lines position scan plain := by
  obtain ⟨resume, succeeds, remains, forward, within⟩ := follows
  exact ⟨resume, succeeds, remains, Nat.le_of_succ_le forward, within⟩

end Follow

/-- A scan by position succeeds and moves forward without leaving the lines. -/
def Advances {Result : Type} (lines : List Text) (position : Nat) (scan : Scan (Result × Nat)) :
    Prop :=
  ∃ result resume, scan = .ok (result, resume) ∧ position < resume ∧ resume ≤ lines.length

theorem Follows.advances {Result : Type} {lines : List Text} {position : Nat}
    {scan : Scan (Result × Nat)} {plain : Result × List Line}
    (follows : Follows lines (position + 1) scan plain) : Advances lines position scan := by
  obtain ⟨resume, succeeds, _, forward, within⟩ := follows
  exact ⟨plain.1, resume, succeeds, forward, within⟩

/-! ### Comments -/

def blockAt (lines : List Text) (position : Nat) (body : Text) : Scan (List Text × Nat) :=
  match Text.cut? "*/".toList body with
  | some (inside, _) => .ok ([cleanCommentLine inside], position + 1)
  | none =>
      if position + 1 < lines.length then do
        let next ← lineAt lines (position + 1)
        let (paragraphs, resume) ← blockAt lines (position + 1) next
        return (cleanCommentLine body :: paragraphs, resume)
      else .ok ([cleanCommentLine body], position + 1)
termination_by lines.length - position

def nestedAt (lines : List Text) (position : Nat) (depth : Int) (body : Text) :
    Scan (List Text × Nat) :=
  if depth ≤ 0 then .ok ([cleanCommentLine (dropNestingCloser body)], position + 1)
  else if position + 1 < lines.length then do
    let next ← lineAt lines (position + 1)
    let (paragraphs, resume) ← nestedAt lines (position + 1) (depth + nestingDelta next) next
    return (cleanCommentLine body :: paragraphs, resume)
  else .ok ([cleanCommentLine body], position + 1)
termination_by lines.length - position

/-- The comment that opens at a position. A line that opens none is a fault. -/
def commentAt (lines : List Text) (position : Nat) : Scan (List Text × Nat) := do
  let first ← lineAt lines position
  match commentStyle? first with
  | some .line => return ([Text.trim (first.dropWhile (· == '/'))], position + 1)
  | some .block =>
      let (paragraphs, resume) ← blockAt lines position (blockBody first)
      return (trimEmptyLines paragraphs, resume)
  | some .nested =>
      let (paragraphs, resume) ← nestedAt lines position (nestingDelta first) (first.drop 2)
      return (trimEmptyLines paragraphs, resume)
  | none => .error (.noComment position)

def consumeAt (lines : List Text) (position : Nat) (register : CommentRegister) :
    Scan (Option (CommentRegister × Nat)) := do
  let line ← lineAt lines position
  if isDitto line then return some (register.ditto, position + 1)
  match commentStyle? line with
  | none => return none
  | some style =>
      let (paragraphs, resume) ← commentAt lines position
      match style with
      | .line => return some (register.extend paragraphs, resume)
      | _ => return some (register.beginBlock paragraphs, resume)

theorem blockAt_follows (lines : List Text) (position : Nat) (body : Text)
    (inside : position < lines.length) :
    Follows lines (position + 1) (blockAt lines position body)
      (blockParagraphs body (linesFrom lines (position + 1))) := by
  induction measured : lines.length - position generalizing position body with
  | zero => omega
  | succ left ih =>
      unfold blockAt blockParagraphs
      cases Text.cut? "*/".toList body with
      | some parts => exact .stop inside _
      | none =>
          by_cases more : position + 1 < lines.length
          · obtain ⟨resume, succeeds, remains, forward, within⟩ :=
              ih (position + 1) (Text.trim lines[position + 1]) more (by omega)
            rw [linesFrom_eq_cons more]
            dsimp only
            rw [if_pos more, lineAt_eq_ok more]
            exact ⟨resume, by simp only [bind, Except.bind, succeeds]; rfl, remains,
              Nat.le_of_succ_le forward, within⟩
          · have behind := Nat.le_of_not_lt more
            rw [linesFrom_eq_nil behind]
            dsimp only
            rw [if_neg more]
            exact .stop_at_end behind inside _

theorem nestedAt_follows (lines : List Text) (position : Nat) (depth : Int) (body : Text)
    (inside : position < lines.length) :
    Follows lines (position + 1) (nestedAt lines position depth body)
      (nestedParagraphs depth body (linesFrom lines (position + 1))) := by
  induction measured : lines.length - position generalizing position depth body with
  | zero => omega
  | succ left ih =>
      unfold nestedAt nestedParagraphs
      by_cases closed : depth ≤ 0
      · rw [if_pos closed, if_pos closed]
        exact .stop inside _
      · rw [if_neg closed, if_neg closed]
        by_cases more : position + 1 < lines.length
        · obtain ⟨resume, succeeds, remains, forward, within⟩ :=
            ih (position + 1) (depth + nestingDelta (Text.trim lines[position + 1]))
              (Text.trim lines[position + 1]) more (by omega)
          rw [linesFrom_eq_cons more]
          dsimp only
          rw [if_pos more, lineAt_eq_ok more]
          exact ⟨resume, by simp only [bind, Except.bind, succeeds]; rfl, remains,
            Nat.le_of_succ_le forward, within⟩
        · have behind := Nat.le_of_not_lt more
          rw [linesFrom_eq_nil behind]
          dsimp only
          rw [if_neg more]
          exact .stop_at_end behind inside _

abbrev lineOf (lines : List Text) (position : Nat) (inside : position < lines.length) : Line :=
  ⟨position + 1, Text.trim lines[position]⟩

/-- A comment is extracted wherever one opens. -/
theorem commentAt_follows {lines : List Text} {position : Nat} (inside : position < lines.length)
    {style : CommentStyle} (opens : commentStyle? (Text.trim lines[position]) = some style) :
    Follows lines (position + 1) (commentAt lines position)
      (extractStyled style (lineOf lines position inside) (linesFrom lines (position + 1))) := by
  unfold commentAt
  rw [lineAt_eq_ok inside]
  simp only [bind, Except.bind, opens]
  cases style with
  | line => exact .stop inside _
  | block =>
      obtain ⟨resume, succeeds, remains, forward, within⟩ :=
        blockAt_follows lines position (blockBody (Text.trim lines[position])) inside
      exact ⟨resume, by simp only [succeeds]; rfl, remains, forward, within⟩
  | nested =>
      obtain ⟨resume, succeeds, remains, forward, within⟩ :=
        nestedAt_follows lines position (nestingDelta (Text.trim lines[position]))
          ((Text.trim lines[position]).drop 2) inside
      exact ⟨resume, by simp only [succeeds]; rfl, remains, forward, within⟩

theorem consumeAt_eq_none {lines : List Text} {position : Nat} {register : CommentRegister}
    (inside : position < lines.length)
    (ignored : register.consume? (lineOf lines position inside) (linesFrom lines (position + 1)) =
      none) :
    consumeAt lines position register = .ok none := by
  unfold consumeAt
  rw [lineAt_eq_ok inside]
  unfold CommentRegister.consume? at ignored
  simp only [bind, Except.bind]
  split at ignored
  · cases ignored
  · rename_i notDitto
    rw [if_neg notDitto]
    split at ignored
    · rename_i noStyle
      rw [noStyle]
      rfl
    · dsimp only at ignored
      split at ignored <;> cases ignored

theorem consumeAt_follows {lines : List Text} {position : Nat} {register next : CommentRegister}
    {remaining : List Line} (inside : position < lines.length)
    (consumed : register.consume? (lineOf lines position inside) (linesFrom lines (position + 1)) =
      some (next, remaining)) :
    ∃ resume, consumeAt lines position register = .ok (some (next, resume)) ∧
      remaining = linesFrom lines resume ∧ position + 1 ≤ resume ∧ resume ≤ lines.length := by
  unfold consumeAt
  rw [lineAt_eq_ok inside]
  unfold CommentRegister.consume? at consumed
  simp only [bind, Except.bind]
  split at consumed
  · rename_i ditto
    cases consumed
    rw [if_pos ditto]
    exact ⟨position + 1, rfl, rfl, Nat.le_refl _, inside⟩
  · rename_i notDitto
    rw [if_neg notDitto]
    cases opens : commentStyle? (Text.trim lines[position]) with
    | none =>
        rw [opens] at consumed
        cases consumed
    | some style =>
        rw [opens] at consumed
        obtain ⟨resume, succeeds, remains, forward, within⟩ := commentAt_follows inside opens
        cases style <;> cases consumed <;>
          exact ⟨resume, by simp only [pure, Except.pure, succeeds]; rfl, remains, forward, within⟩

/-! ### Bodies that are skipped -/

def skipOpenAt (lines : List Text) (position : Nat) (balance : Int) (opened : Bool) : Scan Nat :=
  if position < lines.length then do
    let line ← lineAt lines position
    if !opened && endsStatement line then return position + 1
    let balance := balance + braceDelta line
    let opened := opened || opensBrace line
    if opened && decide (balance ≤ 0) then return position + 1
    skipOpenAt lines (position + 1) balance opened
  else .ok position
termination_by lines.length - position

def skipBodyAt (lines : List Text) (position : Nat) : Scan Nat := do
  let first ← lineAt lines position
  let balance := braceDelta first
  let opened := opensBrace first
  if !opened && endsStatement first then return position + 1
  if opened && decide (balance ≤ 0) then return position + 1
  skipOpenAt lines (position + 1) balance opened

theorem skipOpenAt_follows (lines : List Text) (position : Nat) (balance : Int) (opened : Bool)
    (within : position ≤ lines.length) :
    ∃ resume, skipOpenAt lines position balance opened = .ok resume ∧
      skipOpenBody balance opened (linesFrom lines position) = linesFrom lines resume ∧
      position ≤ resume ∧ resume ≤ lines.length := by
  induction measured : lines.length - position generalizing position balance opened with
  | zero =>
      have behind : lines.length ≤ position := by omega
      unfold skipOpenAt
      rw [if_neg (Nat.not_lt.mpr behind), linesFrom_eq_nil behind]
      exact ⟨position, rfl, (linesFrom_eq_nil behind).symm, Nat.le_refl _, within⟩
  | succ left ih =>
      have inside : position < lines.length := by omega
      unfold skipOpenAt
      rw [if_pos inside, lineAt_eq_ok inside, linesFrom_eq_cons inside]
      simp only [bind, Except.bind, skipOpenBody]
      split
      · exact ⟨position + 1, rfl, rfl, Nat.le_succ _, inside⟩
      · split
        · exact ⟨position + 1, rfl, rfl, Nat.le_succ _, inside⟩
        · obtain ⟨resume, succeeds, remains, forward, ends⟩ :=
            ih (position + 1) (balance + braceDelta (Text.trim lines[position]))
              (opened || opensBrace (Text.trim lines[position])) inside (by omega)
          exact ⟨resume, succeeds, remains, Nat.le_of_succ_le forward, ends⟩

theorem skipBodyAt_follows {lines : List Text} {position : Nat}
    (inside : position < lines.length) :
    ∃ resume, skipBodyAt lines position = .ok resume ∧
      skipBody (lineOf lines position inside) (linesFrom lines (position + 1)) =
        linesFrom lines resume ∧
      position + 1 ≤ resume ∧ resume ≤ lines.length := by
  unfold skipBodyAt skipBody
  rw [lineAt_eq_ok inside]
  simp only [bind, Except.bind]
  split
  · exact ⟨position + 1, rfl, rfl, Nat.le_refl _, inside⟩
  · split
    · exact ⟨position + 1, rfl, rfl, Nat.le_refl _, inside⟩
    · exact skipOpenAt_follows lines (position + 1) (braceDelta (Text.trim lines[position]))
        (opensBrace (Text.trim lines[position])) inside

end Cursor
end DocSite
