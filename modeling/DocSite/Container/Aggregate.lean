/-
Bodies of classes, structs and interfaces.

A body is walked line by line with the running balance of its braces. Members are recorded at the
container's own depth only; what is deeper is walked past. The members of a line that also opens or
closes the body are read from the segment between the braces.
-/
import DocSite.Comment.Register
import DocSite.Container.Header
import DocSite.Container.Segment
import DocSite.Signature.Parse
import DocSite.Source.Body

namespace DocSite

/-- A member of an aggregate. -/
inductive AggregateMember where
  | method (function : FunctionDoc)
  | field (field : FieldDoc)
  deriving DecidableEq, Repr

namespace AggregateMember

def method? : AggregateMember → Option FunctionDoc
  | .method function => some function
  | .field _ => none

def field? : AggregateMember → Option FieldDoc
  | .method _ => none
  | .field declared => some declared

end AggregateMember

/-! ### Members on the line of a brace -/

/-- The function that a statement declares, if it is a signature. -/
def functionOfStatement? (statement : Text) (number : Int) : Option FunctionDoc :=
  if isFunction statement then parseFunction? statement [] number else none

def memberOfStatement (number : Int) (statement : Text) : AggregateMember :=
  match functionOfStatement? statement number with
  | some function => .method function
  | none =>
      .field { declaration := statement, line := number
               isPrivate := isPrivateDeclaration statement }

/-- The members written in a segment. Behind the last semicolon only a method can stand. -/
def inlineMembers (segment : Text) (number : Int) : List AggregateMember :=
  let pieces := splitTopLevelAt ';' segment
  let terminated := (pieces.dropLast.filter fun piece => !piece.isEmpty).map fun piece =>
    memberOfStatement number (piece ++ [';'])
  let last := pieces.getLast?.getD []
  let unterminated :=
    if last.isEmpty then none else functionOfStatement? last number
  terminated ++ (unterminated.map AggregateMember.method).toList

/-! ### Members on lines of their own -/

/-- What a line inside the body records, and the register behind it. `before` is the balance at the
start of the line and `balance` the one at its end. -/
def memberOfLine (before balance : Int) (register : CommentRegister) (code trailing : Text)
    (number : Nat) : List AggregateMember × CommentRegister :=
  if isFiller code then ([], register)
  else if (matchHeader? code).isSome then ([], .empty)
  else if isFunction code then
    if before = 1 then
      let (comments, register) := register.attachWith trailing
      (((parseFunction? code comments number).map AggregateMember.method).toList, register)
    else ([], register.discard)
  else if balance = 1 ∧ Text.endsWith ';' code then
    let (comments, register) := register.attachWith trailing
    ([.field { declaration := code, comments := comments, line := number
               isPrivate := isPrivateDeclaration code }], register)
  else ([], register.discard)

def openAggregateBody (balance : Int) (register : CommentRegister) :
    List Line → List AggregateMember × List Line
  | [] => ([], [])
  | line :: rest =>
      match _ : register.consume? line rest with
      | some (register, remaining) => openAggregateBody balance register remaining
      | none =>
          let (code, trailing) := splitLineComment line.text
          let delta := braceDelta code
          let after := balance + delta
          if closesBody after delta code then
            (if balance = 1 then inlineMembers (bodySegment code false true) line.number else [],
              rest)
          else
            let (members, register) :=
              memberOfLine balance after register code trailing line.number
            let (more, remaining) := openAggregateBody after register rest
            (members ++ more, remaining)
termination_by lines => lines.length
decreasing_by
  · have shorter := CommentRegister.consume?_length_le (by assumption)
    simp only [List.length_cons]
    omega
  · simp only [List.length_cons]
    omega

/-- The members of an aggregate whose line opens its body, and the lines behind it. The balance is
that at the end of the line. -/
def aggregateBodyFrom (balance : Int) (code : Text) (line : Line) (rest : List Line) :
    List AggregateMember × List Line :=
  let closed := decide (balance ≤ 0)
  let inline := inlineMembers (bodySegment code true closed) line.number
  if closed then (inline, rest)
  else
    let (more, remaining) := openAggregateBody balance .empty rest
    (inline ++ more, remaining)

/-- The members of an aggregate whose body has not opened yet, and the lines behind it. A semicolon
before the body ends the declaration. -/
def pendingAggregateBody (balance : Int) : List Line → List AggregateMember × List Line
  | [] => ([], [])
  | line :: rest =>
      let code := codeOf line.text
      let after := balance + braceDelta code
      if opensBrace code then aggregateBodyFrom after code line rest
      else if Text.endsWith ';' code then ([], rest)
      else pendingAggregateBody after rest

def aggregateBody (first : Line) (rest : List Line) : List AggregateMember × List Line :=
  pendingAggregateBody 0 (first :: rest)

/-- The aggregate whose header is the first line, and the lines behind it. An anonymous one is not
documented. -/
def scanAggregate (kind : AggregateKind) (name : Text) (comments : List Text) (first : Line)
    (rest : List Line) : Option AggregateDoc × List Line :=
  let (members, remaining) := aggregateBody first rest
  if name.isEmpty then (none, remaining)
  else
    (some { name := name, kind := kind, comments := comments
            methods := members.filterMap AggregateMember.method?
            fields := members.filterMap AggregateMember.field?
            line := first.number },
      remaining)

/-! ### Progress -/

theorem openAggregateBody_length_le (balance : Int) (register : CommentRegister)
    (lines : List Line) :
    (openAggregateBody balance register lines).2.length ≤ lines.length := by
  induction measured : lines.length using Nat.strongRecOn generalizing balance register lines with
  | ind size ih =>
      subst measured
      cases lines with
      | nil => simp [openAggregateBody]
      | cons line rest =>
          unfold openAggregateBody
          split
          · rename_i next remaining consumed
            have shorter := CommentRegister.consume?_length_le consumed
            have further := ih remaining.length (by simp only [List.length_cons]; omega)
              balance next remaining rfl
            simp only [List.length_cons]
            omega
          · dsimp only
            split
            · simp
            · have further := ih rest.length (by simp)
                (balance + braceDelta (splitLineComment line.text).1)
                (memberOfLine balance (balance + braceDelta (splitLineComment line.text).1)
                  register (splitLineComment line.text).1 (splitLineComment line.text).2
                  line.number).2 rest rfl
              simp only [List.length_cons]
              omega

theorem pendingAggregateBody_length_lt (balance : Int) (line : Line) (rest : List Line) :
    (pendingAggregateBody balance (line :: rest)).2.length < (line :: rest).length := by
  induction rest generalizing balance line with
  | nil =>
      unfold pendingAggregateBody aggregateBodyFrom
      dsimp only
      split
      · split
        · simp
        · have shorter := openAggregateBody_length_le (balance + braceDelta (codeOf line.text))
            .empty []
          simp only [List.length_cons]
          omega
      · split <;> simp [pendingAggregateBody]
  | cons next rest ih =>
      unfold pendingAggregateBody aggregateBodyFrom
      dsimp only
      split
      · split
        · simp
        · have shorter := openAggregateBody_length_le (balance + braceDelta (codeOf line.text))
            .empty (next :: rest)
          simp only [List.length_cons] at shorter ⊢
          omega
      · split
        · simp
        · have shorter := ih (balance + braceDelta (codeOf line.text)) next
          simp only [List.length_cons] at shorter ⊢
          omega

/-- A scan consumes at least the header. -/
theorem scanAggregate_length_le (kind : AggregateKind) (name : Text) (comments : List Text)
    (first : Line) (rest : List Line) :
    (scanAggregate kind name comments first rest).2.length ≤ rest.length := by
  have shorter := pendingAggregateBody_length_lt 0 first rest
  unfold scanAggregate aggregateBody
  dsimp only
  split <;> exact Nat.le_of_lt_succ shorter

end DocSite
