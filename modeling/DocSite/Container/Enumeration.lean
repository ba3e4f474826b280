/-
Bodies of enums.

Every line of a body is cut at top-level commas into members, and a member at its first equals sign
into a name and a value. The members of one line share the comment that waits for them. A line inside a
value that spans lines adds no member.
-/
import DocSite.Comment.Register
import DocSite.Container.Header
import DocSite.Container.Segment
import DocSite.Source.Body
import DocSite.Source.Nesting

namespace DocSite

/-! ### Members -/

/-- The name and the value that a member is written with. A member without a top-level equals sign
has no value; otherwise the value is what follows the first equals sign. -/
def splitEnumMember (piece : Text) : Text × Text :=
  match splitTopLevelAt '=' piece with
  | [] => ([], [])
  | [name] => (name, [])
  | name :: _ => (name, Text.trim (((Text.cutAt? '=' piece).map (·.2)).getD piece))

def enumMember? (number : Int) (comments : List Text) (piece : Text) : Option EnumMemberDoc :=
  let (name, value) := splitEnumMember piece
  if piece.isEmpty || name.isEmpty then none
  else some { name := name, value := value, comments := comments, line := number }

def parseEnumMembers (segment : Text) (number : Int) (comments : List Text) : List EnumMemberDoc :=
  (splitTopLevelAt ',' segment).filterMap (enumMember? number comments)

def attachMembers (segment : Text) (number : Int) (register : CommentRegister) (trailing : Text) :
    List EnumMemberDoc × CommentRegister :=
  let (comments, register) := register.attachWith trailing
  (parseEnumMembers segment number comments, register)

/-! ### Bodies -/

/-- Whether a segment has nothing but separators of statements. -/
def isIdleSegment (segment : Text) : Bool :=
  segment.all fun character => character == ';' || character == ' ' || character == '\t'

def membersOfLine (before : Int) (closed : Bool) (register : CommentRegister)
    (code trailing : Text) (number : Nat) (opensHere : Bool) :
    List EnumMemberDoc × CommentRegister :=
  if before > 1 ∧ !closed then ([], register)
  else
    let segment := bodySegment code opensHere closed
    if isIdleSegment segment then ([], register)
    else attachMembers segment number register trailing

def openEnumBody (balance : Int) (register : CommentRegister) :
    List Line → List EnumMemberDoc × List Line
  | [] => ([], [])
  | line :: rest =>
      match _ : register.consume? line rest with
      | some (register, remaining) => openEnumBody balance register remaining
      | none =>
          let (code, trailing) := splitLineComment line.text
          let delta := braceDelta code
          let after := balance + delta
          let closed := closesBody after delta code
          let (members, register) :=
            membersOfLine balance closed register code trailing line.number false
          if closed then (members, rest)
          else
            let (more, remaining) := openEnumBody after register rest
            (members ++ more, remaining)
termination_by lines => lines.length
decreasing_by
  · have shorter := CommentRegister.consume?_length_le (by assumption)
    simp only [List.length_cons]
    omega
  · simp only [List.length_cons]
    omega

/-- The members of an enum whose body has not opened yet, and the lines behind it. A semicolon before
the body ends the declaration. -/
def pendingEnumBody (balance : Int) : List Line → List EnumMemberDoc × List Line
  | [] => ([], [])
  | line :: rest =>
      let (code, trailing) := splitLineComment line.text
      let delta := braceDelta code
      let after := balance + delta
      if opensBrace code then
        let closed := closesBody after delta code
        let (members, register) :=
          membersOfLine balance closed .empty code trailing line.number true
        if closed then (members, rest)
        else
          let (more, remaining) := openEnumBody after register rest
          (members ++ more, remaining)
      else if Text.endsWith ';' code then ([], rest)
      else pendingEnumBody after rest

def enumBody (first : Line) (rest : List Line) : List EnumMemberDoc × List Line :=
  let (code, trailing) := splitLineComment first.text
  let balance := braceDelta code
  if opensBrace code then
    let closed := decide (balance ≤ 0)
    let segment := bodySegment code true closed
    let (members, register) :=
      if segment.isEmpty then ([], CommentRegister.empty)
      else attachMembers segment first.number .empty trailing
    if closed then (members, rest)
    else
      let (more, remaining) := openEnumBody balance register rest
      (members ++ more, remaining)
  else if Text.endsWith ';' code then ([], rest)
  else pendingEnumBody balance rest

/-- The enum whose header is the first line, and the lines behind it. An anonymous one is not
documented. -/
def scanEnum (name : Text) (comments : List Text) (first : Line) (rest : List Line) :
    Option EnumDoc × List Line :=
  let (members, remaining) := enumBody first rest
  if name.isEmpty then (none, remaining)
  else (some { name := name, comments := comments, members := members, line := first.number },
    remaining)

/-! ### Progress -/

theorem openEnumBody_length_le (balance : Int) (register : CommentRegister) (lines : List Line) :
    (openEnumBody balance register lines).2.length ≤ lines.length := by
  induction measured : lines.length using Nat.strongRecOn generalizing balance register lines with
  | ind size ih =>
      subst measured
      cases lines with
      | nil => simp [openEnumBody]
      | cons line rest =>
          unfold openEnumBody
          split
          · rename_i next remaining consumed
            have shorter := CommentRegister.consume?_length_le consumed
            have further := ih remaining.length (by simp only [List.length_cons]; omega)
              balance next remaining rfl
            simp only [List.length_cons]
            omega
          · dsimp only
            split
            · simp
            · simp only [List.length_cons]
              exact Nat.le_succ_of_le (ih rest.length (by simp) _ _ rest rfl)

theorem pendingEnumBody_length_le (balance : Int) (lines : List Line) :
    (pendingEnumBody balance lines).2.length ≤ lines.length := by
  induction lines generalizing balance with
  | nil => simp [pendingEnumBody]
  | cons line rest ih =>
      unfold pendingEnumBody
      dsimp only
      simp only [List.length_cons]
      split
      · split
        · exact Nat.le_succ _
        · exact Nat.le_succ_of_le (openEnumBody_length_le _ _ _)
      · split
        · exact Nat.le_succ _
        · exact Nat.le_succ_of_le (ih _)

/-- A scan consumes at least the header. -/
theorem scanEnum_length_le (name : Text) (comments : List Text) (first : Line) (rest : List Line) :
    (scanEnum name comments first rest).2.length ≤ rest.length := by
  have bodyShorter : (enumBody first rest).2.length ≤ rest.length := by
    unfold enumBody
    dsimp only
    split
    · split
      · exact Nat.le_refl _
      · exact openEnumBody_length_le _ _ _
    · split
      · exact Nat.le_refl _
      · exact pendingEnumBody_length_le _ _
  unfold scanEnum
  dsimp only
  split <;> exact bodyShorter

end DocSite
