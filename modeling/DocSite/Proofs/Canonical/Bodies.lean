/-
Canonical bodies.

A scan that hands comments to its register collects the comment of a declaration before it meets the
declaration. When nothing waited before, the declaration takes exactly this comment and nothing waits behind
it, so a list of declarations is read one by one. This gives the members of canonical aggregates and enums.
-/
import DocSite.Proofs.Canonical.EnumMembers
import DocSite.Proofs.Doc.Turns

namespace DocSite.Canonical

/-! ### Comments before declarations -/

/-- A scan that hands comments to its register before it reads on. -/
def ConsumesComments {Result : Type} (run : CommentRegister → List Line → Result) : Prop :=
  ∀ {register next : CommentRegister} {line : Line} {rest remaining : List Line},
    register.consume? line rest = some (next, remaining) →
      run register (line :: rest) = run next remaining

def Clear (register : CommentRegister) : Prop :=
  register.collected = []

theorem extend_nil (register : CommentRegister) : register.extend [] = register := by
  unfold CommentRegister.extend
  rw [List.append_nil]

theorem extend_cons (register : CommentRegister) (line : Text) (lines : List Text) :
    (register.extend [line]).extend lines = register.extend (line :: lines) := by
  unfold CommentRegister.extend
  rw [List.append_assoc]
  rfl

theorem run_prose {Result : Type} {run : CommentRegister → List Line → Result}
    (consumes : ConsumesComments run) (comments : Prose) (number : Nat)
    (register : CommentRegister) (rest : List Line) :
    run register (numberedLines number comments.print ++ rest) =
      run (register.extend comments.lines) rest := by
  have one (lines : List Text) (trimmed : ∀ line ∈ lines, Text.trim line = line)
      (noMarker : ∀ line ∈ lines, isDittoWord line = false) (number : Nat)
      (register : CommentRegister) :
      run register (numberedLines number (lines.map fun line => "/// ".toList ++ line) ++ rest) =
        run (register.extend lines) rest := by
    induction lines generalizing number register with
    | nil =>
        rw [extend_nil]
        rfl
    | cons line lines ih =>
        rw [List.map_cons, numberedLines, List.cons_append]
        rw [consumes (consume?_commentLine (trimmed line List.mem_cons_self)
          (noMarker line List.mem_cons_self) register number _)]
        rw [ih (fun other member => trimmed other (List.mem_cons_of_mem line member))
          (fun other member => noMarker other (List.mem_cons_of_mem line member)), extend_cons]
  exact one comments.lines comments.trimmed comments.noMarker number register

theorem dropWhile_isEmpty {lines : List Text} (starts : lines.head? ≠ some []) :
    lines.dropWhile List.isEmpty = lines := by
  cases lines with
  | nil => rfl
  | cons line lines =>
      rw [List.dropWhile_cons_of_neg]
      intro empty
      rw [List.isEmpty_iff.mp empty] at starts
      exact starts rfl

theorem trimEmptyLines_eq_self {lines : List Text} (starts : lines.head? ≠ some [])
    (ends : lines.getLast? ≠ some []) : trimEmptyLines lines = lines := by
  have last : lines.reverse.head? ≠ some [] := by
    rw [List.head?_reverse]
    exact ends
  unfold trimEmptyLines
  rw [dropWhile_isEmpty starts, dropWhile_isEmpty last, List.reverse_reverse]

theorem trimEmptyLines_prose (comments : Prose) :
    trimEmptyLines comments.lines = comments.lines :=
  trimEmptyLines_eq_self comments.starts comments.ends

theorem attachWith_nil (register : CommentRegister) : register.attachWith [] = register.attach := by
  unfold CommentRegister.attachWith
  cases register.pending.isEmpty <;> rfl

/-- What waits behind a comment is the comment. -/
theorem pending_prose {register : CommentRegister} (clear : Clear register) (comments : Prose) :
    (register.extend comments.lines).pending = comments.lines := by
  unfold CommentRegister.pending CommentRegister.extend
  rw [show register.collected = [] from clear]
  exact trimEmptyLines_prose comments

theorem attach_prose {register : CommentRegister} (clear : Clear register) (comments : Prose) :
    ∃ next, Clear next ∧ (register.extend comments.lines).attach = (comments.lines, next) := by
  refine ⟨(register.extend comments.lines).attach.2, rfl, ?_⟩
  have first : (register.extend comments.lines).attach.1 = comments.lines :=
    pending_prose clear comments
  exact Prod.ext first rfl

theorem print_length (comments : Prose) : comments.print.length = comments.lines.length := by
  unfold Prose.print
  rw [List.length_map]

/-- The lines of a commented declaration. -/
theorem numberedLines_declaration {code : Text} (isCode : IsCode code) (comments : Prose)
    (number : Nat) : numberedLines number (comments.print ++ [code]) =
      numberedLines number comments.print ++ [⟨number + comments.lines.length, code⟩] := by
  rw [numberedLines_append, print_length]
  unfold numberedLines numberedLines
  rw [isCode.trimmed]

/-! ### Lists of declarations -/

/-- A scan that reads a piece of the source and goes on with nothing waiting, whatever stands behind. -/
def Reads {Document Result : Type} (run : CommentRegister → List Line → Result)
    (add : List Document → Result → Result) (lines : List Line) (documents : List Document) : Prop :=
  ∀ register, Clear register → ∃ next, Clear next ∧
    ∀ rest, run register (lines ++ rest) = add documents (run next rest)

/-- Declarations that are read one by one are documented one by one. -/
theorem reads_all {Item Document Result : Type} {run : CommentRegister → List Line → Result}
    {add : List Document → Result → Result} {print : Item → List Text} {height : Item → Nat}
    {document : Nat → Item → Document} (add_nil : ∀ result, add [] result = result)
    (add_cons : ∀ first further result, add [first] (add further result) = add (first :: further) result)
    (heights : ∀ item, (print item).length = height item)
    (step : ∀ item number,
      Reads run add (numberedLines number (print item)) [document number item])
    (items : List Item) (number : Nat) :
    Reads run add (numberedLines number (items.flatMap print))
      (documentAll height document number items) := by
  induction items generalizing number with
  | nil => exact fun register clear => ⟨register, clear, fun rest => (add_nil _).symm⟩
  | cons item items ih =>
      intro register clear
      obtain ⟨between, betweenClear, here⟩ := step item number register clear
      obtain ⟨next, nextClear, behind⟩ := ih (number + height item) between betweenClear
      refine ⟨next, nextClear, ?_⟩
      intro rest
      rw [List.flatMap_cons, numberedLines_append, List.append_assoc, heights, here, behind, add_cons]
      rfl

def addMembers {Record : Type} (members : List Record) (found : List Record × List Line) :
    List Record × List Line :=
  (members ++ found.1, found.2)

theorem addMembers_nil {Record : Type} (found : List Record × List Line) :
    addMembers [] found = found :=
  rfl

theorem addMembers_cons {Record : Type} (first : Record) (further : List Record)
    (found : List Record × List Line) :
    addMembers [first] (addMembers further found) = addMembers (first :: further) found :=
  rfl

theorem numberedLines_indented (number indentation : Nat) (lines : List Text) :
    numberedLines number (lines.map fun line => List.replicate indentation ' ' ++ line) =
      numberedLines number lines := by
  have trimmed (line : Text) : Text.trim (List.replicate indentation ' ' ++ line) = Text.trim line := by
    induction indentation with
    | zero => rfl
    | succ indentation ih =>
        rw [List.replicate_succ, List.cons_append, Text.trim_cons_blank rfl, ih]
  induction lines generalizing number with
  | nil => rfl
  | cons line lines ih =>
      rw [List.map_cons, numberedLines, numberedLines, trimmed, ih]

/-! ### Members of aggregates -/

theorem isCode_member (member : Member) : IsCode member.code := by
  cases member with
  | field isPrivate comments declared => exact isCode_field isPrivate declared
  | method isPrivate function => exact isCode_signature isPrivate function

theorem braceDelta_member (member : Member) : braceDelta member.code = 0 := by
  cases member with
  | field isPrivate comments declared => exact braceDelta_field isPrivate declared
  | method isPrivate function => exact braceDelta_signature isPrivate function

/-- A member at the depth of the body takes the comment that waits. -/
theorem memberOfLine_member (member : Member) {register : CommentRegister} (clear : Clear register)
    (number : Nat) : ∃ next, Clear next ∧
      memberOfLine 1 1 (register.extend member.comments.lines) member.code []
        (number + member.comments.lines.length) = ([member.document number], next) := by
  obtain ⟨next, nextClear, attached⟩ := attach_prose clear member.comments
  refine ⟨next, nextClear, ?_⟩
  unfold memberOfLine
  rw [attachWith_nil, attached]
  cases member with
  | field isPrivate comments declared =>
      have filler : isFiller (Member.field isPrivate comments declared).code = false :=
        isFiller_declared isPrivate declared [';']
      have header : matchHeader? (Member.field isPrivate comments declared).code = none :=
        matchHeader?_of_code (isCode_field isPrivate declared)
          (headerOfCode?_declared isPrivate declared [';'])
      have noFunction : isFunction (Member.field isPrivate comments declared).code = false :=
        isFunction_field isPrivate declared
      have ends : Text.endsWith ';' (Member.field isPrivate comments declared).code = true :=
        Text.endsWith_concat _ ';'
      have hidden : isPrivateDeclaration (Member.field isPrivate comments declared).code =
          isPrivate := isPrivateDeclaration_text isPrivate declared [';']
      rw [filler, header, noFunction, ends, hidden]
      rfl
  | method isPrivate function =>
      have filler : isFiller (Member.method isPrivate function).code = false :=
        isFiller_signature isPrivate function
      have header : matchHeader? (Member.method isPrivate function).code = none :=
        matchHeader?_signature isPrivate function
      have isSignature : isFunction (Member.method isPrivate function).code = true :=
        isFunction_signature isPrivate function
      have parsed : parseFunction? (Member.method isPrivate function).code
          (Member.method isPrivate function).comments.lines
          (number + (Member.method isPrivate function).comments.lines.length : Nat) =
            some (function.document isPrivate number) :=
        parseFunction?_signature isPrivate function number
      rw [filler, header, isSignature]
      dsimp only
      rw [parsed]
      rfl

theorem reads_member (member : Member) (number : Nat) :
    Reads (openAggregateBody 1) addMembers (numberedLines number member.print)
      [member.document number] := by
  intro register clear
  obtain ⟨next, nextClear, recorded⟩ := memberOfLine_member member clear number
  refine ⟨next, nextClear, ?_⟩
  intro rest
  have isCode := isCode_member member
  unfold Member.print
  rw [numberedLines_declaration isCode, List.append_assoc,
    run_prose (fun consumed => openAggregateBody_consumed consumed), List.singleton_append,
    openAggregateBody_ignored (isCode.consume? _ _ _)]
  dsimp only
  rw [isCode.splitLineComment, braceDelta_member]
  have further : closesBody (1 + 0) 0 member.code = false := rfl
  have level : (1 : Int) + 0 = 1 := rfl
  dsimp only
  rw [further, level, recorded]
  rfl

theorem openAggregateBody_closer (register : CommentRegister) (number : Nat) (rest : List Line) :
    openAggregateBody 1 register (⟨number, ['\x7d']⟩ :: rest) = ([], rest) := by
  rw [openAggregateBody_ignored (isCode_closer.consume? _ _ _)]
  rfl

/-! ### Members of enums -/

theorem membersOfLine_member (member : EnumMember) {register : CommentRegister}
    (clear : Clear register) (number : Nat) : ∃ next, Clear next ∧
      membersOfLine 1 false (register.extend member.comments.lines) member.code []
        (number + member.comments.lines.length) false = ([member.document number], next) := by
  obtain ⟨next, nextClear, attached⟩ := attach_prose clear member.comments
  refine ⟨next, nextClear, ?_⟩
  have segment : bodySegment member.code false false = member.code :=
    (isCode_enumMember member).trimmed
  unfold membersOfLine
  rw [segment]
  dsimp only
  rw [isIdleSegment_enumMember]
  unfold attachMembers
  rw [attachWith_nil, attached]
  dsimp only
  rw [parseEnumMembers_code]
  rfl

theorem reads_enumMember (member : EnumMember) (number : Nat) :
    Reads (openEnumBody 1) addMembers (numberedLines number member.print)
      [member.document number] := by
  intro register clear
  obtain ⟨next, nextClear, recorded⟩ := membersOfLine_member member clear number
  refine ⟨next, nextClear, ?_⟩
  intro rest
  have isCode := isCode_enumMember member
  unfold EnumMember.print
  rw [numberedLines_declaration isCode, List.append_assoc,
    run_prose (fun consumed => openEnumBody_consumed consumed), List.singleton_append,
    openEnumBody_ignored (isCode.consume? _ _ _)]
  dsimp only
  rw [isCode.splitLineComment, braceDelta_enumMember]
  have further : closesBody (1 + 0) 0 member.code = false := rfl
  have level : (1 : Int) + 0 = 1 := rfl
  dsimp only
  rw [further, recorded, level]
  rfl

theorem openEnumBody_closer (register : CommentRegister) (number : Nat) (rest : List Line) :
    openEnumBody 1 register (⟨number, ['\x7d']⟩ :: rest) = ([], rest) := by
  rw [openEnumBody_ignored (isCode_closer.consume? _ _ _)]
  rfl

end DocSite.Canonical
