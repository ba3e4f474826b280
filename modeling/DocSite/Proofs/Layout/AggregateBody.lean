/-
Aggregates on one line and on several lines.

A member of an aggregate is a field, a prototype, or a method with its body. Written one to a line all members
are recorded. Written on one line they are told apart by the semicolons between them, and the body of a method
ends with none: whatever stands directly behind a method with a body belongs to the same statement and is
lost. So the two layouts agree exactly when no member stands directly behind a body.
-/
import DocSite.Proofs.Doc.Turns
import DocSite.Proofs.Layout.Members

namespace DocSite.Layout

/-! ### Statements on one line -/

def membersOfPieces (number : Int) (pieces : List Text) : List AggregateMember :=
  ((pieces.dropLast.filter fun piece => !piece.isEmpty).map fun piece =>
      memberOfStatement number (piece ++ [';'])) ++
    ((if (pieces.getLast?.getD []).isEmpty then none
      else functionOfStatement? (pieces.getLast?.getD []) number).map AggregateMember.method).toList

theorem inlineMembers_eq (segment : Text) (number : Int) :
    inlineMembers segment number = membersOfPieces number (splitTopLevelAt ';' segment) := rfl

theorem membersOfPieces_cons {piece : Text} (filled : piece ≠ []) (number : Int) (next : Text)
    (pieces : List Text) : membersOfPieces number (piece :: next :: pieces) =
      memberOfStatement number (piece ++ [';']) :: membersOfPieces number (next :: pieces) := by
  have kept : (!piece.isEmpty) = true := by
    rw [List.isEmpty_eq_false_iff.mpr filled]
    rfl
  unfold membersOfPieces
  rw [List.dropLast_cons_cons, List.filter_cons, if_pos kept, List.getLast?_cons_cons]
  rfl

theorem membersOfPieces_singleton {piece : Text} (filled : piece ≠ []) (number : Int) :
    membersOfPieces number [piece] =
      ((functionOfStatement? piece number).map AggregateMember.method).toList := by
  change ((if piece.isEmpty then none else functionOfStatement? piece number).map
    AggregateMember.method).toList = _
  rw [List.isEmpty_eq_false_iff.mpr filled, if_neg Bool.false_ne_true]

/-- The members that one line records, with whether the first one stands directly behind a body. -/
def recorded : Bool → List Member → List Member
  | _, [] => []
  | true, member :: members => recorded member.hasBody members
  | false, member :: members => member :: recorded member.hasBody members

def inlineBody (members : List Member) : Text :=
  members.flatMap (fun member => ' ' :: member.text) ++ [' ']

theorem inlineBody_cons (member : Member) (members : List Member) :
    inlineBody (member :: members) =
      ' ' :: member.stem ++ if member.hasBody then inlineBody members else ';' :: inlineBody members := by
  unfold inlineBody
  rw [List.flatMap_cons, Member.text]
  cases member.hasBody with
  | true => simp
  | false => simp

theorem splitTopLevelAt_spaced {stem : Text} (nested : isNested isSemicolon (' ' :: stem) = true)
    (trimmed : Text.trim stem = stem) (rest : Text) :
    splitTopLevelAt ';' (' ' :: stem ++ ';' :: rest) = stem :: splitTopLevelAt ';' rest := by
  rw [splitTopLevelAt_nested_append (show isSemicolon ';' = true from rfl) rfl nested,
    Text.trim_cons_blank rfl, trimmed]

/-- On one line a member is recorded unless it stands directly behind a body; a method whose statement goes on
is recorded with its signature. -/
theorem membersOfPieces_inline (number : Int) (members : List Member) :
    (membersOfPieces number (splitTopLevelAt ';' (inlineBody members))).map declaredOf =
        (recorded false members).map Member.declares ∧
      ∀ (signature : Signature) (rest : Text), IsTail rest →
        (membersOfPieces number
            (splitTopLevelAt ';' (' ' :: signature.opened rest ++ inlineBody members))).map declaredOf =
          .inr signature.parts :: (recorded true members).map Member.declares := by
  induction members with
  | nil =>
      refine ⟨rfl, fun signature rest tail => ?_⟩
      have nested : isNested isSemicolon (' ' :: signature.opened rest ++ [' ']) = true :=
        isNested_append (isNested_cons rfl (signature.nested_opened tail.nested)) rfl (by decide) (by decide)
      have read := signature.functionOfStatement?_opened
        (endsInCode_nested (signature.nested_opened tail.nested)) tail.ends
        (by simpa using tail.single []) number
      have pieces : splitTopLevelAt ';' (' ' :: signature.opened rest ++ inlineBody []) =
          [signature.opened rest] := by
        change splitTopLevelAt ';' (' ' :: signature.opened rest ++ [' ']) = _
        rw [splitTopLevelAt_nested (show isSemicolon ';' = true from rfl) nested,
          Text.trim_append_blanks _ (List.all_eq_true.mp rfl), Text.trim_cons_blank rfl,
          signature.trim_opened tail.ends]
      rw [pieces, membersOfPieces_singleton (signature.opened_ne_nil rest), read]
      rfl
  | cons member members ih =>
      obtain ⟨free, behind⟩ := ih
      obtain ⟨next, others, cut⟩ := splitTopLevelAt_eq_cons ';' (inlineBody members)
      constructor
      · rw [inlineBody_cons]
        cases body : member.hasBody with
        | false =>
            rw [if_neg Bool.false_ne_true, splitTopLevelAt_spaced member.nested_spaced member.trim_stem, cut,
              membersOfPieces_cons member.stem_ne_nil, ← cut, List.map_cons, free,
              declaredOf_memberOfStatement member body, recorded, body, List.map_cons]
        | true =>
            cases member with
            | method signature text nested =>
                rw [if_pos rfl]
                exact behind signature _ (isTail_bracedBody nested)
            | field declared => cases body
            | prototype signature => cases body
      · intro signature rest tail
        have longer := tail.append_stem member
        have joined (more : Text) : ' ' :: signature.opened rest ++ (' ' :: member.stem ++ more) =
            ' ' :: signature.opened (rest ++ ' ' :: member.stem) ++ more := by
          rw [← signature.opened_append]
          simp only [List.append_assoc, List.cons_append]
        rw [inlineBody_cons, joined, recorded]
        cases body : member.hasBody with
        | false =>
            have nested : isNested isSemicolon (' ' :: signature.opened (rest ++ ' ' :: member.stem)) = true :=
              isNested_cons rfl (signature.nested_opened longer.nested)
            rw [if_neg Bool.false_ne_true, splitTopLevelAt_spaced nested (signature.trim_opened longer.ends), cut,
              membersOfPieces_cons (signature.opened_ne_nil _), ← cut, List.map_cons, free,
              signature.memberOfStatement_opened longer.nested (longer.single [';'])]
            rfl
        | true =>
            rw [if_pos rfl]
            exact behind signature _ longer

/-! ### Lines of a body -/

section Lines

variable {line : Text} {delta : Int} (weighs : Weighs line delta) (balance : Int) (number : Nat)
  (rest : List Line)
include weighs

theorem openAggregateBody_line (noSlash : (Text.trim line).head? ≠ some '/') (register : CommentRegister) :
    openAggregateBody balance register (⟨number, Text.trim line⟩ :: rest) =
      if closesBody (balance + delta) delta (Text.trim line) then
        (if balance = 1 then inlineMembers (bodySegment (Text.trim line) false true) number else [], rest)
      else
        let found := memberOfLine balance (balance + delta) register (Text.trim line) [] number
        let further := openAggregateBody (balance + delta) found.2 rest
        (found.1 ++ further.1, further.2) := by
  rw [openAggregateBody_ignored
    (CommentRegister.consume?_eq_none_of_head (Text.trim_trim line) noSlash register number rest)]
  dsimp only
  rw [weighs.code]
  dsimp only
  rw [weighs.delta_trim]

theorem pendingAggregateBody_line :
    pendingAggregateBody balance (⟨number, Text.trim line⟩ :: rest) =
      if opensBrace line then
        aggregateBodyFrom (balance + delta) (Text.trim line) ⟨number, Text.trim line⟩ rest
      else if Text.endsWith ';' (Text.trim line) then ([], rest)
      else pendingAggregateBody (balance + delta) rest := by
  have code : codeOf (Text.trim line) = Text.trim line := congrArg Prod.fst weighs.code
  rw [pendingAggregateBody]
  dsimp only
  rw [code, weighs.delta_trim, weighs.ends.opensBrace_trim]

end Lines

/-! ### One member to a line -/

/-- A member on a line of its own is recorded, whatever stands on the lines around it. -/
theorem openAggregateBody_members (members : List Member) (register : CommentRegister) (number : Nat)
    (behind : List Text) :
    (openAggregateBody 1 register
        (numberedLines number (members.map Member.text ++ ['\x7d'] :: behind))).1.map declaredOf =
          members.map Member.declares ∧
      (openAggregateBody 1 register
        (numberedLines number (members.map Member.text ++ ['\x7d'] :: behind))).2 =
          numberedLines (number + members.length + 1) behind := by
  induction members generalizing register number with
  | nil =>
      rw [List.map_nil, List.nil_append, numberedLines, openAggregateBody_line weighs_closer 1 number _
        (by decide)]
      exact ⟨rfl, rfl⟩
  | cons member members ih =>
      have stays : closesBody (1 + 0) 0 (Text.trim member.text) = false := rfl
      have own := member.memberOfLine_text register number
      obtain ⟨further, remaining⟩ := ih (memberOfLine 1 1 register member.text [] number).2 (number + 1)
      rw [List.map_cons, List.cons_append, numberedLines,
        openAggregateBody_line member.weighs_text 1 number _ member.head?_trim_ne, stays,
        if_neg Bool.false_ne_true, member.trim_text]
      dsimp only
      rw [Int.add_zero, List.map_append, own, further, remaining, List.length_cons]
      exact ⟨rfl, by rw [show number + 1 + members.length + 1 = number + (members.length + 1) + 1 by omega]⟩

/-! ### What one line records -/

theorem recorded_sublist (behind : Bool) (members : List Member) :
    (recorded behind members).Sublist members := by
  induction members generalizing behind with
  | nil => exact List.Sublist.refl []
  | cons member members ih =>
      cases behind with
      | true => exact (ih member.hasBody).cons member
      | false => exact (ih member.hasBody).cons_cons member

/-- Nothing is lost exactly when no member stands directly behind a body. -/
theorem recorded_eq_iff (members : List Member) : recorded false members = members ↔
    ∀ member ∈ members.dropLast, member.hasBody = false := by
  induction members with
  | nil => simp [recorded]
  | cons member members ih =>
      rw [recorded, List.cons.injEq, eq_self, true_and]
      cases members with
      | nil => simp [recorded]
      | cons next members =>
          rw [List.dropLast_cons_cons, List.forall_mem_cons]
          cases body : member.hasBody with
          | false => rw [ih, eq_self, true_and]
          | true =>
              have lost : recorded true (next :: members) ≠ next :: members := by
                intro whole
                have shorter := (recorded_sublist next.hasBody members).length_le
                rw [recorded] at whole
                rw [whole, List.length_cons] at shorter
                omega
              exact iff_of_false lost fun free => Bool.noConfusion free.1

/-! ### Both layouts -/

abbrev Declarations := List Text × List (Text × Text × List Text)

def declarationsOf (declared : List Member.Declared) : Declarations :=
  (declared.filterMap Sum.getLeft?, declared.filterMap Sum.getRight?)

def declarationsIn (documented : AggregateDoc) : Declarations :=
  (documented.fields.map FieldDoc.declaration,
    documented.methods.map fun function => (function.name, function.returnType, function.parameters))

theorem length_declarationsOf (declared : List Member.Declared) :
    (declarationsOf declared).1.length + (declarationsOf declared).2.length = declared.length := by
  unfold declarationsOf
  induction declared with
  | nil => rfl
  | cons first declared ih =>
      dsimp only at ih ⊢
      cases first with
      | inl field =>
          simp only [List.filterMap_cons, Sum.getLeft?_inl, Sum.getRight?_inl, List.length_cons]
          omega
      | inr method =>
          simp only [List.filterMap_cons, Sum.getLeft?_inr, Sum.getRight?_inr, List.length_cons]
          omega

/-- The documentation of an aggregate holds the declarations of its members. -/
theorem declarationsIn_eq {documented : AggregateDoc} {members : List AggregateMember}
    (methods : documented.methods = members.filterMap AggregateMember.method?)
    (fields : documented.fields = members.filterMap AggregateMember.field?) :
    declarationsIn documented = declarationsOf (members.map declaredOf) := by
  unfold declarationsIn declarationsOf
  rw [methods, fields, List.map_filterMap, List.map_filterMap, List.filterMap_map, List.filterMap_map]
  refine Prod.ext (congrArg (fun told => members.filterMap told) (funext fun member => ?_))
    (congrArg (fun told => members.filterMap told) (funext fun member => ?_))
  · cases member <;> rfl
  · cases member <;> rfl

/-- Fewer members are told apart from all of them. -/
theorem declarationsOf_eq_iff {fewer members : List Member} (sublist : fewer.Sublist members) :
    declarationsOf (fewer.map Member.declares) = declarationsOf (members.map Member.declares) ↔
      fewer = members := by
  constructor
  · intro same
    have short := length_declarationsOf (fewer.map Member.declares)
    have long := length_declarationsOf (members.map Member.declares)
    rw [same, long, List.length_map, List.length_map] at short
    exact sublist.eq_of_length short.symm
  · intro same
    rw [same]

structure Aggregate where
  kind : AggregateKind
  name : Text
  named : Text.isIdentifier name = true
  members : List Member

namespace Aggregate

variable (aggregate : Aggregate)

def header : HeaderLayout :=
  ⟨.aggregate aggregate.kind, aggregate.name, aggregate.named, .none, .space⟩

def oneLine : Text :=
  aggregate.header.text ++ '\x7b' :: (inlineBody aggregate.members ++ ['\x7d'])

def lines : List Text :=
  (aggregate.header.text ++ ['\x7b']) :: (aggregate.members.map Member.text ++ [['\x7d']])

theorem nested_inlineBody (members : List Member) : isNested unbarred (inlineBody members) = true := by
  induction members with
  | nil => rfl
  | cons member members ih =>
      have stem : isNested unbarred (' ' :: member.stem) = true :=
        isNestedFrom_mono (fun _ barred => Bool.noConfusion barred) member.nested_spaced
      have head : (inlineBody members).head? = some ' ' := by
        cases members with
        | nil => rfl
        | cons next members => rfl
      rw [inlineBody_cons]
      cases member.hasBody with
      | true =>
          rw [if_pos rfl]
          exact isNested_append stem ih (by rw [head]; decide) (by rw [head]; decide)
      | false =>
          rw [if_neg Bool.false_ne_true]
          exact isNested_append stem (isNested_cons rfl ih) (by simp) (by simp)

theorem inlineMembers_inlineBody (members : List Member) (number : Int) :
    (inlineMembers (Text.trim (inlineBody members)) number).map declaredOf =
      (recorded false members).map Member.declares := by
  rw [inlineMembers_eq, splitTopLevelAt_trim rfl]
  exact (membersOfPieces_inline number members).1

theorem aggregateBody_oneLine (number : Nat) (rest : List Line) :
    (aggregateBody ⟨number, Text.trim aggregate.oneLine⟩ rest).1.map declaredOf =
        (recorded false aggregate.members).map Member.declares ∧
      (aggregateBody ⟨number, Text.trim aggregate.oneLine⟩ rest).2 = rest := by
  have weighs := weighs_both aggregate.header.nested_text (nested_inlineBody aggregate.members) .none
  have segment := bodySegment_both aggregate.header.front.unopened (inlineBody aggregate.members)
    Padding.none.blank
  change (pendingAggregateBody 0 (⟨number, Text.trim (aggregate.header.text ++ '\x7b' ::
      (inlineBody aggregate.members ++ '\x7d' :: Padding.none.text))⟩ :: rest)).1.map declaredOf = _ ∧
    (pendingAggregateBody 0 (⟨number, Text.trim (aggregate.header.text ++ '\x7b' ::
      (inlineBody aggregate.members ++ '\x7d' :: Padding.none.text))⟩ :: rest)).2 = _
  rw [pendingAggregateBody_line weighs, opensBrace_opening aggregate.header.nested_text, if_pos rfl]
  unfold aggregateBodyFrom
  dsimp only
  rw [show decide ((0 : Int) + 0 ≤ 0) = true from rfl, if_pos rfl,
    show aggregate.header.text = aggregate.header.front.text from rfl, segment]
  exact ⟨inlineMembers_inlineBody aggregate.members number, rfl⟩

theorem aggregateBody_lines (number : Nat) (behind : List Text) :
    (aggregateBody ⟨number, Text.trim (aggregate.header.text ++ ['\x7b'])⟩
        (numberedLines (number + 1) (aggregate.members.map Member.text ++ ['\x7d'] :: behind))).1.map
          declaredOf = aggregate.members.map Member.declares ∧
      (aggregateBody ⟨number, Text.trim (aggregate.header.text ++ ['\x7b'])⟩
        (numberedLines (number + 1) (aggregate.members.map Member.text ++ ['\x7d'] :: behind))).2 =
          numberedLines (number + aggregate.lines.length) behind := by
  have weighs : Weighs (aggregate.header.text ++ ['\x7b']) 1 :=
    weighs_opening aggregate.header.nested_text rfl
  have segment := bodySegment_opening aggregate.header.front.unopened []
  obtain ⟨members, remaining⟩ :=
    openAggregateBody_members aggregate.members .empty (number + 1) behind
  unfold aggregateBody
  rw [pendingAggregateBody_line weighs, opensBrace_opening aggregate.header.nested_text, if_pos rfl]
  unfold aggregateBodyFrom
  dsimp only
  rw [show decide ((0 : Int) + 1 ≤ 0) = false from rfl, if_neg Bool.false_ne_true,
    show aggregate.header.text = aggregate.header.front.text from rfl, segment]
  refine ⟨members, remaining.trans ?_⟩
  rw [lines, List.length_cons, List.length_append, List.length_map, List.length_singleton,
    show number + 1 + aggregate.members.length + 1 = number + (aggregate.members.length + 1 + 1) by omega]

/-- The aggregate is scanned with its documentation, from its header at one position to the lines from another
position on. -/
def ScansAs (lines : List Text) (position stop : Nat) (comments : List Text)
    (documented : AggregateDoc) : Prop :=
  ∃ first rest header, Cursor.linesFrom lines position = first :: rest ∧
    matchHeader? first.text = some header ∧ header.kind = .aggregate aggregate.kind ∧
    scanAggregate aggregate.kind header.name comments first rest =
      (some documented, Cursor.linesFrom lines stop) ∧
    Cursor.scanAggregateAt lines position comments = .ok (some documented, stop)

/-- What the body records is what the documentation of the aggregate holds. -/
theorem exists_scanned (kind : AggregateKind) {name : Text} (filled : name.isEmpty = false)
    (comments : List Text) (first : Line) (rest : List Line) : ∃ documented,
      scanAggregate kind name comments first rest = (some documented, (aggregateBody first rest).2) ∧
        documented.name = name ∧
        declarationsIn documented = declarationsOf ((aggregateBody first rest).1.map declaredOf) := by
  unfold scanAggregate
  rw [filled]
  exact ⟨_, rfl, rfl, declarationsIn_eq rfl rfl⟩

theorem exists_scansAs {before own behind : List Text} {line : Text} {rest : List Line}
    {declared : List Member.Declared}
    (begins : numberedLines (before.length + 1) (own ++ behind) = ⟨before.length + 1, line⟩ :: rest)
    (matched : ∃ found, matchHeader? line = some found ∧ found.kind = aggregate.header.kind ∧
      found.name = aggregate.header.name)
    (read : (aggregateBody ⟨before.length + 1, line⟩ rest).1.map declaredOf = declared ∧
      (aggregateBody ⟨before.length + 1, line⟩ rest).2 =
        numberedLines (before.length + 1 + own.length) behind) (comments : List Text) :
    ∃ documented, aggregate.ScansAs (before ++ (own ++ behind)) before.length (before.length + own.length)
        comments documented ∧
      documented.name = aggregate.name ∧ declarationsIn documented = declarationsOf declared := by
  obtain ⟨members, remaining⟩ := read
  obtain ⟨header, accepted, sort, named⟩ := matched
  obtain ⟨inside, text, here, others⟩ := exists_lineOf begins
  have filled : header.name.isEmpty = false := by
    rw [named]
    exact aggregate.header.isWord.isEmpty
  obtain ⟨documented, scanned, isNamed, holds⟩ :=
    exists_scanned aggregate.kind filled comments ⟨before.length + 1, line⟩ rest
  rw [remaining, ← linesFrom_between] at scanned
  rw [members] at holds
  have fromHere := Cursor.linesFrom_eq_cons inside
  rw [text, others] at fromHere
  have follows := Cursor.scanAggregateAt_follows inside (by rw [text, accepted]) sort comments
  rw [here, others, scanned] at follows
  refine ⟨documented, ⟨_, rest, header, fromHere, accepted, sort, scanned, ?_⟩, isNamed.trans named, holds⟩
  exact eq_ok_of_follows follows (by simp only [List.length_append]; omega) rfl

end Aggregate

/-- An aggregate with a line for every member is scanned with all of its members. On one line it is scanned
with the members that stand behind no body, so that the two layouts agree exactly when only the last member
has a body. -/
theorem scanAggregate_layouts (aggregate : Aggregate) (comments before behind : List Text) :
    ∃ oneLine lines : AggregateDoc,
      aggregate.ScansAs (before ++ ([aggregate.oneLine] ++ behind)) before.length (before.length + 1)
          comments oneLine ∧
        aggregate.ScansAs (before ++ (aggregate.lines ++ behind)) before.length
          (before.length + aggregate.lines.length) comments lines ∧
        oneLine.name = aggregate.name ∧ lines.name = aggregate.name ∧
        declarationsIn oneLine =
          declarationsOf ((recorded false aggregate.members).map Member.declares) ∧
        declarationsIn lines = declarationsOf (aggregate.members.map Member.declares) ∧
        (declarationsIn oneLine = declarationsIn lines ↔
          ∀ member ∈ aggregate.members.dropLast, member.hasBody = false) := by
  have oneWeighs := weighs_both aggregate.header.nested_text
    (Aggregate.nested_inlineBody aggregate.members) .none
  have linesWeigh : Weighs (aggregate.header.text ++ ['\x7b']) 1 :=
    weighs_opening aggregate.header.nested_text rfl
  have oneBegins : numberedLines (before.length + 1) ([aggregate.oneLine] ++ behind) =
      ⟨before.length + 1, Text.trim aggregate.oneLine⟩ ::
        numberedLines (before.length + 1 + 1) behind := rfl
  obtain ⟨oneLine, oneScan, oneNamed, oneHolds⟩ := aggregate.exists_scansAs oneBegins
    (aggregate.header.matchHeader?_opening oneWeighs)
    (aggregate.aggregateBody_oneLine (before.length + 1) (numberedLines (before.length + 1 + 1) behind))
    comments
  have linesBegin : numberedLines (before.length + 1) (aggregate.lines ++ behind) =
      ⟨before.length + 1, Text.trim (aggregate.header.text ++ ['\x7b'])⟩ ::
        numberedLines (before.length + 1 + 1) (aggregate.members.map Member.text ++ ['\x7d'] :: behind) := by
    rw [Aggregate.lines, List.cons_append, List.append_assoc, numberedLines]
    rfl
  obtain ⟨lines, linesScan, linesNamed, linesHold⟩ := aggregate.exists_scansAs linesBegin
    (aggregate.header.matchHeader?_opening linesWeigh)
    (aggregate.aggregateBody_lines (before.length + 1) behind) comments
  refine ⟨oneLine, lines, oneScan, linesScan, oneNamed, linesNamed, oneHolds, linesHold, ?_⟩
  rw [oneHolds, linesHold, declarationsOf_eq_iff (recorded_sublist false aggregate.members),
    recorded_eq_iff]

def fieldBehindBody : Aggregate where
  kind := .structType
  name := "S".toList
  named := rfl
  members :=
    [.method
      { result := ⟨.primitive "void".toList (by decide), ⟨"f".toList, rfl, by decide, rfl⟩⟩
        parameters := [] }
      [' '] rfl,
      .field ⟨.primitive "int".toList (by decide), ⟨"x".toList, rfl, by decide, rfl⟩⟩]

example : fieldBehindBody.oneLine = "struct S \x7b void f() \x7b \x7d int x; \x7d".toList ∧
    fieldBehindBody.lines = ["struct S \x7b".toList, "void f() \x7b \x7d".toList, "int x;".toList,
      "\x7d".toList] ∧
    (recorded false fieldBehindBody.members).map Member.declares =
      [.inr ("f".toList, "void".toList, [])] := by
  decide

end DocSite.Layout
