/-
Nested blocks.

What a scope remembers of comments and the numbers of lines have no part in what is declared, and a line adds
no member if more than one brace is open in front of it and behind it. So a block of such lines may take the
place of another one that leads to the same place.
-/
import DocSite.Proofs.Comment.AggregateVisits
import DocSite.Proofs.Walk.Extent
import DocSite.Proofs.Walk.Growth
import DocSite.Proofs.Walk.Renumbering

namespace DocSite

open Cursor (linesFrom)

/-! ### Declarations without comments and numbers -/

def FunctionDoc.outline (declared : FunctionDoc) : FunctionDoc :=
  { declared with comments := [], line := 0 }

def FieldDoc.outline (declared : FieldDoc) : FieldDoc :=
  { declared with comments := [], line := 0 }

def AggregateMember.outline : AggregateMember → AggregateMember
  | .method declared => .method declared.outline
  | .field declared => .field declared.outline

def AggregateDoc.outline (declared : AggregateDoc) : AggregateDoc :=
  { declared with
    methods := declared.methods.map FunctionDoc.outline
    fields := declared.fields.map FieldDoc.outline }

theorem outline_eq_renumber {member : AggregateMember} (bare : member.comments = []) :
    member.outline = member.renumber fun _ => 0 := by
  cases member with
  | method declared =>
      have nothing : declared.comments = [] := bare
      simp only [AggregateMember.outline, AggregateMember.renumber, FunctionDoc.outline, FunctionDoc.renumber,
        nothing]
  | field declared =>
      have nothing : declared.comments = [] := bare
      simp only [AggregateMember.outline, AggregateMember.renumber, FieldDoc.outline, FieldDoc.renumber,
        nothing]

theorem outline_inlineMembers (segment : Text) (number : Int) :
    (inlineMembers segment number).map AggregateMember.outline = inlineMembers segment 0 := by
  have renumbered : (inlineMembers segment number).map AggregateMember.outline =
      (inlineMembers segment number).map (AggregateMember.renumber fun _ => 0) :=
    List.map_congr_left fun member recorded => outline_eq_renumber (comments_of_inlineMembers recorded)
  exact renumbered.trans (inlineMembers_renumber (fun _ => 0) segment number).symm

theorem outline_parseFunction? (line : Text) (comments : List Text) (number : Int) :
    (parseFunction? line comments number).map FunctionDoc.outline = parseFunction? line [] 0 := by
  unfold parseFunction? parseSignature?
  cases cutAtParameters? (codeOf (Text.trim line)) with
  | none => rfl
  | some parts =>
      simp only
      cases parameterText? parts.2 with
      | none => rfl
      | some parameters =>
          simp only [Option.map_map]
          rfl

theorem outline_memberOfLine (before after : Int) (register : CommentRegister) (code trailing : Text)
    (number : Nat) :
    (memberOfLine before after register code trailing number).1.map AggregateMember.outline =
      (memberOfLine before after .empty code [] 0).1 := by
  have nothing : (CommentRegister.empty.attachWith []).1 = [] := rfl
  unfold memberOfLine
  by_cases filler : isFiller code = true
  · simp only [filler, if_true, List.map_nil]
  by_cases header : (matchHeader? code).isSome = true
  · simp only [filler, header, Bool.false_eq_true, if_false, if_true, List.map_nil]
  by_cases signature : isFunction code = true
  · by_cases level : before = 1
    · simp only [filler, header, signature, level, Bool.false_eq_true, if_false, if_true, nothing,
        Int.ofNat_zero]
      rw [← outline_parseFunction? code (register.attachWith trailing).1 number]
      cases parseFunction? code (register.attachWith trailing).1 number <;> rfl
    · simp only [filler, header, signature, level, Bool.false_eq_true, if_false, if_true, List.map_nil]
  by_cases field : after = 1 ∧ Text.endsWith ';' code
  · simp only [filler, header, signature, field, Bool.false_eq_true, if_false, if_true, and_self, nothing]
    rfl
  · simp only [filler, header, signature, field, Bool.false_eq_true, if_false, List.map_nil]

theorem outline_insideAggregate (balance : Int) (register another : CommentRegister) {line other : Line}
    (same : line.text = other.text) :
    (insideAggregate balance register line).1.map AggregateMember.outline =
      (insideAggregate balance another other).1.map AggregateMember.outline := by
  unfold insideAggregate
  rw [same]
  dsimp only
  split
  · split
    · rw [outline_inlineMembers, outline_inlineMembers]
    · rfl
  · rw [outline_memberOfLine, outline_memberOfLine]

theorem outline_filterMap {Declared : Type} {read? : AggregateMember → Option Declared}
    {outline : Declared → Declared}
    (reads : ∀ member : AggregateMember, (read? member).map outline = read? member.outline)
    (members : List AggregateMember) :
    (members.filterMap read?).map outline = (members.map AggregateMember.outline).filterMap read? := by
  rw [List.map_filterMap, List.filterMap_map]
  congr 1
  funext member
  exact reads member

theorem outline_method? (member : AggregateMember) :
    member.method?.map FunctionDoc.outline = member.outline.method? := by
  cases member <;> rfl

theorem outline_field? (member : AggregateMember) :
    member.field?.map FieldDoc.outline = member.outline.field? := by
  cases member <;> rfl

/-! ### One line -/

def BodyRules.recorded {Member : Type} (rules : BodyRules Member) (state : BodyState Member) (line : Line) :
    List Member :=
  match state with
  | .pending balance => (rules.pending balance line).members
  | .inside balance reader _ =>
      if (reader.place.read? line.text).isSome then [] else (rules.inside balance reader.register line).1

theorem BodyRules.members_step_eq {Member : Type} (rules : BodyRules Member) (state : BodyState Member)
    (line : Line) : (rules.step state line).members = state.members ++ rules.recorded state line := by
  cases state with
  | pending balance => rfl
  | inside balance reader members =>
      simp only [BodyRules.step, BodyRules.recorded, CommentReader.read?_place]
      cases reader.read? line.text with
      | some next => exact (List.append_nil members).symm
      | none =>
          simp only [BodyRules.stepInside]
          rcases rules.inside balance reader.register line with ⟨more, _ | ⟨after, next⟩⟩ <;> rfl

section Moves

variable {Member : Type} {rules : BodyRules Member} (moves : rules.Moves fun _ => True)

include moves

theorem BodyRules.Moves.place?_step {state : BodyState Member} (unclosed : state.place.Unclosed)
    (line : Line) : (rules.step state line).place? = state.place.step line.text :=
  moves.step unclosed fun _ _ => trivial

theorem BodyRules.Moves.goes {state : BodyState Member} {line : Line} {place : BodyPlace}
    (unclosed : state.place.Unclosed) (leads : state.place.step line.text = some place) :
    ∃ next, rules.step state line = .goes next ∧ next.place = place ∧
      next.members = state.members ++ rules.recorded state line := by
  have turn := moves.place?_step unclosed line
  have members := rules.members_step_eq state line
  rw [leads] at turn
  cases taken : rules.step state line with
  | ends recorded =>
      rw [taken] at turn
      cases turn
  | goes next =>
      rw [taken] at turn members
      exact ⟨next, rfl, Option.some.inj turn, members⟩

/-- A walk that is not at its end behind some lines goes on from there. -/
theorem BodyRules.Moves.run_through {state : BodyState Member} {place : BodyPlace} {front : List Line}
    (unclosed : state.place.Unclosed) (leads : state.place.through (front.map Line.text) = some place) :
    ∃ next, next.place = place ∧ next.place.Unclosed ∧
      ∀ rest, rules.run state (front ++ rest) = rules.run next rest := by
  induction front generalizing state with
  | nil => exact ⟨state, Option.some.inj leads, unclosed, fun rest => rfl⟩
  | cons line front ih =>
      obtain ⟨between, first, further⟩ := Option.bind_eq_some_iff.mp leads
      obtain ⟨behind, turn, stands, _⟩ := moves.goes unclosed first
      rw [← stands] at first further
      obtain ⟨next, reached, still, same⟩ := ih (unclosed.step first) further
      refine ⟨next, reached, still, ?_⟩
      intro rest
      rw [List.cons_append, BodyRules.run_cons, turn]
      exact same rest

end Moves

/-! ### Nested lines -/

/-- The place behind a block of lines, each with at least two open braces in front of it and behind it. -/
def BodyPlace.throughNested (place : BodyPlace) : List Text → Option BodyPlace
  | [] => some place
  | line :: rest => (place.step line).bind fun next =>
      if 2 ≤ place.balance ∧ 2 ≤ next.balance then next.throughNested rest else none

theorem memberOfLine_nested {before after : Int} (deepBefore : 2 ≤ before) (deepAfter : 2 ≤ after)
    (register : CommentRegister) (code trailing : Text) (number : Nat) :
    (memberOfLine before after register code trailing number).1 = [] := by
  have notBefore : before ≠ 1 := by omega
  have notAfter : ¬(after = 1 ∧ Text.endsWith ';' code = true) := fun level => by omega
  unfold memberOfLine
  rw [if_neg notBefore, if_neg notAfter]
  split_ifs <;> rfl

/-- A nested line adds no member, whatever it says. -/
theorem recorded_nested {state : BodyState AggregateMember} {line : Line} {next : BodyPlace}
    (inside : state.place.comment?.isSome = true) (leads : state.place.step line.text = some next)
    (deepBefore : 2 ≤ state.place.balance) (deepAfter : 2 ≤ next.balance) :
    aggregateRules.recorded state line = [] := by
  cases state with
  | pending balance => cases inside
  | inside balance reader members =>
      simp only [BodyRules.recorded]
      cases BodyPlace.leads_of_step leads with
      | comment balance reads => rw [if_pos (Option.isSome_of_eq_some reads)]
      | code balance reads left =>
          have closes : closesBody (balance + braceDelta line.text) (braceDelta line.text)
              (codeOf line.text) = false :=
            (closesBody_eq_decide (Int.lt_of_lt_of_le (by decide) deepBefore) _).trans
              (decide_eq_false (Int.not_le.mpr left))
          have code : (reader.place.read? line.text).isSome = false := by
            rw [reads]
            rfl
          simp only [code, aggregateRules, insideAggregate, code_splitLineComment, braceDelta_codeOf, closes,
            Bool.false_eq_true, if_false]
          exact memberOfLine_nested deepBefore deepAfter _ _ _ _

theorem inside_step {place next : BodyPlace} {line : Text} (inside : place.comment?.isSome = true)
    (leads : place.step line = some next) : next.comment?.isSome = true := by
  cases BodyPlace.leads_of_step leads with
  | opens balance opened left => rfl
  | waits balance unopened unended => cases inside
  | comment balance reads => rfl
  | code balance reads left => rfl

theorem run_nested {state : BodyState AggregateMember} {place : BodyPlace} {block : List Line}
    (unclosed : state.place.Unclosed) (inside : state.place.comment?.isSome = true)
    (crossed : state.place.throughNested (block.map Line.text) = some place) :
    ∃ next, next.place = place ∧ next.place.Unclosed ∧ next.members = state.members ∧
      ∀ rest, aggregateRules.run state (block ++ rest) = aggregateRules.run next rest := by
  induction block generalizing state with
  | nil => exact ⟨state, Option.some.inj crossed, unclosed, rfl, fun rest => rfl⟩
  | cons line block ih =>
      obtain ⟨between, first, further⟩ := Option.bind_eq_some_iff.mp crossed
      split_ifs at further with deep
      obtain ⟨behind, turn, stands, members⟩ := aggregateRules_moves.goes unclosed first
      rw [recorded_nested inside first deep.1 deep.2, List.append_nil] at members
      rw [← stands] at first further
      obtain ⟨next, reached, sound, kept, same⟩ :=
        ih (unclosed.step first) (inside_step inside first) further
      refine ⟨next, reached, sound, kept.trans members, ?_⟩
      intro rest
      rw [List.cons_append, BodyRules.run_cons, turn]
      exact same rest

/-! ### Walks that differ in comments and numbers -/

/-- Walks at the same place with the same members up to comments and numbers. -/
structure BodyState.Alike (left right : BodyState AggregateMember) : Prop where
  place : left.place = right.place
  members : left.members.map AggregateMember.outline = right.members.map AggregateMember.outline

variable {left right : BodyState AggregateMember}

theorem outline_recorded {line other : Line} (place : left.place = right.place)
    (same : line.text = other.text) :
    (aggregateRules.recorded left line).map AggregateMember.outline =
      (aggregateRules.recorded right other).map AggregateMember.outline := by
  cases left with
  | pending balance =>
      cases right with
      | pending another =>
          cases place
          simp only [BodyRules.recorded, aggregateRules, pendingAggregateTurn, same]
          split
          · split
            · exact (outline_inlineMembers _ _).trans (outline_inlineMembers _ _).symm
            · exact (outline_inlineMembers _ _).trans (outline_inlineMembers _ _).symm
          · split <;> rfl
      | inside another reader members => cases place
  | inside balance reader members =>
      cases right with
      | pending another => cases place
      | inside another second others =>
          have readers : reader.place = second.place := Option.some.inj (congrArg BodyPlace.comment? place)
          have balances : balance = another := congrArg BodyPlace.balance place
          simp only [BodyRules.recorded, readers, same, balances]
          split
          · rfl
          · exact outline_insideAggregate another reader.register second.register same

theorem BodyState.Alike.step (alike : left.Alike right) (unclosed : left.place.Unclosed) {line other : Line}
    (same : line.text = other.text) :
    (aggregateRules.step left line).place? = (aggregateRules.step right other).place? ∧
      (aggregateRules.step left line).members.map AggregateMember.outline =
        (aggregateRules.step right other).members.map AggregateMember.outline := by
  constructor
  · rw [aggregateRules_moves.place?_step unclosed, aggregateRules_moves.place?_step (alike.place ▸ unclosed),
      alike.place, same]
  · rw [aggregateRules.members_step_eq, aggregateRules.members_step_eq, List.map_append, List.map_append,
      alike.members, outline_recorded alike.place same]

theorem BodyState.Alike.run (alike : left.Alike right) (unclosed : left.place.Unclosed)
    {lines others : List Line} (same : lines.map Line.text = others.map Line.text) :
    (aggregateRules.run left lines).1.map AggregateMember.outline =
      (aggregateRules.run right others).1.map AggregateMember.outline := by
  induction lines generalizing left right others with
  | nil =>
      cases others with
      | nil => exact alike.members
      | cons other more => cases same
  | cons line rest ih =>
      cases others with
      | nil => cases same
      | cons other more =>
          obtain ⟨here, further⟩ := List.cons.inj same
          obtain ⟨places, members⟩ := alike.step unclosed here
          have turn := aggregateRules_moves.place?_step unclosed line
          rw [BodyRules.run_cons, BodyRules.run_cons]
          cases first : aggregateRules.step left line with
          | ends recorded =>
              cases second : aggregateRules.step right other with
              | ends _ =>
                  rw [first, second] at members
                  exact members
              | goes _ =>
                  rw [first, second] at places
                  cases places
          | goes next =>
              cases second : aggregateRules.step right other with
              | ends _ =>
                  rw [first, second] at places
                  cases places
              | goes another =>
                  rw [first, second] at places members
                  rw [first] at turn
                  exact ih ⟨Option.some.inj places, members⟩ (unclosed.step turn.symm) further

/-! ### What remains -/

def BodyPlace.taken (place : BodyPlace) : List Text → Nat
  | [] => 0
  | line :: rest =>
      match place.step line with
      | some next => next.taken rest + 1
      | none => 1

theorem BodyPlace.taken_le_length (place : BodyPlace) (lines : List Text) :
    place.taken lines ≤ lines.length := by
  induction lines generalizing place with
  | nil => exact Nat.le_refl 0
  | cons line rest ih =>
      rw [taken, List.length_cons]
      cases place.step line with
      | some next => exact Nat.succ_le_succ (ih next)
      | none => exact Nat.succ_le_succ (Nat.zero_le _)

theorem BodyPlace.behind_eq_drop (place : BodyPlace) (lines : List Line) :
    place.behind lines = lines.drop (place.taken (lines.map Line.text)) := by
  induction lines generalizing place with
  | nil => rfl
  | cons line rest ih =>
      rw [behind, List.map_cons, taken]
      cases place.step line.text with
      | some next => exact ih next
      | none => rfl

theorem drop_numberedLines (count number : Nat) (texts : List Text) :
    (numberedLines number texts).drop count = numberedLines (number + count) (texts.drop count) := by
  induction count generalizing number texts with
  | zero => rfl
  | succ count ih =>
      cases texts with
      | nil => rfl
      | cons text rest => rw [numberedLines, List.drop_succ_cons, ih, List.drop_succ_cons, Nat.add_right_comm,
          Nat.add_assoc]

theorem linesFrom_append (front rest : List Text) :
    linesFrom (front ++ rest) front.length = numberedLines (front.length + 1) rest := by
  unfold linesFrom
  rw [List.drop_left]

theorem run_linesFrom {state : BodyState AggregateMember} (unclosed : state.place.Unclosed)
    (front rest : List Text) :
    (aggregateRules.run state (linesFrom (front ++ rest) front.length)).2 =
      linesFrom (front ++ rest) (front.length + state.place.taken (rest.map Text.trim)) := by
  rw [aggregateRules_moves.run _ unclosed fun _ _ _ => trivial, BodyPlace.behind_eq_drop, linesFrom_append,
    texts_numberedLines, drop_numberedLines]
  unfold linesFrom
  rw [List.drop_length_add_append, Nat.add_right_comm]

/-! ### Exchanged blocks -/

theorem outline_scanAggregate (kind : AggregateKind) (name : Text) (comments : List Text) {first : Line}
    {rest others : List Line}
    (members : (aggregateRules.run (.pending 0) (first :: rest)).1.map AggregateMember.outline =
      (aggregateRules.run (.pending 0) (first :: others)).1.map AggregateMember.outline) :
    (scanAggregate kind name comments first rest).1.map AggregateDoc.outline =
      (scanAggregate kind name comments first others).1.map AggregateDoc.outline := by
  rw [run_pendingAggregate, run_pendingAggregate] at members
  unfold scanAggregate aggregateBody
  dsimp only
  split_ifs
  · rfl
  · simp only [Option.map_some, AggregateDoc.outline, outline_filterMap outline_method?,
      outline_filterMap outline_field?, members]

/-- Behind a nested block a walk has the members that it had in front of it. -/
theorem run_across (before : List Text) {header : Text} {front middle : List Text} {place after : BodyPlace}
    (inside : place.comment?.isSome = true)
    (arrives : BodyPlace.start.through ((header :: front).map Text.trim) = some place)
    (crossed : place.throughNested (middle.map Text.trim) = some after) :
    ∃ next, next.place = after ∧ next.place.Unclosed ∧
      next.members = (aggregateRules.run (.pending 0) (numberedLines (before.length + 1) (header :: front))).1 ∧
      ∀ behind,
        let lines := before ++ header :: front ++ middle ++ behind
        aggregateRules.run (.pending 0)
            (⟨before.length + 1, Text.trim header⟩ :: linesFrom lines (before.length + 1)) =
          aggregateRules.run next (linesFrom lines (before ++ header :: front ++ middle).length) := by
  have unclosed : (BodyState.pending 0 : BodyState AggregateMember).place.Unclosed := BodyPlace.unclosed_start
  rw [← texts_numberedLines (before.length + 1)] at arrives
  obtain ⟨arrived, rfl, sound, leads⟩ := aggregateRules_moves.run_through unclosed arrives
  rw [← texts_numberedLines (before.length + 1 + (header :: front).length)] at crossed
  obtain ⟨next, reaches, still, members, further⟩ := run_nested sound inside crossed
  have ends := leads []
  rw [List.append_nil] at ends
  refine ⟨next, reaches, still, members.trans (congrArg Prod.fst ends).symm, ?_⟩
  intro behind lines
  have opening : ⟨before.length + 1, Text.trim header⟩ :: linesFrom lines (before.length + 1) =
      numberedLines (before.length + 1) (header :: front ++ (middle ++ behind)) := by
    have split : lines = (before ++ [header]) ++ (front ++ (middle ++ behind)) := by
      simp only [lines, List.append_assoc, List.cons_append, List.nil_append]
    have position : before.length + 1 = (before ++ [header]).length := by
      rw [List.length_append, List.length_singleton]
    rw [split, position, linesFrom_append, ← position]
    rfl
  have number : before.length + 1 + (header :: front).length + middle.length =
      (before ++ header :: front ++ middle).length + 1 := by
    simp only [List.length_append]
    omega
  rw [opening, numberedLines_append, numberedLines_append, leads, further, number, ← linesFrom_append]

/-- A block of nested lines may be exchanged for another one that leads to the same place. The members stay as
they are, up to comments and numbers, and the container ends as many lines later as the block is longer. -/
theorem nested_block_exchanged (kind : AggregateKind) (name : Text) (comments before : List Text)
    (header : Text) (front block other behind : List Text) {balance after : Int} {last : CommentPlace}
    (arrives : BodyPlace.start.through ((header :: front).map Text.trim) = some ⟨balance, some .between⟩)
    (crossed : BodyPlace.throughNested ⟨balance, some .between⟩ (block.map Text.trim) =
      some ⟨after, some last⟩)
    (closed : last = .between ∨ behind = [])
    (exchanged : BodyPlace.throughNested ⟨balance, some .between⟩ (other.map Text.trim) =
      some ⟨after, some .between⟩) :
    let source (middle : List Text) := before ++ header :: front ++ middle ++ behind
    let scan (middle : List Text) := scanAggregate kind name comments
      ⟨before.length + 1, Text.trim header⟩ (linesFrom (source middle) (before.length + 1))
    let place := before.length + 1 + front.length
    (scan other).1.map AggregateDoc.outline = (scan block).1.map AggregateDoc.outline ∧
      ∃ further ≤ behind.length,
        (scan block).2 = linesFrom (source block) (place + block.length + further) ∧
        (scan other).2 = linesFrom (source other) (place + other.length + further) := by
  intro source scan place
  obtain ⟨left, leftPlace, leftUnclosed, leftMembers, leftRuns⟩ := run_across before rfl arrives crossed
  obtain ⟨right, rightPlace, rightUnclosed, rightMembers, rightRuns⟩ := run_across before rfl arrives exchanged
  have recorded : right.members = left.members := rightMembers.trans leftMembers.symm
  have position (middle : List Text) :
      (before ++ header :: front ++ middle).length = place + middle.length := by
    simp only [place, List.length_append, List.length_cons]
    omega
  constructor
  · apply outline_scanAggregate
    rw [leftRuns, rightRuns, linesFrom_append, linesFrom_append]
    rcases closed with between | atEnd
    · subst between
      have alike : right.Alike left := ⟨rightPlace.trans leftPlace.symm, by rw [recorded]⟩
      apply alike.run rightUnclosed
      rw [texts_numberedLines, texts_numberedLines]
    · subst atEnd
      exact congrArg (List.map AggregateMember.outline) recorded
  · have taken : left.place.taken (behind.map Text.trim) = right.place.taken (behind.map Text.trim) := by
      rcases closed with between | atEnd
      · rw [leftPlace, rightPlace, between]
      · rw [atEnd]
        rfl
    refine ⟨left.place.taken (behind.map Text.trim), ?_, ?_, ?_⟩
    · exact (BodyPlace.taken_le_length _ _).trans_eq (List.length_map _)
    · rw [snd_scanAggregate, leftRuns, run_linesFrom leftUnclosed, position]
    · rw [snd_scanAggregate, rightRuns, run_linesFrom rightUnclosed, position, taken]

/-- A comment with a closing brace may take the place of a block in the body of a method. -/
theorem nested_block_exchanged_comment :
    let header := "class A".toList
    let front := ["\x7b", "void f()", "\x7b"].map String.toList
    let block := ["if (x) \x7b", "int y;", "\x7d"].map String.toList
    let other := ["/** a", "\x7d b */"].map String.toList
    let behind := ["\x7d", "int z;", "\x7d", "int w;"].map String.toList
    let source (middle : List Text) := [] ++ header :: front ++ middle ++ behind
    let scan (middle : List Text) :=
      scanAggregate .classType "A".toList [] ⟨1, header⟩ (linesFrom (source middle) 1)
    BodyPlace.start.through ((header :: front).map Text.trim) = some ⟨2, some .between⟩ ∧
      BodyPlace.throughNested ⟨2, some .between⟩ (block.map Text.trim) = some ⟨2, some .between⟩ ∧
      BodyPlace.throughNested ⟨2, some .between⟩ (other.map Text.trim) = some ⟨2, some .between⟩ ∧
      (scan other).1.map AggregateDoc.outline = (scan block).1.map AggregateDoc.outline ∧
      ∃ further ≤ 4, (scan block).2 = linesFrom (source block) (4 + 3 + further) ∧
        (scan other).2 = linesFrom (source other) (4 + 2 + further) := by
  intro header front block other behind source scan
  have arrives : BodyPlace.start.through ((header :: front).map Text.trim) = some ⟨2, some .between⟩ := by
    decide +kernel
  have crossed : BodyPlace.throughNested ⟨2, some .between⟩ (block.map Text.trim) =
      some ⟨2, some .between⟩ := by decide +kernel
  have exchanged : BodyPlace.throughNested ⟨2, some .between⟩ (other.map Text.trim) =
      some ⟨2, some .between⟩ := by decide +kernel
  exact ⟨arrives, crossed, exchanged,
    nested_block_exchanged .classType "A".toList [] [] header front block other behind arrives crossed (.inl rfl)
      exchanged⟩

end DocSite
