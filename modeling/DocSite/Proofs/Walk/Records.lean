/-
What a line records.

A line of code records only what stands on it: a function is read from an accepted statement of the line, a field
is such a statement with its semicolon, an enum member is split off a piece of the line, and all of them carry the
number of the line. Their comments hold paragraphs that were waiting or that trail on the line. The walks over
aggregates and enums share the step lemma, which knows their rules only by what these add.
-/
import DocSite.Proofs.Comment.AggregateVisits
import DocSite.Proofs.Comment.EnumVisits
import DocSite.Proofs.Comment.Paragraphs
import DocSite.Proofs.Signature.Parts
import DocSite.Proofs.Walk.Growth

namespace DocSite

/-! ### What stands on a line -/

/-- A statement is a piece of a line, or such a piece with a semicolon put behind it. -/
def Line.HasStatement (line : Line) (statement : Text) : Prop :=
  ∃ piece, piece <:+: line.text ∧ (statement = piece ∨ statement = piece ++ [';'])

def FunctionDoc.DeclaredOn (line : Line) (declared : FunctionDoc) : Prop :=
  ∃ statement, line.HasStatement statement ∧ isFunction statement = true ∧
    parseFunction? statement declared.comments line.number = some declared

structure FieldDoc.DeclaredOn (line : Line) (declared : FieldDoc) : Prop where
  number : declared.line = line.number
  statement : ∃ piece, piece <:+: line.text ∧ declared.declaration = piece ++ [';']

structure EnumMemberDoc.DeclaredOn (line : Line) (declared : EnumMemberDoc) : Prop where
  number : declared.line = line.number
  name : declared.name <:+: line.text
  value : declared.value <:+: line.text

def AggregateMember.DeclaredOn (line : Line) : AggregateMember → Prop
  | .method declared => declared.DeclaredOn line
  | .field declared => declared.DeclaredOn line

theorem FunctionDoc.DeclaredOn.number {line : Line} {declared : FunctionDoc}
    (on : declared.DeclaredOn line) : declared.line = line.number := by
  obtain ⟨statement, _, _, parsed⟩ := on
  exact (parsed_of_parseSignature? parsed).1

theorem FunctionDoc.DeclaredOn.quotedFrom {line : Line} {declared : FunctionDoc}
    (on : declared.DeclaredOn line) : declared.QuotedFrom line.text := by
  obtain ⟨statement, ⟨piece, inside, written⟩, _, parsed⟩ := on
  obtain ⟨_, before, after, parameters, parts⟩ := parsed_of_parseSignature? parsed
  have within : codeOf (Text.trim statement) <:+: piece ++ [';'] := by
    apply (codeOf_trim_isInfix statement).trans
    rcases written with rfl | rfl
    · exact List.infix_append_left
    · exact List.infix_rfl
  exact (parts.quotedFrom within).mono inside

/-! ### Members of aggregates -/

theorem AggregateMember.mem_of_mem_methods {members : List AggregateMember} {declared : FunctionDoc}
    (listed : declared ∈ members.filterMap AggregateMember.method?) : .method declared ∈ members := by
  obtain ⟨member, recorded, read⟩ := List.mem_filterMap.mp listed
  cases member with
  | method found =>
      cases read
      exact recorded
  | field found => cases read

theorem AggregateMember.mem_of_mem_fields {members : List AggregateMember} {declared : FieldDoc}
    (listed : declared ∈ members.filterMap AggregateMember.field?) : .field declared ∈ members := by
  obtain ⟨member, recorded, read⟩ := List.mem_filterMap.mp listed
  cases member with
  | method found => cases read
  | field found =>
      cases read
      exact recorded

theorem declaredOn_of_functionOfStatement? {line : Line} {statement : Text} {declared : FunctionDoc}
    (stands : line.HasStatement statement)
    (found : functionOfStatement? statement line.number = some declared) :
    declared.DeclaredOn line := by
  unfold functionOfStatement? at found
  split at found
  · rename_i accepted
    refine ⟨statement, stands, accepted, ?_⟩
    rw [comments_of_parseFunction? found]
    exact found
  · cases found

theorem declaredOn_memberOfStatement {line : Line} {piece : Text} (inside : piece <:+: line.text) :
    (memberOfStatement line.number (piece ++ [';'])).DeclaredOn line := by
  unfold memberOfStatement
  split
  · rename_i declared found
    exact declaredOn_of_functionOfStatement? ⟨piece, inside, .inr rfl⟩ found
  · exact ⟨rfl, piece, inside, rfl⟩

theorem declaredOn_of_mem_inlineMembers {line : Line} {segment : Text} {member : AggregateMember}
    (inside : segment <:+: line.text) (recorded : member ∈ inlineMembers segment line.number) :
    member.DeclaredOn line := by
  have piece {text : Text} (listed : text ∈ splitTopLevelAt ';' segment) : text <:+: line.text :=
    (Text.infix_of_mem_splitTopLevelAt listed).trans inside
  unfold inlineMembers at recorded
  rcases List.mem_append.mp recorded with terminated | unterminated
  · obtain ⟨text, listed, equal⟩ := List.mem_map.mp terminated
    rw [← equal]
    have among := (List.dropLast_prefix _).mem (List.mem_filter.mp listed).1
    exact declaredOn_memberOfStatement (piece among)
  · obtain ⟨declared, found, equal⟩ := Option.map_eq_some_iff.mp (Option.mem_toList.mp unterminated)
    rw [← equal]
    cases last : (splitTopLevelAt ';' segment).getLast? with
    | none =>
        rw [last] at found
        cases found
    | some text =>
        rw [last] at found
        dsimp only [Option.getD_some] at found
        split at found
        · cases found
        · have listed := piece (List.mem_of_getLast? last)
          exact declaredOn_of_functionOfStatement? ⟨text, listed, .inl rfl⟩ found

theorem declaredOn_of_mem_memberOfLine {before balance : Int} {register : CommentRegister} {line : Line}
    {trailing : Text} {member : AggregateMember}
    (recorded : member ∈
      (memberOfLine before balance register (codeOf line.text) trailing line.number).1) :
    member.DeclaredOn line := by
  have inside : codeOf line.text <:+: line.text := codeOf_isInfix line.text
  unfold memberOfLine at recorded
  split_ifs at recorded with filler header signature atDepth declares
  · cases recorded
  · cases recorded
  · obtain ⟨declared, parsed, equal⟩ := Option.map_eq_some_iff.mp (Option.mem_toList.mp recorded)
    rw [← equal]
    refine ⟨codeOf line.text, ⟨codeOf line.text, inside, .inl rfl⟩, signature, ?_⟩
    rw [comments_of_parseFunction? parsed]
    exact parsed
  · cases recorded
  · rw [List.mem_singleton.mp recorded]
    -- The semicolon is the last character of the code.
    obtain ⟨front, split⟩ := List.getLast?_eq_some_iff.mp (beq_iff_eq.mp declares.2)
    refine ⟨rfl, front, ?_, split⟩
    rw [split] at inside
    exact List.infix_append_left.trans inside
  · cases recorded

/-! ### Members of enums -/

theorem splitEnumMember_pieces (piece : Text) :
    (splitEnumMember piece).1 <:+: piece ∧ (splitEnumMember piece).2 <:+: piece := by
  unfold splitEnumMember
  split
  · exact ⟨List.nil_infix, List.nil_infix⟩
  · rename_i name split
    have listed : name ∈ splitTopLevelAt '=' piece := by
      rw [split]
      exact List.mem_cons_self
    exact ⟨Text.infix_of_mem_splitTopLevelAt listed, List.nil_infix⟩
  · rename_i name rest _ split
    have listed : name ∈ splitTopLevelAt '=' piece := by
      rw [split]
      exact List.mem_cons_self
    refine ⟨Text.infix_of_mem_splitTopLevelAt listed, (Text.trim_isInfix _).trans ?_⟩
    cases cut : Text.cutAt? '=' piece with
    | none => exact List.infix_rfl
    | some parts => exact Text.snd_infix_of_cutAt? cut

theorem declaredOn_of_mem_attachMembers {line : Line} {segment trailing : Text}
    {register : CommentRegister} {member : EnumMemberDoc} (inside : segment <:+: line.text)
    (recorded : member ∈ (attachMembers segment line.number register trailing).1) :
    member.DeclaredOn line := by
  unfold attachMembers parseEnumMembers at recorded
  obtain ⟨piece, listed, found⟩ := List.mem_filterMap.mp recorded
  have within := (Text.infix_of_mem_splitTopLevelAt listed).trans inside
  unfold enumMember? at found
  dsimp only at found
  split at found
  · cases found
  · cases found
    exact ⟨rfl, (splitEnumMember_pieces piece).1.trans within,
      (splitEnumMember_pieces piece).2.trans within⟩

/-! ### Rules of bodies -/

section Rules

variable {Member : Type} {allowed : Text → Prop} {kept : Member → Prop}

/-- What a walk over a body holds: allowed paragraphs, and members that are kept. -/
def BodyState.Holds (allowed : Text → Prop) (kept : Member → Prop) : BodyState Member → Prop
  | .pending _ => True
  | .inside _ reader members => reader.Within allowed ∧ ∀ member ∈ members, kept member

def BodyTurn.Holds (allowed : Text → Prop) (kept : Member → Prop) : BodyTurn Member → Prop
  | .goes state => state.Holds allowed kept
  | .ends members => ∀ member ∈ members, kept member

theorem BodyState.Holds.members {state : BodyState Member} (holds : state.Holds allowed kept) :
    ∀ member ∈ state.members, kept member := by
  cases state with
  | pending balance => exact nofun
  | inside balance reader members => exact holds.2

theorem BodyTurn.Holds.members {turn : BodyTurn Member} (holds : turn.Holds allowed kept) :
    ∀ member ∈ turn.members, kept member := by
  cases turn with
  | goes state => exact BodyState.Holds.members holds
  | ends members => exact holds

theorem BodyTurn.Holds.mono {turn : BodyTurn Member} {more : Member → Prop}
    (holds : turn.Holds allowed kept) (weaker : ∀ member, kept member → more member) :
    turn.Holds allowed more := by
  cases turn with
  | goes state =>
      cases state with
      | pending balance => exact trivial
      | inside balance reader members =>
          exact ⟨holds.1, fun member listed => weaker member (holds.2 member listed)⟩
  | ends members => exact fun member listed => weaker member (holds member listed)

theorem BodyState.Holds.mono {state : BodyState Member} {wider : Text → Prop} {more : Member → Prop}
    (holds : state.Holds allowed kept) (paragraphs : ∀ paragraph, allowed paragraph → wider paragraph)
    (members : ∀ member, kept member → more member) : state.Holds wider more := by
  cases state with
  | pending balance => exact trivial
  | inside balance reader recorded =>
      exact ⟨holds.1.mono paragraphs, fun member listed => members member (holds.2 member listed)⟩

/-- What lines of code add to a body. `adds allowed line` holds of the members that a line may record when its
paragraphs and those that wait are allowed. -/
structure BodyRules.Records (rules : BodyRules Member)
    (adds : (Text → Prop) → Line → Member → Prop) : Prop where
  header : ∀ {allowed line}, line.text.Offers allowed →
    (rules.header line).Holds allowed (adds allowed line)
  pending : ∀ {allowed line} balance, line.text.Offers allowed →
    (rules.pending balance line).Holds allowed (adds allowed line)
  inside : ∀ {allowed line register} balance, line.text.Offers allowed → register.Within allowed →
    (∀ member ∈ (rules.inside balance register line).1, adds allowed line member) ∧
      ∀ after next, (rules.inside balance register line).2 = some (after, next) → next.Within allowed

variable {rules : BodyRules Member} {adds : (Text → Prop) → Line → Member → Prop}

/-- One more line keeps what a walk holds, if what the line adds is kept. -/
theorem BodyRules.Records.step (records : rules.Records adds) {state : BodyState Member} {line : Line}
    (holds : state.Holds allowed kept) (offers : line.text.Offers allowed)
    (keeps : ∀ member, adds allowed line member → kept member) :
    (rules.step state line).Holds allowed kept := by
  cases state with
  | pending balance => exact (records.pending balance offers).mono keeps
  | inside balance reader members =>
      simp only [BodyRules.step]
      cases reads : reader.read? line.text with
      | some next => exact ⟨holds.1.read? offers reads, holds.2⟩
      | none =>
          obtain ⟨added, behind⟩ := records.inside balance offers holds.1.register
          have all : ∀ member ∈ members ++ (rules.inside balance reader.register line).1,
              kept member := by
            intro member listed
            rcases List.mem_append.mp listed with old | new
            · exact holds.2 member old
            · exact keeps member (added member new)
          simp only [BodyRules.stepInside]
          rcases found : rules.inside balance reader.register line with ⟨more, _ | ⟨after, next⟩⟩
          · rw [found] at all
            exact all
          · rw [found] at all behind
            exact ⟨behind after next rfl, all⟩

/-- One more line leaves the members in place and adds what it records behind them. -/
theorem BodyRules.Records.members_step (records : rules.Records adds) (state : BodyState Member)
    (line : Line) :
    ∃ added, (rules.step state line).members = state.members ++ added ∧
      ∀ member ∈ added, adds (fun _ => True) line member := by
  have offers := line.text.offers_anything
  cases state with
  | pending balance => exact ⟨_, rfl, (records.pending balance offers).members⟩
  | inside balance reader members =>
      simp only [BodyRules.step]
      cases reader.read? line.text with
      | some next => exact ⟨[], (List.append_nil members).symm, List.forall_mem_nil _⟩
      | none =>
          have added := (records.inside balance offers reader.register.within_anything).1
          refine ⟨(rules.inside balance reader.register line).1, ?_, added⟩
          simp only [BodyRules.stepInside]
          rcases rules.inside balance reader.register line with ⟨more, _ | ⟨after, next⟩⟩ <;> rfl

end Rules

structure AggregateMember.AddedBy (allowed : Text → Prop) (line : Line) (member : AggregateMember) :
    Prop where
  declared : member.DeclaredOn line
  comments : ∀ paragraph ∈ member.comments, allowed paragraph

structure EnumMemberDoc.AddedBy (allowed : Text → Prop) (line : Line) (member : EnumMemberDoc) :
    Prop where
  declared : member.DeclaredOn line
  comments : ∀ paragraph ∈ member.comments, allowed paragraph

section Bodies

variable {allowed : Text → Prop} {line : Line}

theorem addedBy_of_mem_inlineMembers {opensHere closesHere : Bool} {member : AggregateMember}
    (recorded : member ∈
      inlineMembers (bodySegment (codeOf line.text) opensHere closesHere) line.number) :
    member.AddedBy allowed line := by
  have inside := (bodySegment_isInfix (codeOf line.text) opensHere closesHere).trans (codeOf_isInfix _)
  refine ⟨declaredOn_of_mem_inlineMembers inside recorded, ?_⟩
  rw [comments_of_inlineMembers recorded]
  exact nofun

theorem records_pendingAggregateTurn (balance : Int) :
    (pendingAggregateTurn balance line).Holds allowed (AggregateMember.AddedBy allowed line) := by
  unfold pendingAggregateTurn
  dsimp only
  split_ifs
  · exact fun member recorded => addedBy_of_mem_inlineMembers recorded
  · exact ⟨CommentRegister.within_empty, fun member recorded => addedBy_of_mem_inlineMembers recorded⟩
  · exact nofun
  · exact trivial

theorem memberOfLine_adds {before balance : Int} {register : CommentRegister}
    (offers : line.text.Offers allowed) (within : register.Within allowed) :
    let told := memberOfLine before balance register (codeOf line.text)
      (splitLineComment line.text).2 line.number
    (∀ member ∈ told.1, member.AddedBy allowed line) ∧ told.2.Within allowed := by
  obtain ⟨taken, behind⟩ := within.attachWith (offers.mono (trailing_isInfix line.text))
  have handed {member : AggregateMember} (recorded : member ∈ (memberOfLine before balance register
      (codeOf line.text) (splitLineComment line.text).2 line.number).1) :
      member.comments = (register.attachWith (splitLineComment line.text).2).1 := by
    rw [CommentRegister.attachWith_eq_handTo]
    exact ((memberOfLine_told before balance register line).2 member recorded).2.2
  refine ⟨?_, ?_⟩
  · intro member recorded
    refine ⟨declaredOn_of_mem_memberOfLine recorded, ?_⟩
    rw [handed recorded]
    exact taken
  · unfold memberOfLine
    split_ifs
    · exact within
    · exact CommentRegister.within_empty
    · exact behind
    · exact within.discard
    · exact behind
    · exact within.discard

theorem aggregateRules_records : aggregateRules.Records AggregateMember.AddedBy where
  header := fun _ => records_pendingAggregateTurn 0
  pending := fun balance _ => records_pendingAggregateTurn balance
  inside := by
    intro allowed line register balance offers within
    obtain ⟨added, behind⟩ := memberOfLine_adds offers within
    simp only [aggregateRules, insideAggregate]
    split_ifs
    · refine ⟨fun member recorded => addedBy_of_mem_inlineMembers recorded, ?_⟩
      intro after next ended
      cases ended
    · refine ⟨List.forall_mem_nil _, ?_⟩
      intro after next ended
      cases ended
    · refine ⟨added, ?_⟩
      intro after next equal
      cases equal
      exact behind

theorem attachMembers_adds {register : CommentRegister} {opensHere closesHere : Bool}
    (offers : line.text.Offers allowed) (within : register.Within allowed) :
    let told := attachMembers (bodySegment (codeOf line.text) opensHere closesHere) line.number register
      (splitLineComment line.text).2
    (∀ member ∈ told.1, member.AddedBy allowed line) ∧ told.2.Within allowed := by
  obtain ⟨taken, behind⟩ := within.attachWith (offers.mono (trailing_isInfix line.text))
  have inside := (bodySegment_isInfix (codeOf line.text) opensHere closesHere).trans (codeOf_isInfix _)
  refine ⟨?_, behind⟩
  intro member recorded
  refine ⟨declaredOn_of_mem_attachMembers inside recorded, ?_⟩
  rw [comments_of_attachMembers recorded]
  exact taken

theorem membersOfLine_adds {before : Int} {closed opensHere : Bool} {register : CommentRegister}
    (offers : line.text.Offers allowed) (within : register.Within allowed) :
    let told := membersOfLine before closed register (codeOf line.text)
      (splitLineComment line.text).2 line.number opensHere
    (∀ member ∈ told.1, member.AddedBy allowed line) ∧ told.2.Within allowed := by
  unfold membersOfLine
  dsimp only
  by_cases deeper : before > 1 ∧ (!closed) = true
  · rw [if_pos deeper]
    exact ⟨nofun, within⟩
  rw [if_neg deeper]
  by_cases idle : isIdleSegment (bodySegment (codeOf line.text) opensHere closed) = true
  · rw [if_pos idle]
    exact ⟨nofun, within⟩
  · rw [if_neg idle]
    exact attachMembers_adds offers within

theorem records_enumTurn {balance : Int} {closed : Bool}
    {found : List EnumMemberDoc × CommentRegister}
    (told : (∀ member ∈ found.1, member.AddedBy allowed line) ∧ found.2.Within allowed) :
    (enumTurn balance closed found).Holds allowed (EnumMemberDoc.AddedBy allowed line) := by
  cases closed with
  | true => exact told.1
  | false => exact ⟨told.2, told.1⟩

theorem enumRules_records : enumRules.Records EnumMemberDoc.AddedBy where
  header := by
    intro allowed line offers
    simp only [enumRules, enumHeaderTurn]
    split
    · apply records_enumTurn
      split
      · exact ⟨List.forall_mem_nil _, CommentRegister.within_empty⟩
      · exact attachMembers_adds offers CommentRegister.within_empty
    · split
      · exact List.forall_mem_nil _
      · exact trivial
  pending := by
    intro allowed line balance offers
    simp only [enumRules, pendingEnumTurn]
    split
    · exact records_enumTurn (membersOfLine_adds offers CommentRegister.within_empty)
    · split
      · exact List.forall_mem_nil _
      · exact trivial
  inside := by
    intro allowed line register balance offers within
    obtain ⟨added, behind⟩ := membersOfLine_adds offers within
    refine ⟨added, ?_⟩
    intro after next equal
    simp only [enumRules, insideEnum] at equal
    split at equal
    · cases equal
    · cases equal
      exact behind

end Bodies

/-! ### Lines at module scope -/

def ModuleEntry.AddedBy (allowed : Text → Prop) (line : Line) : ModuleEntry → Prop
  | .moduleName name comments =>
      moduleName? (codeOf line.text) = some name ∧ ∀ paragraph ∈ comments, allowed paragraph
  | .importLine declaration => declaration = codeOf line.text
  | .function declared =>
      declared.DeclaredOn line ∧ ∀ paragraph ∈ declared.comments, allowed paragraph
  | .aggregate _ => False
  | .enum _ => False

/-- A line that opens no container records at most one entry. -/
theorem length_lineRecord_le (register : CommentRegister) (code trailing : Text) (number : Nat) :
    (lineRecord register code trailing number).1.length ≤ 1 := by
  unfold lineRecord
  dsimp only
  by_cases filler : isFiller code = true
  · rw [if_pos filler]
    exact Nat.zero_le 1
  rw [if_neg filler]
  cases moduleName? code with
  | some name => exact Nat.le_refl 1
  | none =>
      dsimp only
      split_ifs
      · exact Nat.le_refl 1
      · exact Nat.zero_le 1
      · cases parseFunction? code _ number with
        | none => exact Nat.zero_le 1
        | some declared => exact Nat.le_refl 1
      · exact Nat.zero_le 1

theorem lineRecord_adds {allowed : Text → Prop} {line : Line} {register : CommentRegister}
    (offers : line.text.Offers allowed) (within : register.Within allowed) :
    let told := lineRecord register (codeOf line.text) (splitLineComment line.text).2 line.number
    (∀ entry ∈ told.1, entry.AddedBy allowed line) ∧ told.2.Within allowed := by
  obtain ⟨taken, behind⟩ := within.attachWith (offers.mono (trailing_isInfix line.text))
  unfold lineRecord
  dsimp only
  by_cases filler : isFiller (codeOf line.text) = true
  · rw [if_pos filler]
    exact ⟨nofun, within⟩
  rw [if_neg filler]
  cases named : moduleName? (codeOf line.text) with
  | some name =>
      refine ⟨?_, behind⟩
      intro entry recorded
      rw [List.mem_singleton.mp recorded]
      exact ⟨named, taken⟩
  | none =>
      dsimp only
      split_ifs with imports skipped signature
      · refine ⟨?_, within.discard⟩
        intro entry recorded
        rw [List.mem_singleton.mp recorded]
        rfl
      · exact ⟨nofun, within.discard⟩
      · refine ⟨?_, behind⟩
        intro entry recorded
        obtain ⟨declared, parsed, equal⟩ := Option.map_eq_some_iff.mp (Option.mem_toList.mp recorded)
        have comments := comments_of_parseFunction? parsed
        rw [← equal]
        refine ⟨⟨codeOf line.text, ⟨_, codeOf_isInfix line.text, .inl rfl⟩, signature, ?_⟩, ?_⟩
        · rw [comments]
          exact parsed
        · rw [comments]
          exact taken
      · exact ⟨nofun, within.discard⟩

end DocSite
