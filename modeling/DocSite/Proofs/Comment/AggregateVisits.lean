/-
The lines that the walk over the body of an aggregate visits.

A method is recorded when its line begins at the body's own depth, and a field when its line ends there. The
line that closes the body is no visit: what it records, like what the opening line records, has no comment.
-/
import DocSite.Proofs.Comment.Visits
import DocSite.Proofs.Walk.Comment

namespace DocSite

/-- What a line of code inside the body of an aggregate means to the comments. `before` is the balance in
front of the line and `after` the one behind it. -/
def aggregateEvent (before after : Int) (line : Line) : CommentEvent :=
  let code := (splitLineComment line.text).1
  if isFiller code then .filler
  else if (matchHeader? code).isSome then .header
  else if isFunction code then if before = 1 then .declares line.trailing? else .code
  else if after = 1 ∧ Text.endsWith ';' code then .declares line.trailing?
  else .code

def openAggregateVisits (balance : Int) (register : CommentRegister) :
    List Line → List (BodyVisit AggregateMember)
  | [] => []
  | line :: rest =>
      match _ : register.consume? line rest with
      | some (next, remaining) =>
          ⟨⟨line, rest, .ofComment line rest, []⟩, balance, balance⟩ ::
            openAggregateVisits balance next remaining
      | none =>
          let (code, trailing) := splitLineComment line.text
          let delta := braceDelta code
          let after := balance + delta
          if closesBody after delta code then []
          else
            let (members, next) := memberOfLine balance after register code trailing line.number
            ⟨⟨line, rest, aggregateEvent balance after line, members⟩, balance, after⟩ ::
              openAggregateVisits after next rest
termination_by lines => lines.length
decreasing_by
  · have shorter := CommentRegister.consume?_length_le (by assumption)
    simp only [List.length_cons]
    omega
  · simp only [List.length_cons]
    omega

def pendingAggregateVisits (balance : Int) : List Line → List (BodyVisit AggregateMember)
  | [] => []
  | line :: rest =>
      let code := codeOf line.text
      let after := balance + braceDelta code
      if opensBrace code then
        if after ≤ 0 then [] else openAggregateVisits after .empty rest
      else if Text.endsWith ';' code then []
      else pendingAggregateVisits after rest

def aggregateVisits (first : Line) (rest : List Line) : List (BodyVisit AggregateMember) :=
  pendingAggregateVisits 0 (first :: rest)

def AggregateMember.comments : AggregateMember → List Text
  | .method declared => declared.comments
  | .field declared => declared.comments

theorem comments_of_parseFunction? {line : Text} {comments : List Text} {number : Int}
    {function : FunctionDoc} (parsed : parseFunction? line comments number = some function) :
    function.comments = comments := by
  unfold parseFunction? parseSignature? at parsed
  split at parsed
  · cases parsed
  · split at parsed
    · cases parsed
    · obtain ⟨named, _, equal⟩ := Option.map_eq_some_iff.mp parsed
      rw [← equal]

theorem comments_of_functionOfStatement? {statement : Text} {number : Int} {function : FunctionDoc}
    (found : functionOfStatement? statement number = some function) : function.comments = [] := by
  unfold functionOfStatement? at found
  split at found
  · exact comments_of_parseFunction? found
  · cases found

/-- Members on the line of a brace have no comment. -/
theorem comments_of_inlineMembers {segment : Text} {number : Int} {member : AggregateMember}
    (recorded : member ∈ inlineMembers segment number) : member.comments = [] := by
  unfold inlineMembers at recorded
  rcases List.mem_append.mp recorded with terminated | unterminated
  · obtain ⟨piece, _, equal⟩ := List.mem_map.mp terminated
    rw [← equal]
    unfold memberOfStatement
    split
    · rename_i function found
      exact comments_of_functionOfStatement? found
    · rfl
  · obtain ⟨function, found, equal⟩ := Option.map_eq_some_iff.mp (Option.mem_toList.mp unterminated)
    rw [← equal]
    split at found
    · cases found
    · exact comments_of_functionOfStatement? found

/-- Where the balance must be at a member: a method begins at the body's own depth, a field ends there. -/
def AggregateMember.FitsAt : AggregateMember → Int → Int → Prop
  | .method _, before, _ => before = 1
  | .field _, _, after => after = 1

/-- What a line of a body does to the comments. -/
theorem memberOfLine_told (before after : Int) (register : CommentRegister) (line : Line) :
    let told := memberOfLine before after register (splitLineComment line.text).1
      (splitLineComment line.text).2 line.number
    told.2 = register.feed (aggregateEvent before after line) ∧
      ∀ member ∈ told.1, member.FitsAt before after ∧
        aggregateEvent before after line = .declares line.trailing? ∧
          member.comments = (register.handTo line.trailing?).1 := by
  unfold memberOfLine aggregateEvent
  dsimp only
  rw [CommentRegister.attachWith_eq_handTo]
  by_cases filler : isFiller (splitLineComment line.text).1 = true
  · rw [if_pos filler, if_pos filler]
    exact ⟨rfl, nofun⟩
  rw [if_neg filler, if_neg filler]
  by_cases header : (matchHeader? (splitLineComment line.text).1).isSome = true
  · rw [if_pos header, if_pos header]
    exact ⟨rfl, nofun⟩
  rw [if_neg header, if_neg header]
  by_cases signature : isFunction (splitLineComment line.text).1 = true
  · rw [if_pos signature, if_pos signature]
    by_cases atDepth : before = 1
    · rw [if_pos atDepth, if_pos atDepth]
      refine ⟨rfl, ?_⟩
      intro member recorded
      obtain ⟨function, parsed, equal⟩ := Option.map_eq_some_iff.mp (Option.mem_toList.mp recorded)
      cases equal
      exact ⟨atDepth, rfl, comments_of_parseFunction? parsed⟩
    · rw [if_neg atDepth, if_neg atDepth]
      exact ⟨rfl, nofun⟩
  rw [if_neg signature, if_neg signature]
  by_cases declares : after = 1 ∧ Text.endsWith ';' (splitLineComment line.text).1
  · rw [if_pos declares, if_pos declares]
    refine ⟨rfl, ?_⟩
    intro member recorded
    cases List.mem_singleton.mp recorded
    exact ⟨declares.1, rfl, rfl⟩
  · rw [if_neg declares, if_neg declares]
    exact ⟨rfl, nofun⟩

/-- Only code at the body's own depth declares, and nothing in a body is inside a value. -/
theorem aggregateEvent_cases (before after : Int) (line : Line) :
    (aggregateEvent before after line = .declares line.trailing? ∧ (before = 1 ∨ after = 1)) ∨
      aggregateEvent before after line = .code ∨ aggregateEvent before after line = .header ∨
        aggregateEvent before after line = .filler := by
  unfold aggregateEvent
  dsimp only
  split
  · exact .inr (.inr (.inr rfl))
  · split
    · exact .inr (.inr (.inl rfl))
    · split
      · split
        · rename_i atDepth
          exact .inl ⟨rfl, .inl atDepth⟩
        · exact .inr (.inl rfl)
      · split
        · rename_i ends
          exact .inl ⟨rfl, .inr ends.1⟩
        · exact .inr (.inl rfl)

theorem aggregateEvent_ne_inValue (before after : Int) (line : Line) :
    aggregateEvent before after line ≠ .inValue := by
  rcases aggregateEvent_cases before after line with declared | code | header | filler
  · rw [declared.1]
    exact nofun
  · rw [code]
    exact nofun
  · rw [header]
    exact nofun
  · rw [filler]
    exact nofun

theorem brings_aggregateEvent (before after : Int) (line : Line) :
    (aggregateEvent before after line).brings = false := by
  rcases aggregateEvent_cases before after line with declared | code | header | filler
  · rw [declared.1]
    rfl
  · rw [code]
    rfl
  · rw [header]
    rfl
  · rw [filler]
    rfl

theorem aggregateEvent_declares {before after : Int} {line : Line} {trailing : Option Text}
    (declares : aggregateEvent before after line = .declares trailing) :
    trailing = line.trailing? ∧ (before = 1 ∨ after = 1) := by
  rcases aggregateEvent_cases before after line with declared | code | header | filler
  · rw [declared.1] at declares
    exact ⟨(CommentEvent.declares.inj declares).symm, declared.2⟩
  · rw [code] at declares
    cases declares
  · rw [header] at declares
    cases declares
  · rw [filler] at declares
    cases declares

theorem isFiller_of_aggregateEvent {before after : Int} {line : Line}
    (filler : aggregateEvent before after line = .filler) : isFiller (codeOf line.text) = true := by
  unfold aggregateEvent at filler
  dsimp only at filler
  split at filler
  · assumption
  · split_ifs at filler

/-- What holds of every visit inside the body of an aggregate. Of the lines that a comment waits over only those
of braces alone move the balance. -/
structure AggregateMember.WellPlaced (visit : BodyVisit AggregateMember) : Prop where
  inside : 1 ≤ visit.before
  plain : visit.event ≠ .inValue
  level : visit.event.keeps = true → visit.after = visit.before ∨ visit.IsBraceLine
  declared : ∀ trailing, visit.event = .declares trailing →
    trailing = visit.line.trailing? ∧ (visit.before = 1 ∨ visit.after = 1)
  recorded : ∀ member ∈ visit.records, member.FitsAt visit.before visit.after

theorem level_of_keeps {balance : Int} {line : Line} {rest : List Line} {members : List AggregateMember}
    (keeps : (aggregateEvent balance (balance + braceDelta (codeOf line.text)) line).keeps = true) :
    let visit : BodyVisit AggregateMember :=
      ⟨⟨line, rest, aggregateEvent balance (balance + braceDelta (codeOf line.text)) line, members⟩, balance,
        balance + braceDelta (codeOf line.text)⟩
    visit.after = visit.before ∨ visit.IsBraceLine := by
  intro visit
  by_cases still : braceDelta (codeOf line.text) = 0
  · exact .inl (by rw [show visit.after = balance + braceDelta (codeOf line.text) from rfl, still, Int.add_zero])
  · have filler : visit.event = .filler := by
      rcases aggregateEvent_cases balance (balance + braceDelta (codeOf line.text)) line with
        declared | code | header | filler
      · rw [declared.1] at keeps
        cases keeps
      · rw [code] at keeps
        cases keeps
      · rw [header] at keeps
        cases keeps
      · exact filler
    exact .inr ⟨filler, isFiller_of_aggregateEvent filler, still⟩

theorem walked_openAggregateVisits {balance : Int} (positive : 1 ≤ balance)
    (register : CommentRegister) (lines : List Line) :
    Walked AggregateMember.comments AggregateMember.WellPlaced balance register
      (openAggregateVisits balance register lines) := by
  induction measured : lines.length using Nat.strongRecOn generalizing balance register lines with
  | ind size ih =>
      subst measured
      cases lines with
      | nil =>
          rw [openAggregateVisits]
          exact .nil balance register
      | cons line rest =>
          rw [openAggregateVisits]
          split
          · rename_i next remaining consumed
            have shorter := CommentRegister.consume?_length_le consumed
            apply Walked.consumed consumed
            · refine ⟨positive, CommentEvent.ofComment_ne_inValue line rest, fun _ => .inl rfl, ?_, nofun⟩
              intro trailing declares
              exact absurd declares (CommentEvent.ofComment_ne_declares line rest trailing)
            · exact ih remaining.length (Nat.lt_succ_of_le shorter) positive next remaining rfl
          · dsimp only
            split
            · exact .nil balance register
            · rename_i further
              obtain ⟨fed, members⟩ := memberOfLine_told balance
                (balance + braceDelta (splitLineComment line.text).1) register line
              refine .cons rfl ?_ ⟨positive, aggregateEvent_ne_inValue _ _ _, ?_, ?_, ?_⟩ ?_ ?_ ?_
              · intro brings
                rw [brings_aggregateEvent] at brings
                cases brings
              · intro keeps
                exact level_of_keeps keeps
              · intro trailing declares
                exact aggregateEvent_declares declares
              · intro member recorded
                exact (members member recorded).1
              · intro member recorded
                exact (members member recorded).2
              · intro text declares
                exact Line.ne_nil_of_trailing? (aggregateEvent_declares declares).1.symm
              · rw [← fed]
                exact ih rest.length (Nat.lt_succ_self _) (positive_of_not_closesBody positive further)
                  _ rest rfl

/-- A visit inside a body reads a comment, or it records the members of a line of code. -/
def ReadsMembers (visit : BodyVisit AggregateMember) : Prop :=
  (visit.event = .ofComment visit.line visit.behind ∧ visit.records = []) ∨
    (visit.event = aggregateEvent visit.before visit.after visit.line ∧ ∃ reached,
      visit.records = (memberOfLine visit.before visit.after reached (codeOf visit.line.text)
        (splitLineComment visit.line.text).2 visit.line.number).1)

theorem openAggregateVisits_cases (balance : Int) (register : CommentRegister) (lines : List Line) :
    ∀ visit ∈ openAggregateVisits balance register lines, visit.line ∈ lines ∧ ReadsMembers visit := by
  induction measured : lines.length using Nat.strongRecOn generalizing balance register lines with
  | ind size ih =>
      subst measured
      cases lines with
      | nil =>
          rw [openAggregateVisits]
          exact List.forall_mem_nil _
      | cons line rest =>
          rw [openAggregateVisits]
          split
          · rename_i next remaining consumed
            have shorter := CommentRegister.consume?_length_le consumed
            obtain ⟨front, _, split, _, _⟩ := CommentReader.consume?_read consumed
            intro visit listed
            rcases List.mem_cons.mp listed with same | later
            · rw [same]
              exact ⟨List.mem_cons_self, .inl ⟨rfl, rfl⟩⟩
            · obtain ⟨among, reads⟩ :=
                ih remaining.length (Nat.lt_succ_of_le shorter) balance next remaining rfl visit later
              refine ⟨List.mem_cons_of_mem line ?_, reads⟩
              rw [split]
              exact List.mem_append_right front among
          · dsimp only
            split
            · exact List.forall_mem_nil _
            · intro visit listed
              rcases List.mem_cons.mp listed with same | later
              · rw [same]
                exact ⟨List.mem_cons_self, .inr ⟨rfl, register, rfl⟩⟩
              · obtain ⟨among, reads⟩ := ih rest.length (Nat.lt_succ_self _) _ _ rest rfl visit later
                exact ⟨List.mem_cons_of_mem line among, reads⟩

theorem pendingAggregateVisits_cases (balance : Int) (lines : List Line) :
    ∀ visit ∈ pendingAggregateVisits balance lines, visit.line ∈ lines ∧ ReadsMembers visit := by
  have further {line : Line} {rest : List Line} {visits : List (BodyVisit AggregateMember)}
      (later : ∀ visit ∈ visits, visit.line ∈ rest ∧ ReadsMembers visit) :
      ∀ visit ∈ visits, visit.line ∈ line :: rest ∧ ReadsMembers visit :=
    fun visit listed => ⟨List.mem_cons_of_mem line (later visit listed).1, (later visit listed).2⟩
  induction lines generalizing balance with
  | nil => exact List.forall_mem_nil _
  | cons line rest ih =>
      unfold pendingAggregateVisits
      dsimp only
      split_ifs
      · exact List.forall_mem_nil _
      · exact further (openAggregateVisits_cases _ .empty rest)
      · exact List.forall_mem_nil _
      · exact further (ih _)

/-- Members that are written on the line of a brace, among some lines. -/
def AreInline (lines : List Line) (opensHere closesHere : Bool) (members : List AggregateMember) : Prop :=
  members = [] ∨ ∃ line ∈ lines,
    members = inlineMembers (bodySegment (codeOf line.text) opensHere closesHere) line.number

theorem AreInline.comments {lines : List Line} {opensHere closesHere : Bool}
    {members : List AggregateMember} (inline : AreInline lines opensHere closesHere members) :
    ∀ member ∈ members, member.comments = [] := by
  rcases inline with none | ⟨line, _, same⟩
  · rw [none]
    exact List.forall_mem_nil _
  · rw [same]
    exact fun member recorded => comments_of_inlineMembers recorded

theorem AreInline.mono {lines more : List Line} {opensHere closesHere : Bool}
    {members : List AggregateMember} (inline : AreInline lines opensHere closesHere members)
    (among : ∀ line ∈ lines, line ∈ more) : AreInline more opensHere closesHere members := by
  rcases inline with none | ⟨line, member, same⟩
  · exact .inl none
  · exact .inr ⟨line, among line member, same⟩

theorem openAggregateBody_eq_inline (balance : Int) (register : CommentRegister)
    (lines : List Line) :
    ∃ closing, AreInline lines false true closing ∧
      (openAggregateBody balance register lines).1 =
        (openAggregateVisits balance register lines).flatMap (·.records) ++ closing := by
  induction measured : lines.length using Nat.strongRecOn generalizing balance register lines with
  | ind size ih =>
      subst measured
      cases lines with
      | nil =>
          rw [openAggregateVisits, openAggregateBody]
          exact ⟨[], .inl rfl, rfl⟩
      | cons line rest =>
          rw [openAggregateVisits]
          split
          · rename_i next remaining consumed
            have shorter := CommentRegister.consume?_length_le consumed
            obtain ⟨front, _, split, _, _⟩ := CommentReader.consume?_read consumed
            rw [openAggregateBody_consumed consumed, List.flatMap_cons, List.nil_append]
            obtain ⟨closing, inline, equal⟩ :=
              ih remaining.length (Nat.lt_succ_of_le shorter) balance next remaining rfl
            refine ⟨closing, inline.mono ?_, equal⟩
            intro later member
            rw [split]
            exact List.mem_cons_of_mem line (List.mem_append_right front member)
          · rename_i ignored
            rw [openAggregateBody_ignored ignored]
            dsimp only
            split
            · rw [List.flatMap_nil]
              simp only [List.nil_append, exists_eq_right']
              by_cases atDepth : balance = 1
              · rw [if_pos atDepth]
                exact .inr ⟨line, List.mem_cons_self, rfl⟩
              · rw [if_neg atDepth]
                exact .inl rfl
            · obtain ⟨closing, inline, equal⟩ := ih rest.length (Nat.lt_succ_self _)
                (balance + braceDelta (splitLineComment line.text).1)
                (memberOfLine balance (balance + braceDelta (splitLineComment line.text).1)
                  register (splitLineComment line.text).1 (splitLineComment line.text).2
                  line.number).2 rest rfl
              refine ⟨closing, inline.mono fun later => List.mem_cons_of_mem line, ?_⟩
              rw [equal, List.flatMap_cons, List.append_assoc]

/-- The walk over the body of an aggregate starts where its opening line ends. -/
theorem walked_pendingAggregateVisits (balance : Int) (lines : List Line) :
    ∃ start, Walked AggregateMember.comments AggregateMember.WellPlaced start .empty
      (pendingAggregateVisits balance lines) := by
  induction lines generalizing balance with
  | nil => exact ⟨balance, .nil balance .empty⟩
  | cons line rest ih =>
      unfold pendingAggregateVisits
      dsimp only
      split
      · split
        · exact ⟨balance, .nil balance .empty⟩
        · rename_i further
          exact ⟨_, walked_openAggregateVisits (by omega) .empty rest⟩
      · split
        · exact ⟨balance, .nil balance .empty⟩
        · exact ih _

theorem pendingAggregateBody_eq_inline (balance : Int) (lines : List Line) :
    ∃ opening closing, (∃ closesHere, AreInline lines true closesHere opening) ∧
      AreInline lines false true closing ∧
      (pendingAggregateBody balance lines).1 =
        opening ++ (pendingAggregateVisits balance lines).flatMap (·.records) ++ closing := by
  induction lines generalizing balance with
  | nil => exact ⟨[], [], ⟨true, .inl rfl⟩, .inl rfl, rfl⟩
  | cons line rest ih =>
      have here (closesHere : Bool) : AreInline (line :: rest) true closesHere
          (inlineMembers (bodySegment (codeOf line.text) true closesHere) line.number) :=
        .inr ⟨line, List.mem_cons_self, rfl⟩
      unfold pendingAggregateBody pendingAggregateVisits aggregateBodyFrom
      dsimp only
      split
      · by_cases closed : balance + braceDelta (codeOf line.text) ≤ 0
        · rw [if_pos (decide_eq_true closed), if_pos closed]
          exact ⟨_, [], ⟨_, here _⟩, .inl rfl, by rw [List.flatMap_nil, List.append_nil, List.append_nil]⟩
        · rw [if_neg (by rw [decide_eq_true_eq]; exact closed), if_neg closed]
          obtain ⟨closing, inline, equal⟩ := openAggregateBody_eq_inline
            (balance + braceDelta (codeOf line.text)) .empty rest
          exact ⟨_, closing, ⟨_, here _⟩, inline.mono fun later => List.mem_cons_of_mem line,
            by rw [equal, List.append_assoc]⟩
      · split
        · exact ⟨[], [], ⟨true, .inl rfl⟩, .inl rfl, rfl⟩
        · obtain ⟨opening, closing, ⟨closesHere, first⟩, last, equal⟩ :=
            ih (balance + braceDelta (codeOf line.text))
          exact ⟨opening, closing, ⟨closesHere, first.mono fun later => List.mem_cons_of_mem line⟩,
            last.mono fun later => List.mem_cons_of_mem line, equal⟩

/-- Members on the lines of the braces have no comments. -/
theorem pendingAggregateBody_eq_records (balance : Int) (lines : List Line) :
    ∃ opening closing, (∀ member ∈ opening ++ closing, member.comments = []) ∧
      (pendingAggregateBody balance lines).1 =
        opening ++ (pendingAggregateVisits balance lines).flatMap (·.records) ++ closing := by
  obtain ⟨opening, closing, ⟨_, first⟩, last, equal⟩ := pendingAggregateBody_eq_inline balance lines
  refine ⟨opening, closing, ?_, equal⟩
  intro member recorded
  rcases List.mem_append.mp recorded with inOpening | inClosing
  · exact first.comments member inOpening
  · exact last.comments member inClosing

end DocSite
