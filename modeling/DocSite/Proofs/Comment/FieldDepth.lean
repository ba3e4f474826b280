/-
The depth at which fields are recorded.

A method is recorded when its line begins at the container's own depth, but a field when its line ends there. So
a line that closes a nested block and goes on to a semicolon is recorded as a field with what it has of the
block, and a field begins at the container's own depth exactly if the braces of its line are in balance.
-/
import DocSite.Proofs.Comment.AggregateVisits
import DocSite.Proofs.Walk.Place

namespace DocSite

/-- Whether a line is code that declares a field wherever it ends at the container's own depth. -/
def Line.declaresField (line : Line) : Bool :=
  let code := codeOf line.text
  (CommentPlace.between.read? line.text).isNone && !isFiller code && (matchHeader? code).isNone &&
    !isFunction code && Text.endsWith ';' code

/-- What a visit inside the body of an aggregate says of fields and methods. -/
structure FieldsAtDepth (visit : BodyVisit AggregateMember) : Prop where
  inside : 1 ≤ visit.before
  recorded : (∃ declared, .field declared ∈ visit.records) ↔
    visit.line.declaresField = true ∧ visit.after = 1
  written : ∀ declared, .field declared ∈ visit.records →
    declared.declaration = codeOf visit.line.text ∧ declared.line = (visit.line.number : Int)
  begins : ∀ declared, .field declared ∈ visit.records → visit.before = 1 - braceDelta visit.line.text
  methods : ∀ declared, .method declared ∈ visit.records → visit.before = 1

theorem mem_memberOfLine_field {before after : Int} {register : CommentRegister} {code trailing : Text}
    {number : Nat} {declared : FieldDoc}
    (recorded : .field declared ∈ (memberOfLine before after register code trailing number).1) :
    declared.declaration = code ∧ declared.line = number := by
  unfold memberOfLine at recorded
  split_ifs at recorded
  · cases recorded
  · cases recorded
  · obtain ⟨_, _, equal⟩ := Option.map_eq_some_iff.mp (Option.mem_toList.mp recorded)
    cases equal
  · cases recorded
  · cases List.mem_singleton.mp recorded
    exact ⟨rfl, rfl⟩
  · cases recorded

theorem mem_memberOfLine_method {before after : Int} {register : CommentRegister} {code trailing : Text}
    {number : Nat} {declared : FunctionDoc}
    (recorded : .method declared ∈ (memberOfLine before after register code trailing number).1) :
    before = 1 := by
  unfold memberOfLine at recorded
  split_ifs at recorded with _ _ _ level
  · cases recorded
  · cases recorded
  · exact level
  · cases recorded
  · cases List.mem_singleton.mp recorded
  · cases recorded

theorem exists_field_memberOfLine (before after : Int) (register : CommentRegister) (code trailing : Text)
    (number : Nat) :
    (∃ declared, .field declared ∈ (memberOfLine before after register code trailing number).1) ↔
      (!isFiller code && (matchHeader? code).isNone && !isFunction code && Text.endsWith ';' code) = true ∧
        after = 1 := by
  unfold memberOfLine
  by_cases filler : isFiller code = true
  · simp [filler]
  by_cases header : (matchHeader? code).isSome = true
  · simp [filler, header, ← Option.not_isSome]
  have noHeader := Option.not_isSome_iff_eq_none.mp header
  by_cases signature : isFunction code = true
  · by_cases level : before = 1
    · simp [filler, noHeader, signature, level]
    · simp [filler, noHeader, signature, level]
  · by_cases field : after = 1 ∧ Text.endsWith ';' code = true
    · simp [filler, noHeader, signature, field]
    · simp only [filler, noHeader, signature, field, Option.isSome_none, Bool.false_eq_true, if_false,
        List.not_mem_nil, exists_false, Option.isNone_none, Bool.not_false, Bool.true_and, false_iff]
      exact fun both => field ⟨both.2, both.1⟩

theorem fieldsAtDepth_comment {balance : Int} (positive : 1 ≤ balance) {register next : CommentRegister}
    {line : Line} {rest remaining : List Line} (event : CommentEvent)
    (consumed : register.consume? line rest = some (next, remaining)) :
    FieldsAtDepth ⟨⟨line, rest, event, []⟩, balance, balance⟩ := by
  refine ⟨positive, ?_, nofun, nofun, nofun⟩
  have taken : ¬CommentPlace.between.read? line.text = none := by
    rw [CommentReader.read?_between_eq_none_iff register line rest, consumed]
    exact Option.some_ne_none _
  constructor
  · rintro ⟨declared, recorded⟩
    cases recorded
  · rintro ⟨declares, _⟩
    unfold Line.declaresField at declares
    simp only [Bool.and_eq_true, Option.isNone_iff_eq_none] at declares
    exact absurd declares.1.1.1.1 taken

theorem fieldsAtDepth_code {balance : Int} (positive : 1 ≤ balance) {register : CommentRegister}
    {line : Line} {rest : List Line} (event : CommentEvent) (ignored : register.consume? line rest = none) :
    FieldsAtDepth ⟨⟨line, rest, event, (memberOfLine balance (balance + braceDelta (codeOf line.text)) register
      (codeOf line.text) (splitLineComment line.text).2 line.number).1⟩,
      balance, balance + braceDelta (codeOf line.text)⟩ := by
  have code := (CommentReader.read?_between_eq_none_iff register line rest).mpr ignored
  have records := exists_field_memberOfLine balance (balance + braceDelta (codeOf line.text)) register
    (codeOf line.text) (splitLineComment line.text).2 line.number
  refine ⟨positive, ?_, fun _ => mem_memberOfLine_field, ?_, fun _ => mem_memberOfLine_method⟩
  · unfold Line.declaresField
    rw [code]
    exact records
  · intro declared recorded
    have level := (records.mp ⟨declared, recorded⟩).2
    rw [braceDelta_codeOf] at level
    dsimp only
    omega

/-- Every visit of a walk inside a body records fields and methods at their depths. -/
theorem fieldsAtDepth_openAggregateVisits {balance : Int} (positive : 1 ≤ balance) (register : CommentRegister)
    (lines : List Line) :
    ∀ visit ∈ openAggregateVisits balance register lines, FieldsAtDepth visit := by
  induction measured : lines.length using Nat.strongRecOn generalizing balance register lines with
  | ind size ih =>
      subst measured
      cases lines with
      | nil =>
          rw [openAggregateVisits]
          exact List.forall_mem_nil _
      | cons line rest =>
          rw [openAggregateVisits]
          split
          · rename_i next remaining consumed
            have shorter := CommentRegister.consume?_length_le consumed
            intro visit listed
            rcases List.mem_cons.mp listed with same | later
            · rw [same]
              exact fieldsAtDepth_comment positive _ consumed
            · exact ih remaining.length (Nat.lt_succ_of_le shorter) positive next remaining rfl visit later
          · rename_i ignored
            dsimp only
            split
            · exact List.forall_mem_nil _
            · rename_i further
              intro visit listed
              rcases List.mem_cons.mp listed with same | later
              · rw [same]
                exact fieldsAtDepth_code positive _ ignored
              · exact ih rest.length (Nat.lt_succ_self _) (positive_of_not_closesBody positive further) _ rest
                  rfl visit later

theorem fieldsAtDepth_pendingAggregateVisits (balance : Int) (lines : List Line) :
    ∀ visit ∈ pendingAggregateVisits balance lines, FieldsAtDepth visit := by
  induction lines generalizing balance with
  | nil => exact List.forall_mem_nil _
  | cons line rest ih =>
      unfold pendingAggregateVisits
      dsimp only
      split_ifs
      · exact List.forall_mem_nil _
      · exact fieldsAtDepth_openAggregateVisits (by omega) .empty rest
      · exact List.forall_mem_nil _
      · exact ih _

/-- The members of an aggregate are those of its visits, between those on the lines of its braces. A visit
records a field if its line ends at the container's own depth, so a field begins deeper by as many braces as
its line closes more than it opens. -/
theorem aggregate_field_depth (first : Line) (rest : List Line) :
    ∃ opening closing, (∃ closesHere, AreInline (first :: rest) true closesHere opening) ∧
      AreInline (first :: rest) false true closing ∧
      (∀ kind name comments, (scanAggregate kind name comments first rest).1.map AggregateDoc.fields =
        if name.isEmpty then none
        else some ((opening ++ (aggregateVisits first rest).flatMap (·.records) ++ closing).filterMap
          AggregateMember.field?)) ∧
      ∀ visit ∈ aggregateVisits first rest, FieldsAtDepth visit := by
  obtain ⟨opening, closing, before, behind, members⟩ := pendingAggregateBody_eq_inline 0 (first :: rest)
  refine ⟨opening, closing, before, behind, ?_, fieldsAtDepth_pendingAggregateVisits 0 (first :: rest)⟩
  intro kind name comments
  unfold scanAggregate aggregateBody aggregateVisits
  dsimp only
  rw [members]
  split_ifs <;> rfl

/-- A field behind a method with a body begins at the container's own depth. -/
theorem aggregate_field_depth_behind_method :
    let first : Line := ⟨1, "class A \x7b".toList⟩
    let rest : List Line := numberedLines 2 (["void f() \x7b", "g();", "\x7d", "int x;", "\x7d"].map String.toList)
    ∃ visit ∈ aggregateVisits first rest, FieldsAtDepth visit ∧
      .field ⟨"int x;".toList, [], 5, false⟩ ∈ visit.records ∧ visit.before = 1 := by
  intro first rest
  obtain ⟨_, _, _, _, _, atDepth⟩ := aggregate_field_depth first rest
  have recorded : (aggregateVisits first rest).any (fun visit =>
      visit.records.contains (.field ⟨"int x;".toList, [], 5, false⟩) && decide (visit.before = 1)) = true := by
    decide +kernel
  obtain ⟨visit, listed, both⟩ := List.any_eq_true.mp recorded
  rw [Bool.and_eq_true, List.contains_iff_mem, decide_eq_true_eq] at both
  exact ⟨visit, listed, atDepth visit listed, both⟩

/-- The last statement in the body of a method becomes a field, although its line begins inside that body. -/
theorem field_from_method_body :
    let first : Line := ⟨1, "class A \x7b".toList⟩
    let rest : List Line := numberedLines 2 (["void f() \x7b", "local = 1; \x7d;", "\x7d"].map String.toList)
    let field : FieldDoc := ⟨"local = 1; \x7d;".toList, [], 3, false⟩
    (scanAggregate .classType "A".toList [] first rest).1.map AggregateDoc.fields = some [field] ∧
      ∃ visit ∈ aggregateVisits first rest, .field field ∈ visit.records ∧ visit.before = 2 := by
  intro first rest field
  have recorded : (aggregateVisits first rest).any (fun visit =>
      visit.records.contains (.field field) && decide (visit.before = 2)) = true := by decide +kernel
  obtain ⟨visit, listed, both⟩ := List.any_eq_true.mp recorded
  rw [Bool.and_eq_true, List.contains_iff_mem, decide_eq_true_eq] at both
  exact ⟨by decide +kernel, visit, listed, both⟩

end DocSite
