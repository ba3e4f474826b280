/-
Values of enum members.

The name of a member ends at the first equals sign outside all brackets and literals. The value that is recorded
begins behind the first equals sign of the member wherever that stands, which is another one exactly if the text in
front of the first top-level one has an equals sign too.
-/
import DocSite.Container.Enumeration
import DocSite.Proofs.Source.Segments

namespace DocSite

/-! ### The first separator -/

def cutAtTopLevel? (separator : Char) (text : Text) : Option (Text × Text) :=
  match topLevelSegments (· == separator) .outside 0 text with
  | before :: _ :: _ => some (before, text.drop (before.length + 1))
  | _ => none

/-- The first segment begins the text, and if there are others they are those of what stands behind the first
separator. -/
theorem topLevelSegments_first (separator : Char) (quotation : Quotation) (depth : Nat) (text : Text) :
    topLevelSegments (· == separator) quotation depth text = [text] ∨
      ∃ before behind, text = before ++ separator :: behind ∧
        topLevelSegments (· == separator) quotation depth text =
          before :: topLevelSegments (· == separator) .outside 0 behind := by
  induction text generalizing quotation depth with
  | nil => exact .inl rfl
  | cons character rest ih =>
      have extended (next : Quotation) (depth : Nat) :
          Text.consHead character (topLevelSegments (· == separator) next depth rest) = [character :: rest] ∨
            ∃ before behind, character :: rest = before ++ separator :: behind ∧
              Text.consHead character (topLevelSegments (· == separator) next depth rest) =
                before :: topLevelSegments (· == separator) .outside 0 behind := by
        rcases ih next depth with whole | ⟨before, behind, split, segments⟩
        · rw [whole]
          exact .inl rfl
        · rw [segments, split]
          exact .inr ⟨character :: before, behind, rfl, rfl⟩
      cases quotation with
      | within mark escaped =>
          rw [topLevelSegments]
          exact extended _ _
      | outside =>
          rw [topLevelSegments]
          split
          · exact extended _ _
          · rename_i separates
            simp only [Bool.or_eq_true, not_or, Bool.not_eq_true, Bool.not_eq_false, Bool.not_eq_eq_eq_not,
              Bool.not_true, beq_iff_eq, bne_eq_false_iff_eq] at separates
            rw [separates.1.2, separates.2]
            exact .inr ⟨[], rest, rfl, rfl⟩

theorem cutAtTopLevel?_cases (separator : Char) (text : Text) :
    cutAtTopLevel? separator text = none ∧ splitTopLevelAt separator text = [Text.trim text] ∨
      ∃ before behind, cutAtTopLevel? separator text = some (before, behind) ∧
        text = before ++ separator :: behind ∧
        splitTopLevelAt separator text = Text.trim before :: splitTopLevelAt separator behind := by
  unfold cutAtTopLevel? splitTopLevelAt splitTopLevel
  rcases topLevelSegments_first separator .outside 0 text with whole | ⟨before, behind, split, segments⟩
  · rw [whole]
    exact .inl ⟨rfl, rfl⟩
  · obtain ⟨first, others, further⟩ := splitTopLevelAt_eq_cons separator behind
    obtain ⟨next, more, cons, -, -⟩ := List.map_eq_cons_iff.mp further
    refine .inr ⟨before, behind, ?_, split, by rw [segments]; rfl⟩
    rw [segments, cons, split, List.append_cons]
    exact congrArg (fun rest => some (before, rest)) (List.drop_left' List.length_append)

/-! ### Members -/

def writtenMember (piece : Text) : Text × Text :=
  match cutAtTopLevel? '=' piece with
  | none => (Text.trim piece, [])
  | some (before, behind) => (Text.trim before, Text.trim behind)

structure RecordedParts (before behind : Text) (recorded : Text × Text) : Prop where
  name : recorded.1 = Text.trim before
  value : recorded.2 = Text.trim behind ↔ '=' ∉ before
  ink : Text.inkOf (recorded.1 ++ '=' :: recorded.2) = Text.inkOf (before ++ '=' :: behind) ↔ '=' ∉ before
  hidden : ∀ front inside, before = front ++ '=' :: inside → '=' ∉ front →
    recorded.2 = Text.trim (inside ++ '=' :: behind)

structure RecordedMember (piece : Text) (recorded : Text × Text) : Prop where
  whole : cutAtTopLevel? '=' piece = none → recorded = (Text.trim piece, [])
  parts : ∀ before behind, cutAtTopLevel? '=' piece = some (before, behind) →
    piece = before ++ '=' :: behind ∧ RecordedParts before behind recorded

theorem splitEnumMember_uncut {piece : Text} (uncut : cutAtTopLevel? '=' piece = none) :
    splitEnumMember piece = (Text.trim piece, []) := by
  rcases cutAtTopLevel?_cases '=' piece with ⟨_, whole⟩ | ⟨before, behind, cut, _, _⟩
  · unfold splitEnumMember
    rw [whole]
  · rw [uncut] at cut
    cases cut

/-- The name ends at the first top-level equals sign, and the value begins behind the first one at all. -/
theorem splitEnumMember_cut {piece before behind front rest : Text}
    (cut : cutAtTopLevel? '=' piece = some (before, behind)) (split : piece = front ++ '=' :: rest)
    (first : '=' ∉ front) : splitEnumMember piece = (Text.trim before, Text.trim rest) := by
  rcases cutAtTopLevel?_cases '=' piece with ⟨uncut, _⟩ | ⟨_, _, found, _, pieces⟩
  · rw [uncut] at cut
    cases cut
  · rw [found] at cut
    cases cut
    obtain ⟨next, others, further⟩ := splitTopLevelAt_eq_cons '=' behind
    have value : Text.cutAt? '=' piece = some (front, rest) := by
      rw [split]
      exact Text.cutAt?_append first rest
    unfold splitEnumMember
    rw [pieces, further, value]
    rfl

theorem eq_of_cutAtTopLevel? {separator : Char} {text before behind : Text}
    (cut : cutAtTopLevel? separator text = some (before, behind)) : text = before ++ separator :: behind := by
  rcases cutAtTopLevel?_cases separator text with ⟨uncut, _⟩ | ⟨_, _, found, split, _⟩
  · rw [uncut] at cut
    cases cut
  · rw [found] at cut
    cases cut
    exact split

/-- A value that begins behind an earlier equals sign has one more than the text behind the top-level one. -/
theorem count_equals_hidden (inside behind : Text) :
    (Text.trim (inside ++ '=' :: behind)).count '=' = inside.count '=' + 1 + (Text.trim behind).count '=' := by
  have ink : isBlank '=' = false := rfl
  rw [Text.count_trim ink, Text.count_trim ink, List.count_append, List.count_cons_self]
  omega

theorem recordedParts_splitEnumMember {piece before behind : Text}
    (cut : cutAtTopLevel? '=' piece = some (before, behind)) :
    RecordedParts before behind (splitEnumMember piece) := by
  have split := eq_of_cutAtTopLevel? cut
  have ink : isBlank '=' = false := rfl
  have hidden (front inside : Text) (whole : before = front ++ '=' :: inside) (first : '=' ∉ front) :
      splitEnumMember piece = (Text.trim before, Text.trim (inside ++ '=' :: behind)) := by
    refine splitEnumMember_cut cut ?_ first
    rw [split, whole, List.append_assoc, List.cons_append]
  by_cases member : '=' ∈ before
  · obtain ⟨front, inside, whole, first⟩ := List.eq_append_cons_of_mem member
    have longer := count_equals_hidden inside behind
    have recorded := hidden front inside whole first
    refine ⟨?_, ⟨?_, fun absent => absurd member absent⟩, ⟨?_, fun absent => absurd member absent⟩, ?_⟩
    · rw [recorded]
    · intro same
      rw [recorded] at same
      have counts := congrArg (List.count '=') same
      dsimp only at counts
      omega
    · intro same
      rw [recorded] at same
      have counts := congrArg (List.count '=') same
      rw [Text.count_inkOf ink, Text.count_inkOf ink, List.count_append, List.count_append, List.count_cons_self,
        List.count_cons_self, Text.count_trim ink before, longer, Text.count_trim ink behind] at counts
      omega
    · intro other within again absent
      rw [hidden other within again absent]
  · have recorded := splitEnumMember_cut cut split member
    refine ⟨?_, ⟨fun _ => member, fun _ => ?_⟩, ⟨fun _ => member, fun _ => ?_⟩, ?_⟩
    · rw [recorded]
    · rw [recorded]
    · rw [recorded, Text.inkOf_append, Text.inkOf_append, Text.inkOf_cons ink, Text.inkOf_cons ink, Text.inkOf_trim,
        Text.inkOf_trim]
    · intro front inside whole first
      rw [hidden front inside whole first]

theorem recordedMember_splitEnumMember (piece : Text) : RecordedMember piece (splitEnumMember piece) :=
  ⟨splitEnumMember_uncut, fun _ _ cut => ⟨eq_of_cutAtTopLevel? cut, recordedParts_splitEnumMember cut⟩⟩

theorem splitEnumMember_eq_iff (piece : Text) :
    splitEnumMember piece = writtenMember piece ↔ ∀ parts ∈ cutAtTopLevel? '=' piece, '=' ∉ parts.1 := by
  unfold writtenMember
  cases cut : cutAtTopLevel? '=' piece with
  | none => exact ⟨fun _ => nofun, fun _ => splitEnumMember_uncut cut⟩
  | some parts =>
      have recorded := recordedParts_splitEnumMember cut
      constructor
      · rintro same _ ⟨⟩
        exact recorded.value.mp (congrArg Prod.snd same)
      · intro absent
        exact Prod.ext recorded.name (recorded.value.mpr (absent parts rfl))

theorem fst_splitEnumMember (piece : Text) : (splitEnumMember piece).1 = (writtenMember piece).1 := by
  unfold writtenMember
  cases cut : cutAtTopLevel? '=' piece with
  | none => exact congrArg Prod.fst (splitEnumMember_uncut cut)
  | some parts => exact (recordedParts_splitEnumMember cut).name

/-- In front of a member without a name stand only blanks. -/
theorem splitEnumMember_unnamed {piece : Text} (unnamed : (splitEnumMember piece).1 = []) :
    splitEnumMember piece = writtenMember piece := by
  rw [splitEnumMember_eq_iff]
  rintro parts cut member
  have name := (recordedParts_splitEnumMember cut).name
  rw [unnamed] at name
  have none := congrArg (List.count '=') name
  rw [Text.count_trim rfl, List.count_nil] at none
  exact List.count_eq_zero.mp none.symm member

/-! ### Lines -/

def memberOf (number : Int) (comments : List Text) (member : Text × Text) : EnumMemberDoc :=
  { name := member.1, value := member.2, comments := comments, line := number }

def namedMember? (number : Int) (comments : List Text) (member : Text × Text) : Option EnumMemberDoc :=
  if member.1.isEmpty then none else some (memberOf number comments member)

theorem enumMember?_eq (number : Int) (comments : List Text) (piece : Text) :
    enumMember? number comments piece = namedMember? number comments (splitEnumMember piece) := by
  cases piece <;> rfl

theorem namedMember?_eq_some {number : Int} {comments : List Text} {member : Text × Text} (named : member.1 ≠ []) :
    namedMember? number comments member = some (memberOf number comments member) := by
  unfold namedMember?
  rw [List.isEmpty_eq_false_iff.mpr named]
  rfl

theorem memberOf_inj {number : Int} {comments : List Text} {member other : Text × Text} :
    memberOf number comments member = memberOf number comments other ↔ member = other :=
  ⟨fun same => Prod.ext (congrArg EnumMemberDoc.name same) (congrArg EnumMemberDoc.value same), congrArg _⟩

theorem filterMap_namedMember?_eq_iff {number : Int} {comments : List Text} (pieces : List Text) :
    pieces.filterMap (fun piece => namedMember? number comments (splitEnumMember piece)) =
        pieces.filterMap (fun piece => namedMember? number comments (writtenMember piece)) ↔
      ∀ piece ∈ pieces, splitEnumMember piece = writtenMember piece := by
  induction pieces with
  | nil => exact ⟨fun _ => nofun, fun _ => rfl⟩
  | cons piece pieces ih =>
      rw [List.forall_mem_cons, ← ih]
      by_cases named : (splitEnumMember piece).1 = []
      · have same := splitEnumMember_unnamed named
        rw [List.filterMap_cons, List.filterMap_cons, ← same, and_iff_right rfl]
        cases namedMember? number comments (splitEnumMember piece) with
        | none => exact Iff.rfl
        | some member => exact List.cons_inj_right member
      · have namedToo : (writtenMember piece).1 ≠ [] := by
          rw [← fst_splitEnumMember]
          exact named
        rw [List.filterMap_cons, List.filterMap_cons, namedMember?_eq_some named, namedMember?_eq_some namedToo]
        dsimp only
        rw [List.cons.injEq, memberOf_inj]

/-- The name of every member is the text in front of its first top-level equals sign, or the whole of it. Its value is
the text behind that sign, and the two have each of its characters once, exactly if no other one stands in front. -/
theorem enum_members_split (segment : Text) (number : Int) (comments : List Text) :
    (∀ piece, RecordedMember piece (splitEnumMember piece)) ∧
      parseEnumMembers segment number comments = (splitTopLevelAt ',' segment).filterMap
        (fun piece => namedMember? number comments (splitEnumMember piece)) ∧
      (parseEnumMembers segment number comments = (splitTopLevelAt ',' segment).filterMap
          (fun piece => namedMember? number comments (writtenMember piece)) ↔
        ∀ piece ∈ splitTopLevelAt ',' segment, ∀ parts ∈ cutAtTopLevel? '=' piece, '=' ∉ parts.1) := by
  have recorded : parseEnumMembers segment number comments = (splitTopLevelAt ',' segment).filterMap
      (fun piece => namedMember? number comments (splitEnumMember piece)) :=
    List.filterMap_congr fun piece _ => enumMember?_eq number comments piece
  refine ⟨recordedMember_splitEnumMember, recorded, ?_⟩
  rw [recorded, filterMap_namedMember?_eq_iff]
  exact forall₂_congr fun piece _ => splitEnumMember_eq_iff piece

/-- An equals sign in a literal in front of the name takes the place of the one behind the name. -/
theorem enum_member_value_in_literal :
    let segment := "@A(\"=\") x = 1".toList
    (splitTopLevelAt ',' segment).filterMap (fun piece => namedMember? 1 [] (writtenMember piece)) =
        [⟨"@A(\"=\") x".toList, "1".toList, [], 1⟩] ∧
      parseEnumMembers segment 1 [] = [⟨"@A(\"=\") x".toList, "\") x = 1".toList, [], 1⟩] := by
  decide +kernel

end DocSite
