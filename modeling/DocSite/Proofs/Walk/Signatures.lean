/-
What functions are recorded from.

A function is recorded from the code of a line as a whole. A method is recorded from such code, too, or on the
line of a brace from what stands between two semicolons. All of this has been accepted as a signature, so no
statement is among it, and neither is anything with an equals sign or a point in front of its parameter list.
-/
import DocSite.Proofs.Comment.PrecedingRun
import DocSite.Proofs.Signature.Accepted
import DocSite.Proofs.Walk.Provenance

namespace DocSite

/-! ### Visited lines -/

theorem stepCode_remaining_suffix (register : CommentRegister) (line : Line) (rest : List Line) :
    (stepCode register line rest).remaining <:+ rest := by
  obtain ⟨front, split, _⟩ := ModuleWalk.returnsAt_code [] register line rest
  exact ⟨front, split.symm⟩

/-- The lines that a visit at module scope sees are the lines of the module from there on. -/
theorem suffix_of_moduleVisits (register : CommentRegister) (lines : List Line) :
    ∀ visit ∈ moduleVisits register lines, visit.line :: visit.behind <:+ lines := by
  induction measured : lines.length using Nat.strongRecOn generalizing register lines with
  | ind size ih =>
      subst measured
      cases lines with
      | nil =>
          rw [moduleVisits]
          exact List.forall_mem_nil _
      | cons line rest =>
          rw [moduleVisits]
          split
          · rename_i next remaining consumed
            have shorter := CommentRegister.consume?_length_le consumed
            obtain ⟨front, _, split, _, _⟩ := CommentReader.consume?_read consumed
            have suffix : remaining <:+ line :: rest :=
              List.IsSuffix.trans ⟨front, split.symm⟩ (List.suffix_cons line rest)
            intro visit listed
            rcases List.mem_cons.mp listed with same | later
            · subst same
              exact List.suffix_rfl
            · exact (ih remaining.length (Nat.lt_succ_of_le shorter) next remaining rfl visit later).trans suffix
          · have shorter := stepCode_length_le register line rest
            have suffix := (stepCode_remaining_suffix register line rest).trans (List.suffix_cons line rest)
            intro visit listed
            rcases List.mem_cons.mp listed with same | later
            · subst same
              exact List.suffix_rfl
            · exact (ih _ (Nat.lt_succ_of_le shorter) _ _ rfl visit later).trans suffix

/-! ### Recorded signatures -/

/-- A function was read from code that was accepted, whose parameter list opens at a position. -/
structure FunctionDoc.ReadAt (declared : FunctionDoc) (code : Text) (number : Int) (position : Nat) : Prop where
  accepted : isSignatureCode code = true
  read : parseSignature? code declared.comments number = some declared
  opens : parameterParen? code = some position
  declares : code.DeclaresAt position

theorem FunctionDoc.exists_readAt {declared : FunctionDoc} {code : Text} {comments : List Text} {number : Int}
    (accepted : isSignatureCode code = true) (read : parseSignature? code comments number = some declared)
    (same : declared.comments = comments) : ∃ position, declared.ReadAt code number position := by
  obtain ⟨position, opens, declares⟩ := declaresAt_of_accepted accepted
  rw [← same] at read
  exact ⟨position, accepted, read, opens, declares⟩

/-- What a line spells inside a body: its code as a whole or, on the line of a brace, a piece between semicolons
of what is inside the body. Every piece but the last one is read with its semicolon. -/
inductive Line.Spells (line : Line) : Text → Prop
  | whole : Spells line (codeOf line.text)
  | piece {opensHere closesHere : Bool} {text : Text}
      (listed : text ∈ splitTopLevelAt ';' (bodySegment (codeOf line.text) opensHere closesHere)) :
      Spells line (codeOf (Text.trim text))
  | ended {opensHere closesHere : Bool} {text : Text}
      (listed : text ∈ splitTopLevelAt ';' (bodySegment (codeOf line.text) opensHere closesHere)) :
      Spells line (codeOf (Text.trim (text ++ [';'])))

/-- A method was read from something that the line spells. -/
def FunctionDoc.ReadOn (declared : FunctionDoc) (line : Line) : Prop :=
  ∃ code position, line.Spells code ∧ declared.ReadAt code line.number position

theorem FunctionDoc.readOn_of_statement {declared : FunctionDoc} {line : Line} {statement : Text}
    (spells : line.Spells (codeOf (Text.trim statement)))
    (found : functionOfStatement? statement line.number = some declared) : declared.ReadOn line := by
  have silent := comments_of_functionOfStatement? found
  unfold functionOfStatement? at found
  split_ifs at found with accepted
  obtain ⟨position, readAt⟩ := FunctionDoc.exists_readAt accepted found silent
  exact ⟨_, position, spells, readAt⟩

/-- Methods on the line of a brace. -/
theorem readOn_of_mem_inlineMembers {line : Line} {opensHere closesHere : Bool} {declared : FunctionDoc}
    (recorded : .method declared ∈
      inlineMembers (bodySegment (codeOf line.text) opensHere closesHere) line.number) :
    declared.ReadOn line := by
  unfold inlineMembers at recorded
  rcases List.mem_append.mp recorded with terminated | unterminated
  · obtain ⟨text, listed, equal⟩ := List.mem_map.mp terminated
    have among := (List.dropLast_prefix _).mem (List.mem_filter.mp listed).1
    unfold memberOfStatement at equal
    split at equal
    · rename_i function found
      cases equal
      exact FunctionDoc.readOn_of_statement (.ended among) found
    · cases equal
  · obtain ⟨function, found, equal⟩ := Option.map_eq_some_iff.mp (Option.mem_toList.mp unterminated)
    cases equal
    cases last : (splitTopLevelAt ';' (bodySegment (codeOf line.text) opensHere closesHere)).getLast? with
    | none =>
        rw [last] at found
        cases found
    | some text =>
        rw [last] at found
        dsimp only [Option.getD_some] at found
        split_ifs at found
        exact FunctionDoc.readOn_of_statement (.piece (List.mem_of_getLast? last)) found

/-! ### Lines of a source -/

def Line.IsTrimmed (line : Line) : Prop :=
  Text.trim line.text = line.text

theorem isTrimmed_of_mem_sourceLines {source : Text} {line : Line} (listed : line ∈ sourceLines source) :
    line.IsTrimmed := by
  obtain ⟨position, here⟩ := List.mem_iff_getElem?.mp listed
  obtain ⟨text, _, equal⟩ := exists_line_of_sourceLines here
  unfold Line.IsTrimmed
  rw [equal]
  exact Text.trim_trim text

/-- The code of a trimmed line is all code. -/
theorem Line.IsTrimmed.codeOf {line : Line} (trimmed : line.IsTrimmed) :
    DocSite.codeOf (Text.trim (DocSite.codeOf line.text)) = DocSite.codeOf line.text := by
  have ink : Text.StartsInk line.text := by
    rw [← trimmed]
    exact Text.startsInk_trim line.text
  rw [trim_codeOf ink, codeOf_codeOf]

/-- A function from the code of a whole line. -/
theorem FunctionDoc.exists_readAt_of_line {declared : FunctionDoc} {line : Line} {comments : List Text}
    (trimmed : line.IsTrimmed) (accepted : isFunction (codeOf line.text) = true)
    (read : parseFunction? (codeOf line.text) comments line.number = some declared) :
    ∃ position, declared.ReadAt (codeOf line.text) line.number position := by
  have same := comments_of_parseFunction? read
  unfold isFunction at accepted
  unfold parseFunction? at read
  rw [trimmed.codeOf] at accepted read
  exact FunctionDoc.exists_readAt accepted read same

/-- A method inside a body. -/
theorem readOn_of_mem_memberOfLine {before after : Int} {register : CommentRegister} {line : Line}
    {trailing : Text} {declared : FunctionDoc} (trimmed : line.IsTrimmed)
    (recorded : .method declared ∈
      (memberOfLine before after register (codeOf line.text) trailing line.number).1) :
    declared.ReadOn line := by
  unfold memberOfLine at recorded
  split_ifs at recorded with _ _ accepted
  · cases recorded
  · cases recorded
  · obtain ⟨_, read, equal⟩ := Option.map_eq_some_iff.mp (Option.mem_toList.mp recorded)
    cases equal
    obtain ⟨position, readAt⟩ := FunctionDoc.exists_readAt_of_line trimmed accepted read
    exact ⟨codeOf line.text, position, .whole, readAt⟩
  · cases recorded
  · cases List.mem_singleton.mp recorded
  · cases recorded

theorem AreInline.readOn {lines : List Line} {opensHere closesHere : Bool} {members : List AggregateMember}
    (inline : AreInline lines opensHere closesHere members) {declared : FunctionDoc}
    (recorded : .method declared ∈ members) : ∃ line ∈ lines, declared.ReadOn line := by
  rcases inline with none | ⟨line, listed, same⟩
  · rw [none] at recorded
    cases recorded
  · rw [same] at recorded
    exact ⟨line, listed, readOn_of_mem_inlineMembers recorded⟩

/-- Every method of an aggregate is read on one of the lines from its header on. -/
theorem exists_readOn_of_scanAggregate {kind : AggregateKind} {name : Text} {comments : List Text}
    {first : Line} {rest : List Line} {aggregate : AggregateDoc}
    (trimmed : ∀ line ∈ first :: rest, line.IsTrimmed)
    (scanned : (scanAggregate kind name comments first rest).1 = some aggregate) :
    ∀ declared ∈ aggregate.methods, ∃ line ∈ first :: rest, declared.ReadOn line := by
  obtain ⟨opening, closing, ⟨_, before⟩, behind, members⟩ := pendingAggregateBody_eq_inline 0 (first :: rest)
  unfold scanAggregate aggregateBody at scanned
  dsimp only at scanned
  rw [members] at scanned
  split_ifs at scanned
  cases scanned
  intro declared listed
  have recorded := AggregateMember.mem_of_mem_methods listed
  rcases List.mem_append.mp recorded with front | inClosing
  · rcases List.mem_append.mp front with inOpening | visited
    · exact before.readOn inOpening
    · obtain ⟨visit, among, here⟩ := List.mem_flatMap.mp visited
      obtain ⟨inLines, reads⟩ := pendingAggregateVisits_cases 0 (first :: rest) visit among
      rcases reads with ⟨_, none⟩ | ⟨_, reached, records⟩
      · rw [none] at here
        cases here
      · rw [records] at here
        exact ⟨visit.line, inLines, readOn_of_mem_memberOfLine (trimmed visit.line inLines) here⟩
  · exact behind.readOn inClosing

/-! ### Whole sources -/

/-- No statement is accepted, and nothing with an equals sign or a point in front of its parameter list. So every
function of a source is read from such code of a whole line, and every method from such code that its line
spells inside a body. -/
theorem signatures_recorded (file : FilePath) (source : Text) :
    (∀ line, isFunction line = true → ∃ position,
      parameterParen? (codeOf (Text.trim line)) = some position ∧
        (codeOf (Text.trim line)).DeclaresAt position) ∧
      (∀ declared ∈ (extractModule file source).functions, ∃ line ∈ sourceLines source, ∃ position,
        declared.ReadAt (codeOf line.text) line.number position) ∧
      ∀ aggregate ∈ (extractModule file source).aggregates, ∀ declared ∈ aggregate.methods,
        ∃ line ∈ sourceLines source, declared.ReadOn line := by
  have visited {entry : ModuleEntry} (listed : entry ∈ moduleEntries .empty (sourceLines source)) :
      ∃ visit ∈ moduleVisits .empty (sourceLines source), entry ∈ visit.records ∧
        visit.line :: visit.behind <:+ sourceLines source := by
    rw [moduleEntries_eq_records] at listed
    obtain ⟨visit, among, recorded⟩ := List.mem_flatMap.mp listed
    exact ⟨visit, among, recorded, suffix_of_moduleVisits .empty _ visit among⟩
  refine ⟨fun line accepted => declaresAt_of_accepted accepted, ?_, ?_⟩
  · intro declared listed
    obtain ⟨visit, among, recorded, suffix⟩ := visited (mem_of_mem_functions listed)
    have here := suffix.mem List.mem_cons_self
    obtain ⟨reached, onLine⟩ := recordedOn_of_moduleVisits .empty _ visit among _ recorded
    refine ⟨visit.line, here, ?_⟩
    cases onLine with
    | function accepted read =>
        exact FunctionDoc.exists_readAt_of_line (isTrimmed_of_mem_sourceLines here) accepted read
  · intro aggregate listed declared method
    obtain ⟨visit, among, recorded, suffix⟩ := visited (mem_of_mem_aggregates listed)
    obtain ⟨reached, onLine⟩ := recordedOn_of_moduleVisits .empty _ visit among _ recorded
    have trimmed (line : Line) (inside : line ∈ visit.line :: visit.behind) : line.IsTrimmed :=
      isTrimmed_of_mem_sourceLines (suffix.mem inside)
    cases onLine with
    | aggregate headed isKind scanned =>
        obtain ⟨line, inside, readOn⟩ := exists_readOn_of_scanAggregate trimmed scanned declared method
        exact ⟨line, suffix.mem inside, readOn⟩

/-- A method that is recorded from the line of a brace. -/
theorem signatures_recorded_inline :
    let source := "class A \x7b int f(); return g(); \x7d".toList
    (∃ position, (codeOf (Text.trim "int f();".toList)).DeclaresAt position) ∧
      ∃ aggregate ∈ (extractModule anonymousFile source).aggregates, ∃ declared ∈ aggregate.methods,
        declared.name = "f".toList ∧ ∃ line ∈ sourceLines source, declared.ReadOn line := by
  intro source
  obtain ⟨lines, _, methods⟩ := signatures_recorded anonymousFile source
  have read : (extractModule anonymousFile source).aggregates.any (fun aggregate =>
      aggregate.methods.any fun declared => decide (declared.name = "f".toList)) = true := by decide +kernel
  obtain ⟨aggregate, listed, inside⟩ := List.any_eq_true.mp read
  obtain ⟨declared, method, named⟩ := List.any_eq_true.mp inside
  obtain ⟨position, _, declares⟩ := lines "int f();".toList (by decide +kernel)
  exact ⟨⟨position, declares⟩, aggregate, listed, declared, method, of_decide_eq_true named,
    methods aggregate listed declared method⟩

/-- An initialisation whose equals sign stands behind the first parenthesis is taken for a signature. -/
theorem initialisation_recorded :
    (extractModule anonymousFile "const(char)[] s = f();".toList).functions =
      [⟨"const".toList, "void".toList, ["char".toList], [], 1, false⟩] := by
  decide +kernel

end DocSite
