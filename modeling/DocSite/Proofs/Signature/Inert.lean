/-
What is inert in a text.

The reader of lines passes over literals and comments. The readers of pieces pass over literals and know no
comments, so in front of every position it is their quotation alone that tells whether a separator cuts and a
bracket counts. The main statement says this for every position, says up to where both readers take the same
literals for literals, and what this means for comments and for the parameters of a signature.
-/
import DocSite.Proofs.Signature.ParameterList
import DocSite.Proofs.Source.Alike
import DocSite.Proofs.Source.InStep

namespace DocSite

open Cursor (slice)

/-! ### Parameter lists that are alike -/

section Groups

variable {after inside rest : Text} (closed : cutParenthesis? after = some (inside, rest))

include closed

/-- The parameters stand in the second group of parentheses, if that is closed. -/
theorem parameterText?_second {second : Text} (begins : Text.trimLeft rest = '(' :: second) :
    parameterText? after = some (((cutParenthesis? second).map Prod.fst).getD inside) := by
  unfold parameterText?
  rw [closed]
  dsimp only
  rw [begins]
  cases again : cutParenthesis? second with
  | none => simp only [again, Option.map_none, Option.getD_none]
  | some parts => simp only [again, Option.map_some, Option.getD_some]

theorem parameterText?_first (single : (Text.trimLeft rest).head? ≠ some '(') :
    parameterText? after = some inside := by
  unfold parameterText?
  rw [closed]
  dsimp only
  split
  · rename_i begins
    rw [begins] at single
    exact absurd rfl single
  · rfl

end Groups

theorem exists_of_rel {α β : Type} {relation : α → β → Prop} {found : Option α} {foundOther : Option β}
    (related : Option.Rel relation found foundOther) (filled : found ≠ none) :
    ∃ value other, found = some value ∧ foundOther = some other ∧ relation value other := by
  cases related with
  | none => exact absurd rfl filled
  | some related => exact ⟨_, _, rfl, rfl, related⟩

theorem alikeOutside_getD {stop : Quotation} {text other : Text} {found foundOther : Option (Text × Text)}
    (related : Option.Rel (AlikeParts .outside stop) found foundOther) (alike : AlikeOutside text other) :
    AlikeOutside ((found.map Prod.fst).getD text) ((foundOther.map Prod.fst).getD other) := by
  cases related with
  | none => exact alike
  | some related => exact related.inside

/-- A list that is closed is read alike from alike texts. -/
theorem Alike.parameterText? {stop : Quotation} {after other : Text} (alike : Alike .outside stop after other)
    (closed : cutParenthesis? after ≠ none) :
    ∃ parameters parametersOther, DocSite.parameterText? after = some parameters ∧
      DocSite.parameterText? other = some parametersOther ∧ AlikeOutside parameters parametersOther := by
  have first : Option.Rel (AlikeParts .outside stop) (cutParenthesis? after) (cutParenthesis? other) :=
    alike.cutAtCloser? rfl 1
  obtain ⟨⟨inside, rest⟩, ⟨insideOther, restOther⟩, cut, cutOther, alikeInside, behind⟩ := exists_of_rel first closed
  rcases behind.trimLeft.cons_cases with
    ⟨nothing, nothingOther, -⟩ | ⟨character, same, second, secondOther, begins, beginsOther, equal, -, further⟩
  · exact ⟨inside, insideOther, parameterText?_first cut (by simp [nothing]),
      parameterText?_first cutOther (by simp [nothingOther]), alikeInside⟩
  · cases equal rfl
    by_cases opens : character = '('
    · subst opens
      have related : Option.Rel (AlikeParts .outside stop) (cutParenthesis? second) (cutParenthesis? secondOther) :=
        further.cutAtCloser? rfl 1
      exact ⟨_, _, parameterText?_second cut begins, parameterText?_second cutOther beginsOther,
        alikeOutside_getD related alikeInside⟩
    · exact ⟨inside, insideOther, parameterText?_first cut (by simp [begins, opens]),
        parameterText?_first cutOther (by simp [beginsOther, opens]), alikeInside⟩

theorem Alike.splitTopLevelAt {text other : Text} (alike : AlikeOutside text other) (separator : Char) :
    List.Forall₂ AlikeOutside (DocSite.splitTopLevelAt separator text) (DocSite.splitTopLevelAt separator other) := by
  obtain ⟨first, rest, firstOther, restOther, segments, segmentsOther, alikeFirst, alikeRest⟩ :=
    @Alike.topLevelSegments _ _ _ _ (· == separator) alike rfl 0
  unfold DocSite.splitTopLevelAt DocSite.splitTopLevel
  rw [segments, segmentsOther]
  exact List.rel_map (fun _ _ piece => Alike.trim piece) (.cons alikeFirst alikeRest)

theorem mem_of_cutParenthesis? {after : Text} (closed : cutParenthesis? after ≠ none) : ')' ∈ after := by
  obtain ⟨parts, cut⟩ := Option.ne_none_iff_exists'.mp closed
  rw [Cursor.eq_of_cutAtCloser? cut]
  exact List.mem_append_right _ List.mem_cons_self

/-- The opener of a list that is closed is found whatever follows it. -/
theorem cutAtParameters?_replaced {code before after : Text} (cut : cutAtParameters? code = some (before, after))
    (closed : cutParenthesis? after ≠ none) (other : Text) :
    cutAtParameters? (before ++ '(' :: other) = some (before, other) := by
  rcases cutAtParameters?_cases cut with ⟨first, linked⟩ | ⟨front, argument, behind, isLinked, rfl⟩
  · exact cutAtParameters?_unlinked first fun isLinked => linked isLinked (mem_of_cutParenthesis? closed)
  · exact IsLinkedCode.cutAtParameters? ⟨rfl, isLinked.linked, isLinked.first, isLinked.closer, isLinked.next⟩

/-- The same function but for characters inside the literals of its parameters. -/
structure FunctionDoc.Alike (declared other : FunctionDoc) : Prop where
  name : other.name = declared.name
  returnType : other.returnType = declared.returnType
  parameters : List.Forall₂ AlikeOutside declared.parameters other.parameters

theorem FunctionDoc.Alike.lengths {declared other : FunctionDoc} (alike : declared.Alike other) :
    other.parameters.map List.length = declared.parameters.map List.length :=
  lengths_eq alike.parameters

theorem parseSignature?_alike {code before after other : Text} {stop : Quotation} {comments : List Text}
    {number : Int} {declared : FunctionDoc} (cut : cutAtParameters? code = some (before, after))
    (closed : cutParenthesis? after ≠ none) (alike : DocSite.Alike .outside stop after other)
    (parsed : parseSignature? code comments number = some declared) :
    ∃ again, parseSignature? (before ++ '(' :: other) comments number = some again ∧ declared.Alike again := by
  obtain ⟨parameters, parametersOther, read, readOther, alikeLists⟩ := alike.parameterText? closed
  have filled : ∀ ⦃piece pieceOther : Text⦄, AlikeOutside piece pieceOther →
      ((!piece.isEmpty) = true ↔ (!pieceOther.isEmpty) = true) := by
    intro piece pieceOther related
    obtain ⟨rfl, rfl, -⟩ | ⟨_, _, _, _, rfl, rfl, -⟩ := related.cons_cases
    · exact Iff.rfl
    · exact Iff.rfl
  unfold parseSignature? at parsed ⊢
  rw [cut] at parsed
  rw [cutAtParameters?_replaced cut closed]
  dsimp only at parsed ⊢
  rw [read] at parsed
  rw [readOther]
  dsimp only at parsed ⊢
  obtain ⟨named, found, rfl⟩ := Option.map_eq_some_iff.mp parsed
  refine ⟨_, Option.map_eq_some_iff.mpr ⟨named, found, rfl⟩, rfl, rfl, ?_⟩
  exact List.rel_filter filled (DocSite.Alike.splitTopLevelAt alikeLists ',')

/-! ### Replaced characters -/

/-- Behind a bracket that is bare the quotation is that of what stands between. -/
theorem isBare_behind_opener {text : Text} {start position : Nat} {opener : Char} (bare : IsBare text start)
    (found : text[start]? = some opener) (opens : isOpener opener = true) (order : start < position) :
    IsBare text position ↔ Quotation.outside.after (slice text (start + 1) position) = .outside := by
  have unquoted : isQuoteMark opener = false := by
    unfold isOpener closerOf? at opens
    split at opens
    · rfl
    · rfl
    · rfl
    · cases opens
  have inside : IsBare text (start + 1) := by
    unfold IsBare
    rw [quotationAt_succ found, bare]
    exact if_neg (Bool.not_eq_true _ ▸ unquoted)
  exact inside.isBare_iff order

/-- One idle character in the place of another inside a literal of a parameter list. The list opens in a bare
position and is closed. -/
structure InertReplacement (code : Text) where
  before : Text
  after : Text
  position : Nat
  first : Char
  second : Char
  cut : cutAtParameters? code = some (before, after)
  opener : IsBare code before.length
  closed : cutParenthesis? after ≠ none
  behind : before.length < position
  found : code[position]? = some first
  inert : ¬IsBare code position
  idle : Quotation.isIdle first = true
  idleToo : Quotation.isIdle second = true

namespace InertReplacement

variable {code : Text} (replacement : InertReplacement code)

def result : Text :=
  code.set replacement.position replacement.second

/-- The replacement is one in the text behind the opener of the list. -/
theorem exists_alike :
    ∃ other stop, replacement.result = replacement.before ++ '(' :: other ∧
      Alike .outside stop replacement.after other := by
  obtain ⟨before, after, position, first, second, cut, opener, closed, behind, found, inert, idle, idleToo⟩ :=
    replacement
  have whole : code = before ++ '(' :: after := Cursor.eq_of_cutAtParameters? cut
  obtain ⟨offset, rfl⟩ := Nat.exists_eq_add_of_lt behind
  have past : before.length + offset + 1 - before.length = offset + 1 := by omega
  have here : code[before.length]? = some '(' := by
    rw [whole, List.getElem?_append_right le_rfl, Nat.sub_self]
    rfl
  have inList : after[offset]? = some first := by
    rw [whole, List.getElem?_append_right (by omega), past] at found
    exact found
  have between : slice code (before.length + 1) (before.length + offset + 1) = after.take offset := by
    unfold slice
    rw [List.drop_take, whole, Cursor.drop_behind]
    congr 1
    omega
  rw [isBare_behind_opener opener here rfl behind, between] at inert
  refine ⟨after.set offset second, _, ?_, Alike.set trivial inList inert idle idleToo⟩
  unfold result
  dsimp only
  rw [whole, List.set_append_right _ _ (by omega), past]
  rfl

theorem parseSignature? {comments : List Text} {number : Int} {declared : FunctionDoc}
    (parsed : DocSite.parseSignature? code comments number = some declared) :
    ∃ again, DocSite.parseSignature? replacement.result comments number = some again ∧ declared.Alike again := by
  obtain ⟨other, stop, replaced, alike⟩ := replacement.exists_alike
  rw [replaced]
  exact parseSignature?_alike replacement.cut replacement.closed alike parsed

end InertReplacement

/-! ### Both readers -/

/-- What is inert at the positions of a text, for the reader of lines and for the readers of pieces. -/
structure InertPositions (text : Text) : Prop where
  /-- The pieces with separators between them are the text. -/
  pieces : ∀ separator, Text.join [separator] (topLevelSegments (· == separator) .outside 0 text) = text
  /-- It is cut at the separators in bare positions outside brackets. -/
  cuts : ∀ separator position,
    position ∈ cutsOf (topLevelSegments (· == separator) .outside 0 text) ↔
      text[position]? = some separator ∧ isFlat separator = true ∧ IsBare text position ∧
        (nestingAt text position).depth = 0
  /-- The depth moves at the brackets in bare positions. -/
  depth : ∀ position character, text[position]? = some character →
    (IsBare text position →
        (nestingAt text (position + 1)).depth = depthAfter (nestingAt text position).depth character) ∧
      (¬IsBare text position → (nestingAt text (position + 1)).depth = (nestingAt text position).depth)
  /-- A closer is found by the bare brackets of its form behind the opener. -/
  closers : ∀ start stop opener closer, text[start]? = some opener → closerOf? opener = some closer →
    (findClosing text start = .ok (some stop) ↔
      start < stop ∧ text[stop]? = some closer ∧
        ComesToClose opener closer .outside 1 (slice text (start + 1) stop))
  /-- Behind an opener that is bare itself, those are the brackets in bare positions of the text. -/
  behindOpener : ∀ start position opener, IsBare text start → text[start]? = some opener →
    isOpener opener = true → start < position →
      (IsBare text position ↔ Quotation.outside.after (slice text (start + 1) position) = .outside)
  /-- The reader of lines reads on from its state at each position. -/
  states : ∀ position zone bound, stateAt text position = some (zone, bound) →
    ∃ front : CodeScan, front.code = text.take position ∧
      scanCode text = front.followedBy (CodeScan.ofText zone bound (text.drop position))
  /-- As long as the readers stay in step, and no longer, the bare positions outside comments are those in code. -/
  inStep : ∀ limit, StaysInStep text limit ↔ ∀ position zone bound, position ≤ limit →
    stateAt text position = some (zone, bound) → zone ≠ .block → (IsBare text position ↔ zone = .code)
  /-- In a comment that begins in a bare position, only the comment's own literals are not bare. -/
  comments : ∀ start position, IsBare text start → IsInComment text start position →
    (IsBare text position ↔ Quotation.outside.after (slice text start position) = .outside)
  /-- So as long as they stay in step, nothing is cut or counted in what the reader of lines takes for literals. -/
  literals : ∀ limit position zone bound, StaysInStep text limit → position ≤ limit →
    stateAt text position = some (zone, bound) → zone ≠ .code → zone ≠ .block →
      (∀ separator, position ∉ cutsOf (topLevelSegments (· == separator) .outside 0 text)) ∧
        (nestingAt text (position + 1)).depth = (nestingAt text position).depth
  /-- In the code of a signature no inert character changes the number or the extent of the parameters. -/
  parameters : ∀ (replacement : InertReplacement text) line changed comments number declared,
    codeOf (Text.trim line) = text → codeOf (Text.trim changed) = replacement.result →
      parseFunction? line comments number = some declared →
        ∃ again, parseFunction? changed comments number = some again ∧ declared.Alike again ∧
          again.parameters.map List.length = declared.parameters.map List.length

theorem cuts_iff (text : Text) (separator : Char) (position : Nat) :
    position ∈ cutsOf (topLevelSegments (· == separator) .outside 0 text) ↔
      text[position]? = some separator ∧ isFlat separator = true ∧ IsBare text position ∧
        (nestingAt text position).depth = 0 := by
  refine (mem_cutsOf_topLevelSegments (· == separator) .top text position).trans ?_
  rw [← nestingAt_eq_top_iff]
  constructor
  · rintro ⟨character, found, same, flat, top⟩
    cases beq_iff_eq.mp same
    exact ⟨found, flat, top⟩
  · rintro ⟨found, flat, top⟩
    exact ⟨separator, found, beq_self_eq_true separator, flat, top⟩

/-- At every position of every text, separators cut and brackets count exactly if it is bare. That is the reading of
lines for literals as long as the two stay in step, and it is another one for comments. -/
theorem inertPositions (text : Text) : InertPositions text where
  pieces separator := join_topLevelSegments separator .top text
  cuts := cuts_iff text
  depth _ _ found := depth_nestingAt_succ found
  closers _ _ _ _ found closes := findClosing_eq_ok_iff found closes
  behindOpener _ _ _ bare found opens order := isBare_behind_opener bare found opens order
  states _ _ _ here := scanCode_eq_followedBy here
  inStep _ := staysInStep_iff
  comments _ _ bare inComment := bare.isBare_iff inComment.order.le
  literals limit position zone bound stays upTo here literal outside := by
    have inert : ¬IsBare text position := fun bare => literal ((staysInStep_iff.mp stays _ _ _ upTo here outside).mp bare)
    refine ⟨fun separator cut => inert ((cuts_iff text separator position).mp cut).2.2.1, ?_⟩
    cases found : text[position]? with
    | none =>
        have long := List.getElem?_eq_none_iff.mp found
        unfold nestingAt
        rw [List.take_of_length_le long, List.take_of_length_le (Nat.le_succ_of_le long)]
    | some character => exact (depth_nestingAt_succ found).2 inert
  parameters replacement line changed comments number declared same replaced parsed := by
    subst same
    unfold parseFunction? at parsed ⊢
    rw [replaced]
    obtain ⟨again, read, alike⟩ := replacement.parseSignature? parsed
    exact ⟨again, read, alike, alike.lengths⟩

/-- The comma in the default value of a parameter is replaced by a parenthesis. -/
def commaInValue : InertReplacement "void f(string s = \"a, b\", int n);".toList where
  before := "void f".toList
  after := "string s = \"a, b\", int n);".toList
  position := 20
  first := ','
  second := ')'
  cut := by decide
  opener := by unfold IsBare; decide
  closed := by decide
  behind := by decide
  found := by decide
  inert := by unfold IsBare; decide
  idle := by decide
  idleToo := by decide

theorem inertPositions_commaInValue :
    ∃ again, parseFunction? "void f(string s = \"a) b\", int n);".toList [] 1 = some again ∧
      again.parameters.map List.length = [17, 5] := by
  have parsed : ∃ declared, parseFunction? "void f(string s = \"a, b\", int n);".toList [] 1 = some declared ∧
      declared.parameters.map List.length = [17, 5] := ⟨_, rfl, by decide⟩
  obtain ⟨declared, read, lengths⟩ := parsed
  obtain ⟨again, readAgain, -, same⟩ := (inertPositions _).parameters commaInValue
    "void f(string s = \"a, b\", int n);".toList "void f(string s = \"a) b\", int n);".toList [] 1 declared
    (by decide) (by decide) read
  exact ⟨again, readAgain, same.trans lengths⟩

/-- A comma in a comment stands in a bare position and cuts, and so does one in a literal behind an escaped quote
mark. -/
theorem comment_not_inert :
    (stateAt "void f(int a /* , */, int b)".toList 16 = some (.block, false) ∧
      IsBare "void f(int a /* , */, int b)".toList 16 ∧
      (parseFunction? "void f(int a /* , */, int b)".toList [] 0).map FunctionDoc.parameters =
        some ["int a /*".toList, "*/".toList, "int b".toList]) ∧
    stateAt "\\\"\",".toList 3 = some (.string, false) ∧
      3 ∈ cutsOf (topLevelSegments (· == ',') .outside 0 "\\\"\",".toList) := by
  refine ⟨⟨rfl, rfl, rfl⟩, rfl, ?_⟩
  decide

end DocSite
