/-
Linkages and names.

The keyword of a linkage is looked for in all of the text in front of the first parenthesis, in the middle of words
too, and only its first occurrence counts. A plain signature is accepted and read unless this first occurrence is
the end of its name: then the parameters are passed over as the argument of a linkage, and nothing is left.
-/
import DocSite.Proofs.Signature.Accepted
import DocSite.Proofs.Text.Occurrences

namespace DocSite

/-! ### Plain signatures -/

structure TypeToken where
  word : Text
  gap : Text
  identifier : Text.isIdentifier word = true
  noControl : word ∉ controlFlowKeywords
  noDeclaration : word ∉ declarationKeywords
  filled : gap ≠ []
  blank : ∀ character ∈ gap, isBlank character = true

def TypeToken.text (token : TypeToken) : Text :=
  token.word ++ token.gap

/-- A type of one or more words, a name and parameters. The parameters have neither parentheses nor slashes, and a
semicolon or an opening brace may follow. -/
structure PlainSignature where
  type : List TypeToken
  name : Text
  parameters : Text
  ending : Text
  typed : type ≠ []
  identifier : Text.isIdentifier name = true
  noControl : name ∉ staticControlKeywords
  noOpener : '(' ∉ parameters
  noCloser : ')' ∉ parameters
  noSlash : '/' ∉ parameters
  ends : ending ∈ [[], [';'], [' ', '\x7b']]

namespace PlainSignature

def front (signature : PlainSignature) : Text :=
  signature.type.flatMap TypeToken.text ++ signature.name

def text (signature : PlainSignature) : Text :=
  signature.front ++ '(' :: (signature.parameters ++ ')' :: signature.ending)

def endsInLinkage (signature : PlainSignature) : Bool :=
  linkageKeyword.isSuffixOf signature.name &&
    !(signature.type.any fun token => Text.includes linkageKeyword token.word) &&
      !Text.includes linkageKeyword signature.name.dropLast

end PlainSignature

/-! ### Words -/

theorem TypeToken.isWord (token : TypeToken) : Text.IsWord token.word :=
  Text.isWord_of_isIdentifier token.identifier

theorem TypeToken.endsWord_gap (token : TypeToken) (rest : Text) : Text.EndsWord (token.gap ++ rest) :=
  Text.endsWord_gap token.filled token.blank rest

theorem words_tokens (type : List TypeToken) (rest : Text) :
    Text.words (type.flatMap TypeToken.text ++ rest) = type.map TypeToken.word ++ Text.words rest := by
  induction type with
  | nil => rfl
  | cons token others ih =>
      rw [List.flatMap_cons, TypeToken.text, List.append_assoc, List.append_assoc,
        Text.words_append_gap token.isWord.ne_nil token.isWord.ink token.filled token.blank, ih]
      rfl

theorem name_or_blank_of_mem_tokens {type : List TypeToken} {character : Char}
    (member : character ∈ type.flatMap TypeToken.text) :
    isNameChar character = true ∨ isBlank character = true := by
  obtain ⟨token, _, inside⟩ := List.mem_flatMap.mp member
  rcases List.mem_append.mp inside with inWord | inGap
  · exact .inl (token.isWord.names character inWord)
  · exact .inr (token.blank character inGap)

/-- The keyword of a linkage occurs behind words if it occurs in one of them or in what follows. -/
theorem infix_tokens_iff {type : List TypeToken} {rest : Text} :
    linkageKeyword <:+: type.flatMap TypeToken.text ++ rest ↔
      (∃ token ∈ type, linkageKeyword <:+: token.word) ∨ linkageKeyword <:+: rest := by
  induction type with
  | nil => simp
  | cons token others ih =>
      rw [List.flatMap_cons, TypeToken.text, List.append_assoc, List.append_assoc,
        Text.infix_append_blanks isWord_linkageKeyword.ink isWord_linkageKeyword.ne_nil token.blank token.filled, or_congr_right ih]
      simp only [List.mem_cons, exists_eq_or_imp, or_assoc]

/-- Only what follows words has the keyword at its end. -/
theorem suffix_tokens_iff {type : List TypeToken} {rest : Text} :
    linkageKeyword <:+ type.flatMap TypeToken.text ++ rest ↔ linkageKeyword <:+ rest := by
  induction type with
  | nil => exact Iff.rfl
  | cons token others ih =>
      rw [List.flatMap_cons, TypeToken.text, List.append_assoc, List.append_assoc,
        Text.suffix_append_blanks isWord_linkageKeyword.ink token.blank token.filled]
      exact ih

/-! ### The checks -/

/-- Two words lead no statement if neither is a keyword that does. -/
theorem checkControlFlow_eq_none {token : TypeToken} {next rest : Text}
    (second : Text.isIdentifier next = true) (noStatic : next ∉ staticControlKeywords)
    (ends : Text.EndsWord rest) : checkControlFlow (token.text ++ (next ++ rest)) = none := by
  have led : Text.LedBy (token.text ++ (next ++ rest)) token.word (token.gap ++ (next ++ rest)) := by
    rw [TypeToken.text, List.append_assoc]
    exact Text.ledBy_identifier token.identifier (token.endsWord_gap _)
  have isWord := Text.isWord_of_isIdentifier second
  obtain ⟨character, others, split, name⟩ := isWord.exists_cons
  have noParenthesis : Text.beginsWith ['('] (next ++ rest) = false := by
    have different : '(' ≠ character := (ne_of_isNameChar name rfl).symm
    rw [split, List.cons_append, Text.beginsWith, Text.afterPrefix?_eq_none different]
    rfl
  unfold checkControlFlow
  rw [led.leadingWord?]
  dsimp only
  rw [Text.trimLeft_blanks_append token.blank (isWord.startsInk rest),
    leadingWord?_append (Text.startsName_self second) isWord.letters ends]
  simp [token.noControl, token.noDeclaration, noStatic, noParenthesis]

namespace PlainSignature

variable (signature : PlainSignature)

theorem isWord : Text.IsWord signature.name :=
  Text.isWord_of_isIdentifier signature.identifier

theorem name_or_blank_of_mem_front {character : Char} (member : character ∈ signature.front) :
    isNameChar character = true ∨ isBlank character = true := by
  rcases List.mem_append.mp member with inType | inName
  · exact name_or_blank_of_mem_tokens inType
  · exact .inl (signature.isWord.names character inName)

theorem not_mem_front {character : Char} (noName : isNameChar character = false)
    (ink : isBlank character = false) : character ∉ signature.front := by
  intro member
  rcases signature.name_or_blank_of_mem_front member with name | blank
  · rw [noName] at name
    cases name
  · rw [ink] at blank
    cases blank

theorem words_front : Text.words signature.front = signature.type.map TypeToken.word ++ [signature.name] := by
  unfold front
  rw [words_tokens, Text.words_eq_singleton signature.isWord.ne_nil signature.isWord.ink]

theorem closes : ')' ∈ signature.parameters ++ ')' :: signature.ending :=
  List.mem_append_right signature.parameters List.mem_cons_self

theorem checkParentheses : checkParentheses signature.text = none := by
  unfold DocSite.checkParentheses text
  rw [Text.cutAt?_append (signature.not_mem_front rfl rfl)]
  dsimp only
  rw [List.contains_iff_mem.mpr signature.closes, if_pos rfl]

theorem checkAssignment : checkAssignment signature.text = none := by
  have absent : signature.front.contains '=' = false := by
    rw [List.contains_eq_mem, decide_eq_false (signature.not_mem_front rfl rfl)]
  unfold DocSite.checkAssignment text
  rw [Text.cutAt?_append (signature.not_mem_front rfl rfl)]
  dsimp only
  rw [absent]
  rfl

/-- Behind its first word a plain signature goes on with a word. -/
theorem exists_second (others : List TypeToken) (rest : Text) :
    ∃ next behind, others.flatMap TypeToken.text ++ (signature.name ++ '(' :: rest) = next ++ behind ∧
      Text.isIdentifier next = true ∧ next ∉ staticControlKeywords ∧ Text.EndsWord behind := by
  cases others with
  | nil =>
      exact ⟨signature.name, '(' :: rest, rfl, signature.identifier, signature.noControl, Text.endsWord_cons rfl⟩
  | cons token more =>
      have controls : ∀ word ∈ staticControlKeywords, word ∈ controlFlowKeywords := by decide
      refine ⟨token.word, token.gap ++ (more.flatMap TypeToken.text ++ (signature.name ++ '(' :: rest)), ?_,
        token.identifier, fun listed => token.noControl (controls token.word listed), token.endsWord_gap _⟩
      rw [List.flatMap_cons, TypeToken.text, List.append_assoc, List.append_assoc]

theorem checkControlFlow : checkControlFlow signature.text = none := by
  cases type : signature.type with
  | nil => exact absurd type signature.typed
  | cons token others =>
      obtain ⟨next, behind, split, identifier, noStatic, ends⟩ :=
        signature.exists_second others (signature.parameters ++ ')' :: signature.ending)
      have whole : signature.text = token.text ++ (next ++ behind) := by
        unfold text front
        rw [type, ← split, List.flatMap_cons, List.append_assoc, List.append_assoc]
      rw [whole]
      exact checkControlFlow_eq_none identifier noStatic ends

theorem checkSignatureShape {before after : Text} (cut : cutAtParameters? signature.text = some (before, after))
    (same : before = signature.front) : checkSignatureShape signature.text = some true := by
  have plain : ((Text.words signature.front).any fun word => word.contains '.' || word.contains '=') = false := by
    apply List.any_eq_false.mpr
    intro word member
    have isWord : Text.IsWord word := by
      rw [words_front] at member
      rcases List.mem_append.mp member with inType | isName
      · obtain ⟨token, _, equal⟩ := List.mem_map.mp inType
        rw [← equal]
        exact token.isWord
      · rw [List.mem_singleton.mp isName]
        exact signature.isWord
    have noPoint : '.' ∉ word := fun inside => Bool.false_ne_true (isWord.names '.' inside)
    have noEquals : '=' ∉ word := fun inside => Bool.false_ne_true (isWord.names '=' inside)
    simp [noPoint, noEquals]
  unfold DocSite.checkSignatureShape
  rw [cut, same]
  dsimp only
  rw [plain, words_front]
  rcases List.eq_nil_or_concat signature.type with none | ⟨others, last, split⟩
  · exact absurd none signature.typed
  · rw [split, List.concat_eq_append, List.map_append, List.reverse_append, List.reverse_append]
    exact congrArg some (shapeOfPair_identifiers last.identifier signature.identifier)

/-! ### The parameter list -/

theorem dropLast_front : signature.front.dropLast =
    signature.type.flatMap TypeToken.text ++ signature.name.dropLast :=
  List.dropLast_append_of_ne_nil signature.isWord.ne_nil

theorem endsInLinkage_iff : signature.endsInLinkage = true ↔
    linkageKeyword <:+ signature.front ∧ ¬linkageKeyword <:+: signature.front.dropLast := by
  have occurs : linkageKeyword <:+: signature.front.dropLast ↔
      (∃ token ∈ signature.type, linkageKeyword <:+: token.word) ∨
        linkageKeyword <:+: signature.name.dropLast := by
    rw [dropLast_front, infix_tokens_iff]
  have ends : linkageKeyword <:+ signature.front ↔ linkageKeyword <:+ signature.name := suffix_tokens_iff
  rw [occurs, ends]
  unfold endsInLinkage
  simp only [Bool.and_eq_true, List.isSuffixOf_iff_suffix, Bool.not_eq_true', ← Bool.not_eq_true,
    List.any_eq_true, Text.includes_iff, not_or, and_assoc]

/-- The first occurrence of the keyword ends the front, but for blanks, exactly if it ends the name. -/
theorem endsLinked_front : signature.front.EndsLinked ↔ signature.endsInLinkage = true := by
  have filled := isWord_linkageKeyword.ne_nil
  rw [endsInLinkage_iff]
  constructor
  · intro linked
    obtain ⟨before, found, split⟩ := linked.exists_cut signature.isWord.ne_nil signature.isWord.ink
    have whole : signature.front = before ++ linkageKeyword := split
    rw [whole]
    exact ⟨List.suffix_append before linkageKeyword, Text.not_infix_of_cut? filled found⟩
  · rintro ⟨ends, first⟩
    cases found : Text.cut? linkageKeyword signature.front with
    | none => exact absurd ends.isInfix (Text.cut?_eq_none_iff.mp found)
    | some parts =>
        obtain ⟨before, between⟩ := parts
        have split := Text.eq_of_cut? found
        dsimp only at split
        refine ⟨before, between, found, ?_⟩
        cases between with
        | nil => rfl
        | cons character others =>
            -- The keyword would occur in front of the last character.
            refine absurd ?_ first
            rw [split, List.dropLast_append_of_ne_nil (List.append_ne_nil_of_left_ne_nil filled _),
              List.dropLast_append_of_ne_nil (List.cons_ne_nil character others)]
            exact ⟨before, (character :: others).dropLast, List.append_assoc _ _ _⟩

theorem noOpener_ending : '(' ∉ signature.ending := by
  have endings : ∀ ending ∈ ([[], [';'], [' ', '\x7b']] : List Text), '(' ∉ ending := by decide
  exact endings signature.ending signature.ends

theorem cutAtParameters?_text : cutAtParameters? signature.text =
    if signature.endsInLinkage then none
    else some (signature.front, signature.parameters ++ ')' :: signature.ending) := by
  have first : '(' ∉ signature.front := signature.not_mem_front rfl rfl
  unfold text
  split_ifs with linked
  · rw [cutAtParameters?_linked first (signature.endsLinked_front.mpr linked),
      Text.cutAt?_append signature.noCloser]
    dsimp only
    rw [Text.cutAt?_eq_none signature.noOpener_ending]
    rfl
  · exact cutAtParameters?_unlinked first fun isLinked => linked (signature.endsLinked_front.mp isLinked)

/-! ### Whole lines -/

theorem noSlash_text : '/' ∉ signature.text := by
  have endings : ∀ ending ∈ ([[], [';'], [' ', '\x7b']] : List Text), '/' ∉ ending := by decide
  unfold text
  simp only [List.mem_append, List.mem_cons, not_or]
  exact ⟨signature.not_mem_front rfl rfl, by decide, signature.noSlash, by decide,
    endings signature.ending signature.ends⟩

theorem trim_text : Text.trim signature.text = signature.text := by
  have starts (rest : Text) : Text.StartsInk (signature.type.flatMap TypeToken.text ++ rest) := by
    cases type : signature.type with
    | nil => exact absurd type signature.typed
    | cons token others =>
        rw [List.flatMap_cons, TypeToken.text, List.append_assoc, List.append_assoc]
        exact token.isWord.startsInk _
  have ends : ∃ others last, ')' :: signature.ending = others ++ [last] ∧ isBlank last = false := by
    have listed := signature.ends
    simp only [List.mem_cons, List.not_mem_nil, or_false] at listed
    rcases listed with none | semicolon | brace
    · exact ⟨[], ')', by rw [none]; rfl, rfl⟩
    · exact ⟨[')'], ';', by rw [semicolon]; rfl, rfl⟩
    · exact ⟨[')', ' '], '\x7b', by rw [brace]; rfl, rfl⟩
  obtain ⟨others, last, split, ink⟩ := ends
  have whole : signature.text = signature.type.flatMap TypeToken.text ++
      (signature.name ++ '(' :: (signature.parameters ++ others)) ++ [last] := by
    unfold text front
    rw [split]
    simp only [List.append_assoc, List.cons_append]
  rw [whole]
  apply Text.trim_concat _ ink
  rw [List.append_assoc]
  exact starts _

/-- A plain signature is code from end to end. -/
theorem codeOf_trim_text : codeOf (Text.trim signature.text) = signature.text :=
  codeOf_trim_eq_self (comment_eq_none signature.noSlash_text) signature.trim_text

theorem isFunction_text : isFunction signature.text = !signature.endsInLinkage := by
  unfold isFunction
  rw [codeOf_trim_text]
  have cut := signature.cutAtParameters?_text
  cases linked : signature.endsInLinkage with
  | true =>
      rw [linked, if_pos rfl] at cut
      rw [Bool.not_true, ← Bool.not_eq_true]
      intro accepted
      obtain ⟨_, _, opens, _⟩ := exists_front_of_accepted accepted
      rw [cut] at opens
      cases opens
  | false =>
      rw [linked, if_neg Bool.false_ne_true] at cut
      have shape := signature.checkSignatureShape cut rfl
      rw [Bool.not_false, isSignatureCode_iff]
      refine ⟨signature.checkParentheses, ?_⟩
      cases constructs : checkConstructor signature.text with
      | none => exact .inr ⟨rfl, signature.checkControlFlow, signature.checkAssignment, shape⟩
      | some answer =>
          cases answer with
          | true => exact .inl rfl
          | false => exact absurd constructs (checkConstructor_ne_false signature.text)

theorem name_of_parseFunction? (comments : List Text) (number : Int) :
    (parseFunction? signature.text comments number).map FunctionDoc.name =
      if signature.endsInLinkage then none else some signature.name := by
  unfold parseFunction? parseSignature?
  rw [codeOf_trim_text, cutAtParameters?_text]
  cases signature.endsInLinkage with
  | true => rfl
  | false =>
      simp only [Bool.false_eq_true, if_false]
      cases list : parameterText? (signature.parameters ++ ')' :: signature.ending) with
      | none => exact absurd signature.closes (parameterText?_eq_none_iff.mp list)
      | some parameters =>
          dsimp only
          unfold nameAndType?
          rw [words_front, List.getLast?_concat]
          dsimp only
          split_ifs <;> rfl

end PlainSignature

/-- The parameter list of a plain signature is found, the signature is accepted and its name is read, unless the
name ends in the keyword of a linkage and the keyword does not occur before. Then nothing is found, accepted or
read. -/
theorem plainSignature_read (signature : PlainSignature) :
    parameterParen? signature.text =
        (if signature.endsInLinkage then none else some signature.front.length) ∧
      isFunction signature.text = !signature.endsInLinkage ∧
      ∀ comments number, (parseFunction? signature.text comments number).map FunctionDoc.name =
        if signature.endsInLinkage then none else some signature.name := by
  refine ⟨?_, signature.isFunction_text, signature.name_of_parseFunction?⟩
  unfold parameterParen?
  rw [signature.cutAtParameters?_text]
  split_ifs <;> rfl

/-- The front has two words, and the keyword of a linkage begins the name. -/
def externalSize : PlainSignature where
  type := [⟨"const".toList, "  ".toList, by decide, by decide, by decide, by decide, List.all_eq_true.mp rfl⟩,
    ⟨"int".toList, " ".toList, by decide, by decide, by decide, by decide, List.all_eq_true.mp rfl⟩]
  name := "externSize".toList
  parameters := "int[] sizes, bool all".toList
  ending := " \x7b".toList
  typed := by decide
  identifier := by decide
  noControl := by decide
  noOpener := by decide
  noCloser := by decide
  noSlash := by decide
  ends := by decide

theorem plainSignature_read_externalSize :
    externalSize.text = "const  int externSize(int[] sizes, bool all) \x7b".toList ∧
      parameterParen? externalSize.text = some 21 ∧ isFunction externalSize.text = true ∧
        (parseFunction? externalSize.text [] 3).map FunctionDoc.name = some "externSize".toList := by
  obtain ⟨list, accepted, named⟩ := plainSignature_read externalSize
  exact ⟨by decide, list.trans (by decide), accepted.trans (by decide), (named [] 3).trans (by decide)⟩

/-- The end of a name is taken for the keyword of a linkage. -/
theorem name_taken_for_linkage :
    parameterParen? "int myextern(int x);".toList = none ∧
      isFunction "int myextern(int x);".toList = false ∧
        parseFunction? "int myextern(int x);".toList [] 0 = none := by
  decide +kernel

end DocSite
