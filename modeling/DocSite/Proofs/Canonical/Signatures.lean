/-
Canonical signatures.

None of the checks rejects a canonical signature, with or without the modifier in front, and the last check
accepts it. Reading it gives back its name, its type and its parameters.
-/
import DocSite.Proofs.Canonical.Spelling
import DocSite.Proofs.Signature.Decision

namespace DocSite.Canonical

open Text (IsWord)

/-! ### Around the parameter list -/

def Function.front (isPrivate : Bool) (function : Function) : Text :=
  privacy isPrivate ++ function.result.text

def Function.inside (function : Function) : Text :=
  Text.join [',', ' '] (function.parameters.map Variable.text)

def Function.opened (isPrivate : Bool) (function : Function) (rest : Text) : Text :=
  function.front isPrivate ++ '(' :: (function.inside ++ ')' :: rest)

theorem privacy_append_code (isPrivate : Bool) (function : Function) :
    privacy isPrivate ++ function.code =
      function.front isPrivate ++ '(' :: (function.inside ++ [')', ';']) := by
  unfold Function.code Function.front Function.inside
  rw [List.append_assoc, List.append_assoc, List.cons_append]

theorem isWord_private : IsWord privateKeyword :=
  Text.isWord_of_isIdentifier rfl

def firstWord (isPrivate : Bool) (declared : Variable) : Text :=
  if isPrivate then privateKeyword else declared.type.text

theorem exists_behind_firstWord (isPrivate : Bool) (declared : Variable) (rest : Text) :
    ∃ behind, privacy isPrivate ++ declared.text ++ rest =
      firstWord isPrivate declared ++ ' ' :: behind := by
  cases isPrivate with
  | true =>
      refine ⟨declared.text ++ rest, ?_⟩
      change privateKeyword ++ [' '] ++ declared.text ++ rest = privateKeyword ++ _
      rw [List.append_assoc, List.append_assoc]
      rfl
  | false =>
      refine ⟨declared.name.text ++ rest, ?_⟩
      change [] ++ declared.text ++ rest = declared.type.text ++ _
      rw [List.nil_append, Variable.text, List.append_assoc]
      rfl

theorem isIdentifier_firstWord (isPrivate : Bool) (declared : Variable) :
    Text.isIdentifier (firstWord isPrivate declared) = true := by
  cases isPrivate with
  | true => rfl
  | false => exact declared.type.leading.formed

theorem isWord_firstWord (isPrivate : Bool) (declared : Variable) :
    IsWord (firstWord isPrivate declared) :=
  Text.isWord_of_isIdentifier (isIdentifier_firstWord isPrivate declared)

/-- The first word is no keyword but perhaps the modifier. -/
theorem firstWord_not_mem (isPrivate : Bool) (declared : Variable) {words : List Text}
    (blocked : ∀ other ∈ words, other ∈ blockedWords) (unmodified : privateKeyword ∉ words) :
    firstWord isPrivate declared ∉ words := by
  cases isPrivate with
  | true => exact unmodified
  | false => exact declared.type.leading.not_mem blocked

theorem name_or_space_of_mem_text {declared : Variable} {character : Char}
    (member : character ∈ declared.text) : isNameChar character = true ∨ character = ' ' := by
  rcases List.mem_append.mp member with inType | behind
  · exact .inl (declared.type.leading.isWord.names character inType)
  · rcases List.mem_cons.mp behind with space | inName
    · exact .inr space
    · exact .inl (declared.name.leading.isWord.names character inName)

theorem name_or_space_of_mem_front {isPrivate : Bool} {function : Function} {character : Char}
    (member : character ∈ function.front isPrivate) :
    isNameChar character = true ∨ character = ' ' := by
  rcases List.mem_append.mp member with modifier | inText
  · cases isPrivate with
    | false => cases modifier
    | true =>
        rcases List.mem_append.mp modifier with inKeyword | space
        · exact .inl (isWord_private.names character inKeyword)
        · exact .inr (List.mem_singleton.mp space)
  · exact name_or_space_of_mem_text inText

theorem not_mem_front {isPrivate : Bool} {function : Function} {character : Char}
    (noName : isNameChar character = false) (noSpace : character ≠ ' ') :
    character ∉ function.front isPrivate := by
  intro member
  rcases name_or_space_of_mem_front member with name | space
  · rw [noName] at name
    cases name
  · exact noSpace space

theorem words_front (isPrivate : Bool) (function : Function) :
    Text.words (function.front isPrivate) =
      (if isPrivate then [privateKeyword] else []) ++
        [function.result.type.text, function.result.name.text] := by
  unfold Function.front
  cases isPrivate with
  | true =>
      change Text.words (privateKeyword ++ [' '] ++ function.result.text) = _
      rw [List.append_assoc, List.singleton_append,
        Text.words_append_blank isWord_private.ne_nil isWord_private.ink rfl,
        function.result.words_text]
      rfl
  | false => exact function.result.words_text

theorem cut?_linkage_front (isPrivate : Bool) (function : Function) :
    Text.cut? linkageKeyword (function.front isPrivate) = none := by
  have plain : Text.cut? linkageKeyword function.result.text = none :=
    Text.cut?_append_blank (by decide) (by decide) function.result.type.leading.unlinked
      function.result.name.leading.unlinked
  unfold Function.front
  cases isPrivate with
  | true =>
      change Text.cut? linkageKeyword (privateKeyword ++ [' '] ++ function.result.text) = none
      rw [List.append_assoc, List.singleton_append]
      exact Text.cut?_append_blank (by decide) (by decide) (by decide) plain
  | false => exact plain

section Code

variable (isPrivate : Bool) (function : Function) (rest : Text)

theorem cutAt?_opened : Text.cutAt? '(' (function.opened isPrivate rest) =
    some (function.front isPrivate, function.inside ++ ')' :: rest) :=
  Text.cutAt?_append (not_mem_front rfl (by decide)) _

theorem cutAtParameters?_opened : cutAtParameters? (function.opened isPrivate rest) =
    some (function.front isPrivate, function.inside ++ ')' :: rest) := by
  unfold cutAtParameters?
  rw [cutAt?_opened]
  dsimp only
  rw [cut?_linkage_front]

/-! ### The checks -/

theorem checkParentheses_opened : checkParentheses (function.opened isPrivate rest) = none := by
  unfold checkParentheses
  rw [cutAt?_opened]
  dsimp only
  rw [if_pos]
  rw [List.contains_iff_mem]
  exact List.mem_append_right _ List.mem_cons_self

theorem opened_eq_firstWord : ∃ behind,
    function.opened isPrivate rest = firstWord isPrivate function.result ++ ' ' :: behind :=
  exists_behind_firstWord isPrivate function.result ('(' :: (function.inside ++ ')' :: rest))

theorem checkConstructor_opened : checkConstructor (function.opened isPrivate rest) = none := by
  obtain ⟨behind, unmodified⟩ := opened_eq_firstWord false function rest
  change function.opened false rest = function.result.type.text ++ ' ' :: behind at unmodified
  have plain : startsConstructor (function.opened false rest) = false := by
    rw [unmodified]
    exact startsConstructor_word function.result.type.leading.isWord
      (function.result.type.leading.ne (by decide)) behind
  unfold checkConstructor
  cases isPrivate with
  | false =>
      have noModifier : afterAccessModifier? (function.opened false rest) = none := by
        rw [unmodified]
        exact afterAccessModifier?_word function.result.type.leading.isWord
          (function.result.type.leading.not_mem (by decide)) behind
      rw [plain, noModifier]
      rfl
  | true =>
      have modified : function.opened true rest =
          privateKeyword ++ ' ' :: function.opened false rest := by
        change privateKeyword ++ [' '] ++ function.result.text ++ _ = _
        rw [List.append_assoc, List.append_assoc, List.singleton_append]
        rfl
      have behindModifier : afterAccessModifier? (privateKeyword ++ ' ' :: function.opened false rest) =
          some (function.opened false rest) := by
        have found := spacedKeyword?_eq_some Text.trimLeft isWord_private
          (show ∀ keyword ∈ accessModifiers, spelled keyword = true by decide) (by decide)
          (function.opened false rest)
        have ink : Text.StartsInk (function.opened false rest) := by
          rw [unmodified]
          exact Text.IsWord.startsInk function.result.type.leading.isWord _
        have dropped : Text.trimLeft (' ' :: function.opened false rest) =
            function.opened false rest :=
          Text.trimLeft_eq_self ink
        rw [dropped] at found
        exact found
      rw [modified, startsConstructor_word isWord_private (by decide), behindModifier,
        Option.map_some, plain]
      rfl

theorem checkControlFlow_opened : checkControlFlow (function.opened isPrivate rest) = none := by
  obtain ⟨behind, equal⟩ := opened_eq_firstWord isPrivate function rest
  rw [equal]
  have isWord := isWord_firstWord isPrivate function.result
  have starts : Text.startsName (firstWord isPrivate function.result) = true := by
    have named := Text.startsName_of_isIdentifier
      (isIdentifier_firstWord isPrivate function.result) []
    rw [List.append_nil] at named
    exact named
  have open_ : afterClosedBlocks (firstWord isPrivate function.result ++ ' ' :: behind) =
      firstWord isPrivate function.result ++ ' ' :: behind := by
    obtain ⟨character, rest, word, name⟩ := isWord.exists_cons
    have closer : character ≠ '\x7d' := ne_of_isNameChar name rfl
    have space : character ≠ ' ' := ne_of_isNameChar name rfl
    have tab : character ≠ '\t' := ne_of_isNameChar name rfl
    rw [word]
    unfold afterClosedBlocks
    rw [List.cons_append, List.dropWhile_cons_of_neg]
    simp only [Bool.or_eq_true, beq_iff_eq, closer, space, tab, or_self, not_false_eq_true]
  have noFlow := firstWord_not_mem isPrivate function.result
    (show ∀ other ∈ controlFlowKeywords, other ∈ blockedWords by decide) (by decide)
  have noDeclaration := firstWord_not_mem isPrivate function.result
    (show ∀ other ∈ declarationKeywords, other ∈ blockedWords by decide) (by decide)
  have noGuard := firstWord_not_mem isPrivate function.result
    (show ∀ other ∈ guardedKeywords, other ∈ blockedWords by decide) (by decide)
  have noStatic := firstWord_not_mem isPrivate function.result
    (show ∀ other ∈ ["static".toList], other ∈ blockedWords by decide) (by decide)
  rw [List.mem_singleton] at noStatic
  unfold checkControlFlow
  rw [open_, leadingWord?_append starts isWord.letters (endsWord_space behind)]
  dsimp only
  rw [List.contains_eq_mem, List.contains_eq_mem, decide_eq_false noFlow,
    decide_eq_false noDeclaration, beq_eq_false_iff_ne.mpr noStatic, List.contains_eq_mem,
    decide_eq_false noGuard]
  rfl

theorem checkAssignment_opened : checkAssignment (function.opened isPrivate rest) = none := by
  have absent : (function.front isPrivate).contains '=' = false := by
    rw [List.contains_eq_mem, decide_eq_false (not_mem_front rfl (by decide))]
  unfold checkAssignment
  rw [cutAt?_opened]
  dsimp only
  rw [absent]
  rfl

theorem checkSignatureShape_opened :
    checkSignatureShape (function.opened isPrivate rest) = some true := by
  have plain : ((Text.words (function.front isPrivate)).any fun word =>
      word.contains '.' || word.contains '=') = false := by
    apply List.any_eq_false.mpr
    intro word member
    have isWord : IsWord word := by
      rw [words_front] at member
      rcases List.mem_append.mp member with modifier | inText
      · cases isPrivate with
        | true =>
            rw [List.mem_singleton.mp modifier]
            exact Text.isWord_of_isIdentifier rfl
        | false => cases modifier
      · rcases List.mem_cons.mp inText with type | name
        · rw [type]
          exact function.result.type.leading.isWord
        · rw [List.mem_singleton.mp name]
          exact function.result.name.leading.isWord
    have noDot : '.' ∉ word := fun inside => by cases isWord.names '.' inside
    have noSign : '=' ∉ word := fun inside => by cases isWord.names '=' inside
    rw [List.contains_eq_mem, List.contains_eq_mem, decide_eq_false noDot, decide_eq_false noSign]
    exact Bool.false_ne_true
  unfold checkSignatureShape
  rw [cutAtParameters?_opened]
  dsimp only
  rw [plain, words_front, List.reverse_append]
  exact congrArg some (shapeOfPair_identifiers function.result.type.leading.formed function.result.name.formed)

/-- Whatever follows the parameter list, the code is a signature. -/
theorem isSignatureCode_opened : isSignatureCode (function.opened isPrivate rest) = true := by
  unfold isSignatureCode signatureChecks
  simp only [List.findSome?_cons, checkParentheses_opened, checkConstructor_opened,
    checkControlFlow_opened, checkAssignment_opened, checkSignatureShape_opened, Option.getD_some]

end Code

theorem code_eq_firstWord (isPrivate : Bool) (function : Function) : ∃ behind,
    privacy isPrivate ++ function.code = firstWord isPrivate function.result ++ ' ' :: behind := by
  rw [privacy_append_code]
  exact opened_eq_firstWord isPrivate function [';']

theorem isSignatureCode_code (isPrivate : Bool) (function : Function) :
    isSignatureCode (privacy isPrivate ++ function.code) = true := by
  rw [privacy_append_code]
  exact isSignatureCode_opened isPrivate function [';']

/-! ### Reading -/

theorem comma_not_mem_text (declared : Variable) : ',' ∉ declared.text := by
  intro member
  rcases name_or_space_of_mem_text member with name | space
  · cases name
  · cases space

theorem splitTopLevelAt_parameters (lead : Text) (blank : lead = [] ∨ lead = [' '])
    (first : Variable) (further : List Variable) :
    splitTopLevelAt ',' (lead ++ Text.join [',', ' '] ((first :: further).map Variable.text)) =
      (first :: further).map Variable.text := by
  have leadSoft : Soft lead := by
    rcases blank with none | space
    · rw [none]
      exact soft_nil
    · rw [space]
      exact .cons rfl soft_nil
  have leadPlain : ',' ∉ lead := by
    rcases blank with none | space
    · rw [none]
      exact List.not_mem_nil
    · rw [space]
      decide
  have trimmed (declared : Variable) : Text.trim (lead ++ declared.text) = declared.text := by
    rcases blank with none | space
    · rw [none]
      exact declared.trim_text
    · rw [space, List.singleton_append, Text.trim_cons_blank rfl, declared.trim_text]
  have absent (declared : Variable) : ',' ∉ lead ++ declared.text := by
    rw [List.mem_append, not_or]
    exact ⟨leadPlain, comma_not_mem_text declared⟩
  induction further generalizing lead first with
  | nil =>
      change splitTopLevelAt ',' (lead ++ first.text) = [first.text]
      rw [splitTopLevelAt_piece (leadSoft.append first.soft).flat (absent first), trimmed]
  | cons second further ih =>
      change splitTopLevelAt ',' (lead ++ (first.text ++ [',', ' '] ++
        Text.join [',', ' '] ((second :: further).map Variable.text))) = _
      rw [← List.append_assoc, ← List.append_assoc, List.append_assoc (lead ++ first.text)]
      change splitTopLevelAt ',' ((lead ++ first.text) ++ ',' :: ([' '] ++
        Text.join [',', ' '] ((second :: further).map Variable.text))) = _
      rw [splitTopLevelAt_append (leadSoft.append first.soft).flat (absent first) rfl, trimmed]
      have behind := ih [' '] (.inr rfl) second (.cons rfl soft_nil) (by decide)
        (fun declared => by
          rw [List.singleton_append, Text.trim_cons_blank rfl, declared.trim_text])
        (fun declared => by
          rw [List.singleton_append, List.mem_cons, not_or]
          exact ⟨by decide, comma_not_mem_text declared⟩)
      rw [behind]
      rfl

theorem soft_inside (function : Function) : Soft function.inside := by
  unfold Function.inside
  induction function.parameters with
  | nil => exact soft_nil
  | cons first further ih =>
      cases further with
      | nil => exact first.soft
      | cons second further =>
          exact (first.soft.append (.cons rfl (.cons rfl soft_nil))).append ih

theorem parameters_inside (function : Function) :
    (splitTopLevelAt ',' function.inside).filter (fun piece => !piece.isEmpty) =
      function.parameters.map Variable.text := by
  unfold Function.inside
  cases function.parameters with
  | nil => rfl
  | cons first further =>
      have split := splitTopLevelAt_parameters [] (.inl rfl) first further
      rw [List.nil_append] at split
      rw [split]
      apply List.filter_eq_self.mpr
      intro piece member
      obtain ⟨declared, _, equal⟩ := List.mem_map.mp member
      have filled : declared.text.isEmpty = false :=
        declared.type.leading.isWord.isEmpty_append (' ' :: declared.name.text)
      rw [← equal, filled]
      rfl

/-- A second parenthesis directly behind the list would make the list one of template parameters. -/
theorem parameterText?_inside (function : Function) {rest : Text}
    (single : (Text.trimLeft rest).head? ≠ some '(') :
    parameterText? (function.inside ++ ')' :: rest) = some function.inside := by
  unfold parameterText?
  rw [cutParenthesis?_append (soft_inside function).flat]
  dsimp only
  split
  · rename_i second begins
    rw [begins] at single
    exact absurd rfl single
  · rfl

theorem isPrivateDeclaration_text (isPrivate : Bool) (declared : Variable) (rest : Text) :
    isPrivateDeclaration (privacy isPrivate ++ declared.text ++ rest) = isPrivate := by
  obtain ⟨behind, equal⟩ := exists_behind_firstWord isPrivate declared rest
  have isWord := isWord_firstWord isPrivate declared
  unfold isPrivateDeclaration Text.firstWord?
  rw [equal, Text.words_append_blank isWord.ne_nil
    (fun character member => isBlank_of_isNameChar (isWord.names character member)) rfl]
  cases isPrivate with
  | true => rfl
  | false =>
      have other : declared.type.text ≠ privateKeyword := declared.type.leading.ne (by decide)
      change (some declared.type.text == some privateKeyword) = false
      rw [beq_eq_false_iff_ne]
      exact fun same => other (Option.some.inj same)

theorem nameAndType?_front (isPrivate : Bool) (function : Function) :
    nameAndType? (Text.words (function.front isPrivate)) =
      some (function.result.name.text, privacy isPrivate ++ function.result.type.text) := by
  have noConstructor : isConstructorName function.result.name.text = false := by
    have isWord := function.result.name.leading.isWord
    have noThis : function.result.name.text ≠ "this".toList :=
      function.result.name.leading.ne (by decide)
    have noTilde : function.result.name.text ≠ "~this".toList := by
      intro same
      have names := isWord.names '~' (by rw [same]; exact List.mem_cons_self)
      cases names
    unfold isConstructorName
    rw [beq_eq_false_iff_ne.mpr noThis, beq_eq_false_iff_ne.mpr noTilde]
    rfl
  rw [words_front]
  unfold nameAndType?
  cases isPrivate with
  | true =>
      change (if isConstructorName function.result.name.text then
        some (function.result.name.text, [])
        else some (function.result.name.text, privateKeyword ++ [' '] ++ function.result.type.text)) = _
      rw [noConstructor]
      rfl
  | false =>
      change (if isConstructorName function.result.name.text then
        some (function.result.name.text, [])
        else some (function.result.name.text, function.result.type.text)) = _
      rw [noConstructor]
      rfl

theorem parseSignature?_opened (isPrivate : Bool) (function : Function) {rest : Text}
    (single : (Text.trimLeft rest).head? ≠ some '(') (comments : List Text) (line : Int) :
    parseSignature? (function.opened isPrivate rest) comments line =
      some { name := function.result.name.text
             returnType := privacy isPrivate ++ function.result.type.text
             parameters := function.parameters.map Variable.text
             comments := comments
             line := line
             isPrivate := isPrivate } := by
  have hidden : isPrivateDeclaration (function.opened isPrivate rest) = isPrivate :=
    isPrivateDeclaration_text isPrivate function.result _
  unfold parseSignature?
  rw [cutAtParameters?_opened]
  dsimp only
  rw [parameterText?_inside function single]
  dsimp only
  rw [nameAndType?_front, parameters_inside, hidden]
  rfl

theorem parseSignature?_code (isPrivate : Bool) (function : Function) (comments : List Text)
    (line : Int) : parseSignature? (privacy isPrivate ++ function.code) comments line =
      some { name := function.result.name.text
             returnType := privacy isPrivate ++ function.result.type.text
             parameters := function.parameters.map Variable.text
             comments := comments
             line := line
             isPrivate := isPrivate } := by
  rw [privacy_append_code]
  exact parseSignature?_opened isPrivate function (by decide) comments line

end DocSite.Canonical
