/-
Canonical lines.

A line of a comment goes to the register. Every other canonical line is code that fills its line, and it is
what its kind says: a field or a method, a signature, the header of a container, the name of a module or an
import.
-/
import DocSite.Proofs.Canonical.Signatures

namespace DocSite.Canonical

open Text (IsWord)

/-! ### Comments -/

theorem trim_commentLine {line : Text} (trimmed : Text.trim line = line) :
    ∃ rest, Text.trim ("/// ".toList ++ line) = '/' :: '/' :: '/' :: rest ∧
      Text.trim rest = line ∧ rest.dropWhile (· == '/') = rest := by
  have starts (text : Text) : Text.StartsInk ('/' :: text) := Text.startsInk_cons rfl
  by_cases empty : line = []
  · refine ⟨[], ?_, ?_, rfl⟩
    · rw [empty]
      decide
    · rw [empty]
      rfl
  · refine ⟨' ' :: line, ?_, ?_, rfl⟩
    · change Text.trim ('/' :: '/' :: '/' :: ' ' :: line) = _
      have ends : Text.trimRight line = line := by
        have again := Text.trimRight_trim line
        rw [trimmed] at again
        exact again
      have last : isBlank (line.getLast empty) = false := by
        have notBlank := List.rdropWhile_last_not isBlank line (by
          rw [show List.rdropWhile isBlank line = line from ends]
          exact empty)
        rw [Bool.not_eq_true] at notBlank
        simpa only [show List.rdropWhile isBlank line = line from ends] using notBlank
      have split : '/' :: '/' :: '/' :: ' ' :: line =
          ('/' :: '/' :: '/' :: ' ' :: line.dropLast) ++ [line.getLast empty] := by
        simp only [List.cons_append, List.dropLast_append_getLast]
      rw [split]
      exact Text.trim_concat (starts _) last
    · rw [Text.trim_cons_blank rfl, trimmed]

/-- A line of a comment adds its text to what waits. -/
theorem consume?_commentLine {line : Text} (trimmed : Text.trim line = line)
    (noMarker : isDittoWord line = false) (register : CommentRegister) (number : Nat)
    (rest : List Line) :
    register.consume? ⟨number, Text.trim ("/// ".toList ++ line)⟩ rest =
      some (register.extend [line], rest) := by
  obtain ⟨behind, equal, cleaned, kept⟩ := trim_commentLine trimmed
  have again : Text.trim ('/' :: '/' :: '/' :: behind) = '/' :: '/' :: '/' :: behind := by
    rw [← equal, Text.trim_trim]
  have notDitto : isDitto ('/' :: '/' :: '/' :: behind) = false := by
    have found : Text.afterPrefix? "///".toList ('/' :: '/' :: '/' :: behind) = some behind :=
      Text.afterPrefix?_append "///".toList behind
    unfold isDitto
    rw [again, found]
    dsimp only
    rw [cleaned]
    exact noMarker
  have extracted : extractStyled .line ⟨number, '/' :: '/' :: '/' :: behind⟩ rest =
      ([line], rest) := by
    change ([Text.trim (behind.dropWhile (· == '/'))], rest) = _
    rw [kept, cleaned]
  rw [equal]
  unfold CommentRegister.consume?
  dsimp only
  rw [notDitto]
  have styled : commentStyle? ('/' :: '/' :: '/' :: behind) = some .line := rfl
  simp only [Bool.false_eq_true, if_false, styled, extracted]

/-! ### Code that fills its line -/

theorem isCode_concat {front : Text} {last : Char}
    (plain : ∀ character ∈ front, isPlain character = true) (lastPlain : isPlain last = true)
    (starts : Text.StartsInk (front ++ [last])) (ink : isBlank last = false) :
    IsCode (front ++ [last]) := by
  refine ⟨?_, Text.trim_concat starts ink⟩
  intro character member
  rcases List.mem_append.mp member with inFront | inLast
  · exact plain character inFront
  · rw [List.mem_singleton.mp inLast]
    exact lastPlain

theorem soft_privacy (isPrivate : Bool) : Soft (privacy isPrivate) := by
  cases isPrivate with
  | true => exact (soft_of_names isWord_private.names).append (.cons rfl soft_nil)
  | false => exact soft_nil

theorem startsInk_declared (isPrivate : Bool) (declared : Variable) (rest : Text) :
    Text.StartsInk (privacy isPrivate ++ declared.text ++ rest) := by
  obtain ⟨behind, equal⟩ := exists_behind_firstWord isPrivate declared rest
  rw [equal]
  exact Text.IsWord.startsInk (isWord_firstWord isPrivate declared) _

theorem isCode_field (isPrivate : Bool) (declared : Variable) :
    IsCode (privacy isPrivate ++ declared.text ++ [';']) :=
  isCode_concat ((soft_privacy isPrivate).append declared.soft).plain rfl
    (startsInk_declared isPrivate declared [';']) rfl

theorem plain_code (isPrivate : Bool) (function : Function) :
    ∀ character ∈ privacy isPrivate ++ function.code, isPlain character = true := by
  have soft : Soft (function.front isPrivate) :=
    (soft_privacy isPrivate).append function.result.soft
  intro character member
  rw [privacy_append_code] at member
  rcases List.mem_append.mp member with inFront | behind
  · exact soft.plain character inFront
  · rcases List.mem_cons.mp behind with parenthesis | further
    · rw [parenthesis]
      rfl
    · rcases List.mem_append.mp further with inside | closing
      · exact (soft_inside function).plain character inside
      · simp only [List.mem_cons, List.not_mem_nil, or_false] at closing
        rcases closing with rfl | rfl <;> rfl

theorem code_eq_concat (isPrivate : Bool) (function : Function) :
    privacy isPrivate ++ function.code =
      (function.front isPrivate ++ '(' :: (function.inside ++ [')'])) ++ [';'] := by
  rw [privacy_append_code]
  simp only [List.append_assoc, List.cons_append, List.nil_append]

theorem isCode_signature (isPrivate : Bool) (function : Function) :
    IsCode (privacy isPrivate ++ function.code) := by
  have plain := plain_code isPrivate function
  have starts : Text.StartsInk (privacy isPrivate ++ function.code) := by
    rw [privacy_append_code]
    exact startsInk_declared isPrivate function.result _
  rw [code_eq_concat] at plain starts ⊢
  exact isCode_concat (fun character member => plain character (List.mem_append_left _ member)) rfl
    starts rfl

/-- A signature has no hard characters but its parentheses and its semicolon. -/
theorem not_mem_signature (isPrivate : Bool) (function : Function) {character : Char}
    (hard : isSoft character = false) (other : character ∉ ['(', ')', ';']) :
    character ∉ privacy isPrivate ++ function.code := by
  have soft : Soft (function.front isPrivate) :=
    (soft_privacy isPrivate).append function.result.soft
  rw [privacy_append_code]
  simp only [List.mem_append, List.mem_cons, List.not_mem_nil, or_false, not_or] at other ⊢
  exact ⟨soft.not_mem hard, other.1, (soft_inside function).not_mem hard, other.2⟩

theorem braceDelta_signature (isPrivate : Bool) (function : Function) :
    braceDelta (privacy isPrivate ++ function.code) = 0 :=
  braceDelta_eq_zero (not_mem_signature isPrivate function rfl (by decide))
    (not_mem_signature isPrivate function rfl (by decide))

theorem braceDelta_field (isPrivate : Bool) (declared : Variable) :
    braceDelta (privacy isPrivate ++ declared.text ++ [';']) = 0 := by
  have soft : Soft (privacy isPrivate ++ declared.text ++ [';']) :=
    ((soft_privacy isPrivate).append declared.soft).append (.cons rfl soft_nil)
  exact braceDelta_eq_zero (soft.not_mem rfl) (soft.not_mem rfl)

/-! ### Declarations -/

theorem isFiller_declared (isPrivate : Bool) (declared : Variable) (rest : Text) :
    isFiller (privacy isPrivate ++ declared.text ++ rest) = false := by
  obtain ⟨behind, equal⟩ := exists_behind_firstWord isPrivate declared rest
  rw [equal]
  exact isFiller_word (isWord_firstWord isPrivate declared) _

theorem headerOfCode?_unmodified (declared : Variable) (rest : Text) :
    headerOfCode? (declared.text ++ rest) = none := by
  have leading := declared.type.leading
  have split : declared.text ++ rest =
      declared.type.text ++ ' ' :: (declared.name.text ++ rest) := by
    rw [Variable.text, List.append_assoc, List.cons_append]
  have noKind (kind : ContainerKind) : declared.type.text ≠ kind.keyword := by
    cases kind with
    | enum => exact leading.ne (by decide)
    | aggregate kind =>
        cases kind with
        | classType => exact leading.ne (by decide)
        | structType => exact leading.ne (by decide)
        | interfaceType => exact leading.ne (by decide)
  rw [split, headerOfCode?_word leading.isWord (leading.not_mem (by decide)) leading.noLinkage]
  exact bareHeader?_word leading.isWord noKind _

theorem headerOfCode?_declared (isPrivate : Bool) (declared : Variable) (rest : Text) :
    headerOfCode? (privacy isPrivate ++ declared.text ++ rest) = none := by
  cases isPrivate with
  | false => exact headerOfCode?_unmodified declared rest
  | true =>
      have split : privacy true ++ declared.text ++ rest =
          privateKeyword ++ ' ' :: (declared.text ++ rest) := by
        change privateKeyword ++ [' '] ++ declared.text ++ rest = _
        rw [List.append_assoc, List.append_assoc, List.singleton_append]
      have hidden : afterAttribute? (privateKeyword ++ ' ' :: (declared.text ++ rest)) =
          some (' ' :: (declared.text ++ rest)) := by
        have found := spacedKeyword?_eq_some id isWord_private
          (show ∀ keyword ∈ plainAttributes, spelled keyword = true by decide) (by decide)
          (declared.text ++ rest)
        exact found
      have ink : Text.trimLeft (' ' :: (declared.text ++ rest)) = declared.text ++ rest :=
        Text.trimLeft_eq_self (startsInk_declared false declared rest)
      have spaced : afterSpacedAttribute? (privateKeyword ++ ' ' :: (declared.text ++ rest)) =
          some (declared.text ++ rest) := by
        unfold afterSpacedAttribute?
        rw [hidden]
        dsimp only
        rw [ink]
        rfl
      rw [split, headerOfCode?]
      split
      · rename_i behind found
        rw [spaced] at found
        cases found
        exact headerOfCode?_unmodified declared rest
      · rename_i missing
        rw [spaced] at missing
        cases missing

theorem matchHeader?_of_code {code : Text} (isCode : IsCode code)
    (missing : headerOfCode? code = none) : matchHeader? code = none := by
  unfold matchHeader?
  rw [isCode.codeOf_trim]
  dsimp only
  rw [missing]

theorem isFiller_signature (isPrivate : Bool) (function : Function) :
    isFiller (privacy isPrivate ++ function.code) = false := by
  rw [privacy_append_code]
  exact isFiller_declared isPrivate function.result _

theorem matchHeader?_signature (isPrivate : Bool) (function : Function) :
    matchHeader? (privacy isPrivate ++ function.code) = none := by
  apply matchHeader?_of_code (isCode_signature isPrivate function)
  rw [privacy_append_code]
  exact headerOfCode?_declared isPrivate function.result _

theorem parseFunction?_signature (isPrivate : Bool) (function : Function) (number : Nat) :
    parseFunction? (privacy isPrivate ++ function.code) function.comments.lines
      (number + function.comments.lines.length : Nat) = some (function.document isPrivate number) := by
  unfold parseFunction?
  rw [(isCode_signature isPrivate function).codeOf_trim, parseSignature?_code]
  rfl

theorem isFunction_signature (isPrivate : Bool) (function : Function) :
    isFunction (privacy isPrivate ++ function.code) = true := by
  unfold isFunction
  rw [(isCode_signature isPrivate function).codeOf_trim]
  exact isSignatureCode_code isPrivate function

/-- The body of a function that is declared only is skipped with its line. -/
theorem skipBody_signature (isPrivate : Bool) (function : Function) (number : Nat)
    (rest : List Line) : skipBody ⟨number, privacy isPrivate ++ function.code⟩ rest = rest := by
  have isCode := isCode_signature isPrivate function
  have noBrace : opensBrace (privacy isPrivate ++ function.code) = false := by
    rw [isCode.opensBrace, List.contains_eq_mem]
    exact decide_eq_false (not_mem_signature isPrivate function rfl (by decide))
  have ends : Text.endsWith ';' (privacy isPrivate ++ function.code) = true := by
    rw [code_eq_concat]
    exact Text.endsWith_concat _ ';'
  unfold skipBody endsStatement
  dsimp only
  rw [noBrace, isCode.codeOf, ends]
  rfl

theorem isFunction_field (isPrivate : Bool) (declared : Variable) :
    isFunction (privacy isPrivate ++ declared.text ++ [';']) = false := by
  have soft : Soft (privacy isPrivate ++ declared.text ++ [';']) :=
    ((soft_privacy isPrivate).append declared.soft).append (.cons rfl soft_nil)
  have rejected : checkParentheses (privacy isPrivate ++ declared.text ++ [';']) = some false := by
    unfold checkParentheses
    rw [Text.cutAt?_eq_none (soft.not_mem rfl)]
  unfold isFunction
  rw [(isCode_field isPrivate declared).codeOf_trim]
  unfold isSignatureCode signatureChecks
  rw [List.findSome?_cons, rejected]
  rfl

/-! ### Headers -/

theorem isWord_keyword (kind : ContainerKind) : IsWord kind.keyword := by
  have formed : Text.isIdentifier kind.keyword = true := by
    cases kind with
    | enum => rfl
    | aggregate kind => cases kind <;> rfl
  exact Text.isWord_of_isIdentifier formed

theorem soft_keyword (kind : ContainerKind) : Soft kind.keyword :=
  soft_of_names (isWord_keyword kind).names

section Headers

variable (kind : ContainerKind) (name : Identifier)

theorem headerCode_eq :
    headerCode kind name = (kind.keyword ++ ' ' :: name.text ++ [' ']) ++ ['\x7b'] := by
  unfold headerCode
  simp only [List.append_assoc, List.cons_append, List.nil_append]

theorem soft_header : Soft (kind.keyword ++ ' ' :: name.text ++ [' ']) :=
  ((soft_keyword kind).append (.cons rfl name.leading.soft)).append (.cons rfl soft_nil)

theorem isCode_header : IsCode (headerCode kind name) := by
  have starts : Text.StartsInk (headerCode kind name) := by
    have ink := Text.IsWord.startsInk (isWord_keyword kind) (' ' :: name.text ++ [' ', '\x7b'])
    rw [← List.append_assoc] at ink
    exact ink
  rw [headerCode_eq] at starts ⊢
  exact isCode_concat (soft_header kind name).plain rfl starts rfl

theorem braceDelta_header : braceDelta (headerCode kind name) = 1 := by
  have soft := soft_header kind name
  have opener : (kind.keyword ++ ' ' :: name.text ++ [' ']).count '\x7b' = 0 :=
    List.count_eq_zero.mpr (soft.not_mem rfl)
  have closer : (kind.keyword ++ ' ' :: name.text ++ [' ']).count '\x7d' = 0 :=
    List.count_eq_zero.mpr (soft.not_mem rfl)
  have openers : (headerCode kind name).count '\x7b' = 1 := by
    rw [headerCode_eq, List.count_append, opener]
    rfl
  have closers : (headerCode kind name).count '\x7d' = 0 := by
    rw [headerCode_eq, List.count_append, closer]
    rfl
  rw [(isCode_header kind name).braceDelta, openers, closers]
  rfl

theorem opensBrace_header : opensBrace (headerCode kind name) = true := by
  rw [(isCode_header kind name).opensBrace, headerCode_eq, List.contains_iff_mem]
  exact List.mem_append_right _ List.mem_cons_self

theorem headerRest : (' ' :: (name.text ++ [' ', '\x7b'])).takeWhile (· ≠ '\n') =
    ' ' :: (name.text ++ [' ', '\x7b']) := by
  apply List.takeWhile_eq_self_iff.mpr
  intro character member
  rw [decide_eq_true_eq]
  simp only [List.mem_cons, List.mem_append, List.not_mem_nil, or_false] at member
  rcases member with rfl | inName | rfl | rfl
  · decide
  · exact ne_of_isNameChar (name.leading.isWord.names character inName) rfl
  · decide
  · decide

theorem matchHeader?_header : matchHeader? (headerCode kind name) =
    some ⟨kind, ' ' :: (name.text ++ [' ', '\x7b'])⟩ := by
  have split : headerCode kind name = kind.keyword ++ ' ' :: (name.text ++ [' ', '\x7b']) := by
    unfold headerCode
    rw [List.append_assoc, List.cons_append]
  have found : headerOfCode? (headerCode kind name) =
      some ⟨kind, ' ' :: (name.text ++ [' ', '\x7b'])⟩ := by
    rw [split, headerOfCode?_keyword kind (endsWord_space _), headerRest]
  have brace : (headerCode kind name).contains '\x7b' = true := by
    rw [headerCode_eq, List.contains_iff_mem]
    exact List.mem_append_right _ List.mem_cons_self
  unfold matchHeader?
  rw [(isCode_header kind name).codeOf_trim]
  dsimp only
  rw [found, brace]
  simp only [Bool.not_true, Bool.false_eq_true, false_and, and_false, if_false]

theorem name_header :
    (⟨kind, ' ' :: (name.text ++ [' ', '\x7b'])⟩ : ContainerHeader).name = name.text := by
  have first : Text.firstWord? (' ' :: (name.text ++ [' ', '\x7b'])) = some name.text := by
    unfold Text.firstWord?
    rw [Text.words.eq_def]
    dsimp only
    rw [if_pos (show isBlank ' ' = true from rfl)]
    rw [Text.words_append_blank name.leading.isWord.ne_nil name.leading.ink rfl]
    rfl
  unfold ContainerHeader.name
  dsimp only
  rw [first]
  dsimp only
  apply List.takeWhile_eq_self_iff.mpr
  intro character member
  have isName := name.leading.isWord.names character member
  have brace : character ≠ '\x7b' := ne_of_isNameChar isName rfl
  have colon : character ≠ ':' := ne_of_isNameChar isName rfl
  have parenthesis : character ≠ '(' := ne_of_isNameChar isName rfl
  have semicolon : character ≠ ';' := ne_of_isNameChar isName rfl
  simp only [beq_eq_false_iff_ne.mpr brace, beq_eq_false_iff_ne.mpr colon,
    beq_eq_false_iff_ne.mpr parenthesis, beq_eq_false_iff_ne.mpr semicolon, Bool.or_self,
    Bool.not_false]

end Headers

theorem isCode_closer : IsCode ['\x7d'] := by
  constructor
  · intro character member
    rw [List.mem_singleton.mp member]
    rfl
  · rfl

end DocSite.Canonical
