/-
Members of aggregates.

A member of an aggregate is a field, a prototype, or a method with its body. As a statement of its own, and
on a line of its own, it is read as what it declares. The body of a method counts for nothing: a signature is
read up to its parameter list, whatever nested text follows.
-/
import DocSite.Container.Aggregate
import DocSite.Proofs.Layout.Header

namespace DocSite.Layout

open Canonical (Variable TypeName Identifier)

/-! ### Members -/

def isSemicolon (character : Char) : Bool := character == ';'

structure Signature where
  result : Variable
  parameters : List Variable

def Signature.function (signature : Signature) : Canonical.Function where
  comments :=
    { lines := [], trimmed := by simp, oneLine := by simp, noMarker := by simp
      starts := by simp, ends := by simp }
  result := signature.result
  parameters := signature.parameters

def Signature.opened (signature : Signature) (rest : Text) : Text :=
  signature.function.opened false rest

def Signature.parts (signature : Signature) : Text × Text × List Text :=
  (signature.result.name.text, signature.result.type.text, signature.parameters.map Variable.text)

/-- A member as it is written. The body of a method is nested text. -/
inductive Member where
  | field (declared : Variable)
  | prototype (signature : Signature)
  | method (signature : Signature) (body : Text) (nested : isNested unbarred body = true)

namespace Member

def bracedBody (body : Text) : Text :=
  ' ' :: '\x7b' :: (body ++ ['\x7d'])

def stem : Member → Text
  | .field declared => declared.text
  | .prototype signature => signature.opened []
  | .method signature body _ => signature.opened (bracedBody body)

def hasBody : Member → Bool
  | .field _ => false
  | .prototype _ => false
  | .method _ _ _ => true

def text (member : Member) : Text :=
  if member.hasBody then member.stem else member.stem ++ [';']

abbrev Declared := Text ⊕ (Text × Text × List Text)

def declares : Member → Declared
  | .field declared => .inl (declared.text ++ [';'])
  | .prototype signature => .inr signature.parts
  | .method signature _ _ => .inr signature.parts

end Member

def declaredOf : AggregateMember → Member.Declared
  | .method function => .inr (function.name, function.returnType, function.parameters)
  | .field declared => .inl declared.declaration

/-! ### Spelling -/

theorem isSilent_of_soft {barred : Char → Bool} {text : Text} (soft : Canonical.Soft text)
    (allowed : ∀ character ∈ text, barred character = false) :
    ∀ character ∈ text, isSilent barred character = true := by
  intro character member
  unfold isSilent
  rw [soft.plain character member, soft.flat character member, allowed character member]
  rfl

theorem silent_variable (declared : Variable) :
    ∀ character ∈ declared.text, isSilent isSemicolon character = true := by
  refine isSilent_of_soft declared.soft fun character member => beq_eq_false_iff_ne.mpr ?_
  rcases Canonical.name_or_space_of_mem_text member with name | space
  · exact ne_of_isNameChar name rfl
  · rw [space]
    decide

namespace Signature

variable (signature : Signature)

theorem opened_eq (rest : Text) : signature.opened rest =
    (signature.result.text ++ '(' :: signature.function.inside) ++ ')' :: rest := by
  change ([] ++ signature.result.text) ++ '(' :: (signature.function.inside ++ ')' :: rest) = _
  simp only [List.nil_append, List.append_assoc, List.cons_append]

theorem opened_append (front rest : Text) :
    signature.opened front ++ rest = signature.opened (front ++ rest) := by
  rw [opened_eq, opened_eq, List.append_assoc, List.cons_append]

/-- A signature is nested with whatever nested text follows it. -/
theorem nested_opened {rest : Text} (nested : isNested isSemicolon rest = true) :
    isNested isSemicolon (signature.opened rest) = true := by
  have inside : isNested unbarred signature.function.inside = true :=
    isNested_of_silent (isSilent_of_soft (Canonical.soft_inside signature.function) fun _ _ => rfl)
  exact isNested_silent_append (silent_variable signature.result)
    (isNested_group rfl rfl inside nested)

theorem startsInk_opened (rest : Text) : Text.StartsInk (signature.opened rest) := by
  obtain ⟨behind, equal⟩ := Canonical.opened_eq_firstWord false signature.function rest
  rw [opened, equal]
  exact Text.IsWord.startsInk (Canonical.isWord_firstWord false signature.function.result) _

theorem opened_ne_nil (rest : Text) : signature.opened rest ≠ [] := by
  rw [opened_eq]
  exact List.append_ne_nil_of_right_ne_nil _ (List.cons_ne_nil _ _)

theorem trim_opened {rest : Text} (ends : ∀ character ∈ rest.getLast?, isBlank character = false) :
    Text.trim (signature.opened rest) = signature.opened rest := by
  apply Canonical.trim_of_inked (signature.opened_ne_nil rest) (signature.startsInk_opened rest)
  intro character last
  rw [opened_eq, List.getLast?_append_of_ne_nil _ (List.cons_ne_nil _ _)] at last
  cases rest with
  | nil =>
      cases last
      rfl
  | cons first rest =>
      rw [List.getLast?_cons_cons] at last
      exact ends character last

def documented (number : Int) (comments : List Text) : FunctionDoc :=
  { name := signature.result.name.text
    returnType := signature.result.type.text
    parameters := signature.parameters.map Variable.text
    comments := comments
    line := number }

section Statements

variable {rest : Text} (ends : EndsInCode (signature.opened rest))
  (inked : ∀ character ∈ rest.getLast?, isBlank character = false)

include ends inked in
theorem codeOf_opened : codeOf (Text.trim (signature.opened rest)) = signature.opened rest := by
  unfold codeOf
  rw [ends.splitLineComment_trim, signature.trim_opened inked]

include ends inked in
theorem isFunction_opened : isFunction (signature.opened rest) = true := by
  unfold isFunction
  rw [signature.codeOf_opened ends inked]
  exact Canonical.isSignatureCode_opened false signature.function rest

include ends inked in
theorem parseFunction?_opened (single : (Text.trimLeft rest).head? ≠ some '(') (comments : List Text)
    (number : Int) : parseFunction? (signature.opened rest) comments number =
      some (signature.documented number comments) := by
  unfold parseFunction?
  rw [signature.codeOf_opened ends inked]
  exact Canonical.parseSignature?_opened false signature.function single comments number

include ends inked in
/-- Of a statement only the signature at its beginning is read. -/
theorem functionOfStatement?_opened (single : (Text.trimLeft rest).head? ≠ some '(') (number : Int) :
    functionOfStatement? (signature.opened rest) number = some (signature.documented number []) := by
  unfold functionOfStatement?
  rw [signature.isFunction_opened ends inked, if_pos rfl,
    signature.parseFunction?_opened ends inked single]

end Statements

end Signature

/-! ### Texts of members -/

namespace Member

theorem nested_bracedBody {body : Text} (nested : isNested unbarred body = true) :
    isNested isSemicolon (bracedBody body) = true :=
  isNested_cons rfl (isNested_group rfl rfl nested rfl)

theorem nested_stem (member : Member) : isNested isSemicolon member.stem = true := by
  cases member with
  | field declared => exact isNested_of_silent (silent_variable declared)
  | prototype signature => exact signature.nested_opened rfl
  | method signature body nested => exact signature.nested_opened (nested_bracedBody nested)

theorem getLast?_bracedBody (body : Text) :
    ∀ character ∈ (bracedBody body).getLast?, isBlank character = false := by
  intro character last
  have split : bracedBody body = (' ' :: '\x7b' :: body) ++ ['\x7d'] := rfl
  rw [split, List.getLast?_concat] at last
  cases last
  rfl

theorem trim_stem (member : Member) : Text.trim member.stem = member.stem := by
  cases member with
  | field declared => exact declared.trim_text
  | prototype signature => exact signature.trim_opened fun _ last => by cases last
  | method signature body _ => exact signature.trim_opened (getLast?_bracedBody body)

theorem stem_ne_nil (member : Member) : member.stem ≠ [] := by
  cases member with
  | field declared => exact List.append_ne_nil_of_right_ne_nil _ (List.cons_ne_nil _ _)
  | prototype signature => exact signature.opened_ne_nil _
  | method signature body _ => exact signature.opened_ne_nil _

theorem startsInk_stem (member : Member) : Text.StartsInk member.stem := by
  have ink := Text.startsInk_trim member.stem
  rwa [member.trim_stem] at ink

/-- The space between two members and the next member are a nested text. -/
theorem nested_spaced (member : Member) : isNested isSemicolon (' ' :: member.stem) = true :=
  isNested_cons rfl member.nested_stem

end Member

/-! ### Members as statements -/

/-- What can stand behind the parameter list of a method on its line: a body, and the members that are lost
behind it. -/
structure IsTail (rest : Text) : Prop where
  nested : isNested isSemicolon rest = true
  starts : ∃ behind, rest = ' ' :: '\x7b' :: behind
  ends : ∀ character ∈ rest.getLast?, isBlank character = false

theorem isTail_bracedBody {body : Text} (nested : isNested unbarred body = true) :
    IsTail (Member.bracedBody body) :=
  ⟨Member.nested_bracedBody nested, ⟨_, rfl⟩, Member.getLast?_bracedBody body⟩

theorem IsTail.append_stem {rest : Text} (tail : IsTail rest) (member : Member) :
    IsTail (rest ++ ' ' :: member.stem) where
  nested := isNested_append tail.nested member.nested_spaced (by simp) (by simp)
  starts := by
    obtain ⟨behind, equal⟩ := tail.starts
    exact ⟨behind ++ ' ' :: member.stem, by rw [equal]; rfl⟩
  ends := by
    intro character last
    rw [List.getLast?_append_of_ne_nil _ (List.cons_ne_nil _ _), ← List.singleton_append,
      List.getLast?_append_of_ne_nil _ member.stem_ne_nil] at last
    exact Text.getLast?_ink member.trim_stem character last

theorem IsTail.single {rest : Text} (tail : IsTail rest) (more : Text) :
    (Text.trimLeft (rest ++ more)).head? ≠ some '(' := by
  obtain ⟨behind, equal⟩ := tail.starts
  rw [equal]
  change (Text.trimLeft (' ' :: '\x7b' :: (behind ++ more))).head? ≠ some '('
  have dropped : Text.trimLeft (' ' :: '\x7b' :: (behind ++ more)) = '\x7b' :: (behind ++ more) :=
    Text.trimLeft_append_ink rfl [' '] _
  rw [dropped]
  simp

namespace Signature

variable (signature : Signature)

theorem memberOfStatement_opened {rest : Text} (nested : isNested isSemicolon rest = true)
    (single : (Text.trimLeft (rest ++ [';'])).head? ≠ some '(') (number : Int) :
    memberOfStatement number (signature.opened rest ++ [';']) =
      .method (signature.documented number []) := by
  have ends : EndsInCode (signature.opened (rest ++ [';'])) := by
    rw [← signature.opened_append]
    exact (endsInCode_nested (signature.nested_opened nested)).append ⟨rfl, rfl, rfl⟩ (by simp)
      (by simp)
  have inked : ∀ character ∈ (rest ++ [';']).getLast?, isBlank character = false := by
    intro character last
    rw [List.getLast?_concat] at last
    cases last
    rfl
  unfold memberOfStatement
  rw [signature.opened_append, signature.functionOfStatement?_opened ends inked single]

end Signature

/-- Statement by statement: a member without a body is recorded as it is declared. -/
theorem declaredOf_memberOfStatement (member : Member) (bodyless : member.hasBody = false)
    (number : Int) :
    declaredOf (memberOfStatement number (member.stem ++ [';'])) = member.declares := by
  cases member with
  | field declared =>
      have noFunction : functionOfStatement? (declared.text ++ [';']) number = none := by
        unfold functionOfStatement?
        have rejected := Canonical.isFunction_field false declared
        change isFunction (declared.text ++ [';']) = false at rejected
        rw [rejected]
        rfl
      unfold memberOfStatement
      rw [Member.stem, noFunction]
      rfl
  | prototype signature =>
      rw [Member.stem, signature.memberOfStatement_opened rfl (by decide)]
      rfl
  | method signature body nested => cases bodyless

/-! ### Members on lines of their own -/

theorem memberOfLine_field (declared : Variable) (register : CommentRegister) (number : Nat) :
    (memberOfLine 1 1 register (declared.text ++ [';']) [] number).1.map declaredOf =
      [.inl (declared.text ++ [';'])] := by
  have notFiller : isFiller (declared.text ++ [';']) = false :=
    Canonical.isFiller_declared false declared [';']
  have noHeader : matchHeader? (declared.text ++ [';']) = none :=
    Canonical.matchHeader?_of_code (Canonical.isCode_field false declared)
      (Canonical.headerOfCode?_declared false declared [';'])
  have noFunction : isFunction (declared.text ++ [';']) = false :=
    Canonical.isFunction_field false declared
  unfold memberOfLine
  rw [notFiller, noHeader, noFunction, Text.endsWith_concat]
  rfl

theorem Signature.memberOfLine_opened (signature : Signature) {rest : Text}
    (ends : EndsInCode (signature.opened rest))
    (inked : ∀ character ∈ rest.getLast?, isBlank character = false)
    (single : (Text.trimLeft rest).head? ≠ some '(') (register : CommentRegister) (number : Nat) :
    (memberOfLine 1 1 register (signature.opened rest) [] number).1.map declaredOf =
      [.inr signature.parts] := by
  have notFiller : isFiller (signature.opened rest) = false :=
    Canonical.isFiller_declared false signature.result _
  have noHeader : matchHeader? (signature.opened rest) = none := by
    unfold matchHeader?
    rw [signature.codeOf_opened ends inked]
    dsimp only
    rw [show headerOfCode? (signature.opened rest) = none from
      Canonical.headerOfCode?_declared false signature.result _]
  unfold memberOfLine
  rw [notFiller, noHeader, signature.isFunction_opened ends inked]
  dsimp only [Option.isSome_none, Int.reduceEq]
  simp only [Bool.false_eq_true, if_false, if_true]
  rw [signature.parseFunction?_opened ends inked single]
  rfl

namespace Member

theorem trim_text (member : Member) : Text.trim member.text = member.text := by
  unfold text
  cases member.hasBody with
  | true => exact member.trim_stem
  | false =>
      have ink : isBlank ';' = false := rfl
      have whole := Text.trim_append_ink ink member.stem []
      rw [Text.trimLeft_eq_self member.startsInk_stem] at whole
      exact whole

theorem weighs_text (member : Member) : Weighs member.text 0 := by
  have stem := Weighs.of_nested member.nested_stem
  unfold text
  cases member.hasBody with
  | true => exact stem
  | false => exact stem.append ⟨⟨rfl, rfl, rfl⟩, rfl⟩ (by simp) (by simp)

/-- A member begins with its type. -/
theorem exists_declared_text (member : Member) : ∃ (declared : Variable) (rest : Text),
    member.text = declared.text ++ rest := by
  have opened (signature : Signature) (front rest : Text) :
      ∃ behind, signature.opened front ++ rest = signature.result.text ++ behind := by
    rw [signature.opened_append, signature.opened_eq, List.append_assoc]
    exact ⟨_, rfl⟩
  cases member with
  | field declared => exact ⟨declared, [';'], rfl⟩
  | prototype signature =>
      obtain ⟨behind, equal⟩ := opened signature [] [';']
      exact ⟨signature.result, behind, equal⟩
  | method signature body _ =>
      obtain ⟨behind, equal⟩ := opened signature (bracedBody body) []
      rw [List.append_nil] at equal
      exact ⟨signature.result, behind, equal⟩

theorem head?_trim_ne (member : Member) : (Text.trim member.text).head? ≠ some '/' := by
  obtain ⟨declared, rest, begins⟩ := member.exists_declared_text
  have filled : declared.text ≠ [] := List.append_ne_nil_of_right_ne_nil _ (List.cons_ne_nil _ _)
  rw [member.trim_text, begins, List.head?_append_of_ne_nil _ filled]
  intro slash
  exact declared.soft.not_mem rfl (List.mem_of_mem_head? slash)

/-- A member on a line of its own is recorded, a method with its body like its prototype. -/
theorem memberOfLine_text (member : Member) (register : CommentRegister) (number : Nat) :
    (memberOfLine 1 1 register member.text [] number).1.map declaredOf = [member.declares] := by
  have weighs := member.weighs_text
  cases member with
  | field declared => exact memberOfLine_field declared register number
  | prototype signature =>
      have whole : (Member.prototype signature).text = signature.opened [';'] :=
        signature.opened_append [] [';']
      rw [whole] at weighs ⊢
      exact signature.memberOfLine_opened weighs.ends (by simp [isBlank]) (by decide) register number
  | method signature body nested =>
      have single := (isTail_bracedBody nested).single []
      rw [List.append_nil] at single
      exact signature.memberOfLine_opened weighs.ends (getLast?_bracedBody body) single register number

end Member

end DocSite.Layout
