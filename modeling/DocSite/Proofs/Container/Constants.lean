/-
Manifest constants.

An enum with a value and without a body declares a constant. The reader of headers tells it from a container by
the characters of its line: it must have an equals sign and no opening brace, not even in a literal or a comment.
A constant that is no header is handled like any other statement, and one that is taken for a header is recorded
as an enum without members, under the name that comes first behind the keyword.
-/
import DocSite.Proofs.Container.Attributes
import DocSite.Proofs.Cursor.Extraction
import DocSite.Proofs.Signature.Accepted
import DocSite.Proofs.Source.Plain
import DocSite.Proofs.Walk.Module

namespace DocSite

structure ManifestConstant where
  attributes : List Attribute
  gap : Text
  apart : gap ≠ []
  blank : ∀ character ∈ gap, isBlank character = true
  type : Text
  separate : ∀ character ∈ type.getLast?, isWordChar character = false
  name : Text
  named : Text.isIdentifier name = true
  blanks : Text
  blankToo : ∀ character ∈ blanks, isBlank character = true
  value : Text

namespace ManifestConstant

variable (constant : ManifestConstant)

def declared : Text :=
  constant.gap ++ (constant.type ++ (constant.name ++ (constant.blanks ++ '=' :: (constant.value ++ [';']))))

def front : Text :=
  constant.attributes.flatMap Attribute.text ++
    ("enum".toList ++ (constant.gap ++ (constant.type ++ (constant.name ++ constant.blanks))))

def text : Text :=
  constant.attributes.flatMap Attribute.text ++ ("enum".toList ++ constant.declared)

def header : ContainerHeader :=
  ⟨.enum, constant.declared.takeWhile (· ≠ '\n')⟩

theorem text_eq_front : constant.text = constant.front ++ '=' :: (constant.value ++ [';']) := by
  unfold text front declared
  simp only [List.append_assoc]

theorem equals_mem_text : '=' ∈ constant.text := by
  rw [text_eq_front]
  exact List.mem_append_right _ List.mem_cons_self

theorem endsWord_declared : Text.EndsWord constant.declared :=
  Text.endsWord_gap constant.apart constant.blank _

theorem standsApart_keyword : StandsApart ("enum".toList ++ constant.declared) :=
  standsApart_letter (by decide) _

theorem standsApart_text : StandsApart constant.text :=
  standsApart_attributes constant.standsApart_keyword

theorem endsWith_text : Text.endsWith ';' constant.text = true := by
  rw [text_eq_front, ← List.cons_append, ← List.append_assoc]
  exact Text.endsWith_concat _ ';'

/-! ### Headers -/

theorem headerOfCode?_text (flat : ∀ given ∈ constant.attributes, given.IsFlat) :
    headerOfCode? constant.text =
      if ∀ given ∈ constant.attributes, given.IsKnown then some constant.header else none := by
  unfold text
  have keyword : headerOfCode? ("enum".toList ++ constant.declared) = some constant.header :=
    headerOfCode?_keyword .enum constant.endsWord_declared
  rw [headerOfCode?_attributes constant.standsApart_keyword flat, keyword]

section Lines

variable {constant} {raw : Text} (written : codeOf (Text.trim raw) = constant.text)

include written

theorem matchHeader?_eq_none_iff : matchHeader? raw = none ↔
    ∀ header, headerOfCode? constant.text = some header → header.kind = .enum ∧ '\x7b' ∉ constant.text := by
  have equals : constant.text.contains '=' = true := List.contains_iff_mem.mpr constant.equals_mem_text
  unfold matchHeader?
  dsimp only
  rw [written, equals]
  cases headerOfCode? constant.text with
  | none => exact ⟨fun _ => nofun, fun _ => rfl⟩
  | some header =>
      by_cases exempt : header.kind = .enum ∧ '\x7b' ∉ constant.text
      · simp [exempt.1, exempt.2]
      · simp [exempt]

theorem matchHeader?_eq_some (flat : ∀ given ∈ constant.attributes, given.IsFlat)
    (known : ∀ given ∈ constant.attributes, given.IsKnown) (brace : '\x7b' ∈ constant.text) :
    matchHeader? raw = some constant.header := by
  unfold matchHeader?
  dsimp only
  rw [written, constant.headerOfCode?_text flat, if_pos known]
  simp [brace]

theorem matchHeader?_eq_none_iff_of_flat (flat : ∀ given ∈ constant.attributes, given.IsFlat) :
    matchHeader? raw = none ↔ '\x7b' ∉ constant.text ∨ ∃ given ∈ constant.attributes, ¬given.IsKnown := by
  rw [matchHeader?_eq_none_iff written, constant.headerOfCode?_text flat]
  by_cases known : ∀ given ∈ constant.attributes, given.IsKnown
  · rw [if_pos known]
    constructor
    · exact fun exempt => .inl (exempt _ rfl).2
    · rintro (plain | ⟨given, member, unknown⟩) header ⟨⟩
      · exact ⟨rfl, plain⟩
      · exact absurd (known given member) unknown
  · rw [if_neg known]
    push Not at known
    exact ⟨fun _ => .inr known, fun _ => nofun⟩

end Lines

/-! ### Statements -/

theorem isFiller_text : isFiller constant.text = false := by
  cases filler : isFiller constant.text with
  | false => rfl
  | true => exact absurd (List.all_eq_true.mp filler '=' constant.equals_mem_text) (by decide)

theorem isImport_text : isImport constant.text = false := by
  have keyword : isImport ("enum".toList ++ constant.declared) = false :=
    isImport_firstWord ⟨List.all_eq_true.mp rfl, constant.endsWord_declared⟩ (by decide)
      fun listed => absurd listed (by decide)
  exact isImport_attributes constant.standsApart_keyword keyword

theorem moduleName?_text : moduleName? constant.text = none := by
  obtain ⟨word, tail, split, first, other⟩ := exists_firstWord_enum constant.attributes constant.endsWord_declared
  unfold text
  rw [split]
  exact moduleName?_firstWord first fun same => other (by rw [same]; decide)

theorem opensSkippedBlock_text : opensSkippedBlock constant.text = false := by
  obtain ⟨word, tail, split, first, other⟩ := exists_firstWord_enum constant.attributes constant.endsWord_declared
  unfold text
  rw [split]
  exact opensSkippedBlock_firstWord first fun member => other (List.mem_cons_of_mem _ member)

/-- Without a parenthesis in front of the equals sign nothing is taken for a signature. -/
theorem isSignatureCode_text (noParenthesis : '(' ∉ constant.front) : isSignatureCode constant.text = false := by
  cases accepted : isSignatureCode constant.text with
  | false => rfl
  | true =>
      obtain ⟨position, _, declares⟩ := declaresAt_of_accepted accepted
      have opens := declares.opens
      have noEquals := declares.noEquals
      rw [text_eq_front] at opens noEquals
      rcases Nat.lt_trichotomy position constant.front.length with before | same | behind
      · rw [List.getElem?_append_left before] at opens
        exact absurd (List.mem_of_getElem? opens) noParenthesis
      · rw [same, List.getElem?_append_right (Nat.le_refl _), Nat.sub_self] at opens
        cases opens
      · obtain ⟨more, far⟩ := Nat.exists_eq_add_of_lt behind
        refine absurd ?_ noEquals
        rw [List.take_append, far, Nat.add_assoc, Nat.add_sub_cancel_left, List.take_succ_cons]
        exact List.mem_append_right _ List.mem_cons_self

end ManifestConstant

def stepStatement (register : CommentRegister) (first : Line) (rest : List Line) : ModuleStep :=
  let (code, trailing) := splitLineComment first.text
  if isFunction code then
    let (comments, register) := register.attachWith trailing
    ⟨((parseFunction? code comments first.number).map ModuleEntry.function).toList, register, skipBody first rest⟩
  else ⟨[], register.discard, rest⟩

namespace ManifestConstant

section Steps

variable {constant : ManifestConstant} {raw : Text} (written : codeOf (Text.trim raw) = constant.text)

include written

theorem consume?_line (register : CommentRegister) (number : Nat) (rest : List Line) :
    register.consume? ⟨number, Text.trim raw⟩ rest = none := by
  refine CommentRegister.consume?_eq_none_of_head (Text.trim_trim raw) ?_ register number rest
  obtain ⟨comment, whole⟩ := codeOf_begins (Text.trim raw)
  rw [written] at whole
  have filled : constant.text ≠ [] := List.ne_nil_of_mem constant.equals_mem_text
  rw [← whole, List.head?_append_of_ne_nil _ filled]
  exact constant.standsApart_text.noSlash

theorem matchHeader?_text : matchHeader? constant.text = matchHeader? raw := by
  rw [← written, Cursor.matchHeader?_codeOf (Text.trim_trim raw)]
  unfold matchHeader?
  rw [Text.trim_trim]

theorem isFunction_text : isFunction constant.text = isSignatureCode constant.text := by
  have ink : Text.StartsInk (Text.trim raw) := Text.startsInk_trim raw
  unfold isFunction
  rw [← written, trim_codeOf ink, codeOf_codeOf]

theorem stepCode_of_none (noHeader : matchHeader? raw = none) (register : CommentRegister) (number : Nat)
    (rest : List Line) :
    stepCode register ⟨number, Text.trim raw⟩ rest = stepStatement register ⟨number, Text.trim raw⟩ rest := by
  have code : (splitLineComment (Text.trim raw)).1 = constant.text := written
  rw [← matchHeader?_text written] at noHeader
  unfold stepCode stepStatement
  dsimp only
  rw [code, constant.isFiller_text, constant.moduleName?_text, constant.isImport_text, noHeader,
    constant.opensSkippedBlock_text]
  rfl

theorem stepStatement_plain (noParenthesis : '(' ∉ constant.front) (register : CommentRegister) (number : Nat)
    (rest : List Line) :
    stepStatement register ⟨number, Text.trim raw⟩ rest = ⟨[], register.discard, rest⟩ := by
  have code : (splitLineComment (Text.trim raw)).1 = constant.text := written
  unfold stepStatement
  dsimp only
  rw [code, isFunction_text written, constant.isSignatureCode_text noParenthesis]
  rfl

/-- A constant without a structural brace that is taken for a header ends with its line. -/
theorem stepCode_of_header (found : matchHeader? raw = some constant.header)
    (closed : opensBrace constant.text = false) (register : CommentRegister) (number : Nat) (rest : List Line) :
    stepCode register ⟨number, Text.trim raw⟩ rest =
      ⟨(⟨constant.header.name, register, number⟩ : ContainerScope).enum [],
        (⟨constant.header.name, register, number⟩ : ContainerScope).after, rest⟩ := by
  have code : (splitLineComment (Text.trim raw)).1 = constant.text := written
  have body : enumBody ⟨number, Text.trim raw⟩ rest = ([], rest) := by
    unfold enumBody
    dsimp only
    rw [code, closed, constant.endsWith_text]
    rfl
  rw [← matchHeader?_text written] at found
  unfold stepCode
  dsimp only
  rw [code, constant.isFiller_text, constant.moduleName?_text, constant.isImport_text, found]
  change stepContainer constant.header register _ rest = _
  have isEnum : constant.header.kind = .enum := rfl
  unfold stepContainer
  rw [isEnum]
  unfold scanEnum ContainerScope.enum ContainerScope.after
  dsimp only
  rw [body]
  cases constant.header.name.isEmpty <;> rfl

end Steps

structure ReadAtModuleScope (constant : ManifestConstant) (raw : Text) (register : CommentRegister) (number : Nat)
    (rest : List Line) : Prop where
  statement : matchHeader? raw = none → moduleEntries register (⟨number, Text.trim raw⟩ :: rest) =
    (stepStatement register ⟨number, Text.trim raw⟩ rest).entries ++
      moduleEntries (stepStatement register ⟨number, Text.trim raw⟩ rest).register
        (stepStatement register ⟨number, Text.trim raw⟩ rest).remaining
  plain : matchHeader? raw = none → '(' ∉ constant.front →
    moduleEntries register (⟨number, Text.trim raw⟩ :: rest) = moduleEntries register.discard rest
  container : matchHeader? raw = some constant.header → opensBrace constant.text = false →
    moduleEntries register (⟨number, Text.trim raw⟩ :: rest) =
      (⟨constant.header.name, register, number⟩ : ContainerScope).enum [] ++
        moduleEntries (⟨constant.header.name, register, number⟩ : ContainerScope).after rest

theorem readAtModuleScope {constant : ManifestConstant} {raw : Text}
    (written : codeOf (Text.trim raw) = constant.text) (register : CommentRegister) (number : Nat)
    (rest : List Line) : ReadAtModuleScope constant raw register number rest := by
  have step := moduleEntries_ignored (consume?_line written register number rest)
  refine ⟨?_, ?_, ?_⟩
  · intro noHeader
    rw [step, stepCode_of_none written noHeader]
  · intro noHeader noParenthesis
    rw [step, stepCode_of_none written noHeader, stepStatement_plain written noParenthesis]
    rfl
  · intro found closed
    rw [step, stepCode_of_header written found closed]

end ManifestConstant

/-- The line of a constant is no header exactly if what its attributes let be read is an enum and the line has no
brace at all. If no attribute hides a closed parenthesis, this fails exactly if it has a brace, be it in a literal,
and all attributes are known. The walk over a module handles a constant that is no header like any statement, and
records an enum without members in place of one that is taken for a header. -/
theorem manifest_constant_read (constant : ManifestConstant) {raw : Text}
    (written : codeOf (Text.trim raw) = constant.text) :
    (matchHeader? raw = none ↔
        ∀ header, headerOfCode? constant.text = some header → header.kind = .enum ∧ '\x7b' ∉ constant.text) ∧
      ((∀ given ∈ constant.attributes, given.IsFlat) →
        (matchHeader? raw = none ↔ '\x7b' ∉ constant.text ∨ ∃ given ∈ constant.attributes, ¬given.IsKnown) ∧
        (matchHeader? raw ≠ none → matchHeader? raw = some constant.header)) ∧
      ∀ register number rest, constant.ReadAtModuleScope raw register number rest := by
  refine ⟨ManifestConstant.matchHeader?_eq_none_iff written, fun flat => ⟨?_, ?_⟩,
    ManifestConstant.readAtModuleScope written⟩
  · exact ManifestConstant.matchHeader?_eq_none_iff_of_flat written flat
  · intro found
    rw [ne_eq, ManifestConstant.matchHeader?_eq_none_iff_of_flat written flat] at found
    push Not at found
    exact ManifestConstant.matchHeader?_eq_some written flat found.2 found.1

theorem manifest_constant_read_commented :
    let raw := "  static enum int MAX = 10; // \x7b".toList
    let constant : ManifestConstant :=
      ⟨[⟨false, "static".toList, List.all_eq_true.mp rfl, by decide, none, [' '], by decide, List.all_eq_true.mp rfl⟩],
        [' '], by decide, List.all_eq_true.mp rfl, "int ".toList, fun _ last => by cases last; rfl, "MAX".toList, rfl,
        [' '], List.all_eq_true.mp rfl, " 10".toList⟩
    codeOf (Text.trim raw) = constant.text ∧ matchHeader? raw = none ∧
      moduleEntries .empty [⟨1, Text.trim raw⟩] = [] := by
  intro raw constant
  have written : codeOf (Text.trim raw) = constant.text := by decide +kernel
  obtain ⟨_, headers, steps⟩ := manifest_constant_read constant written
  have flat : ∀ given ∈ constant.attributes, given.IsFlat := List.forall_mem_singleton.mpr nofun
  have noHeader : matchHeader? raw = none := (headers flat).1.mpr (.inl (by decide +kernel))
  refine ⟨written, noHeader, ?_⟩
  rw [(steps .empty 1 []).plain noHeader (by decide +kernel), moduleEntries]

/-- A brace in a literal makes an enum of a constant, under the name of its type. -/
theorem manifest_constant_taken_for_enum :
    let source := "enum string S = \"\x7b\";".toList
    opensBrace source = false ∧ (matchHeader? source).isSome = true ∧
      (extractModule anonymousFile source).enums = [⟨"string".toList, [], [], 1⟩] := by
  decide +kernel

end DocSite
