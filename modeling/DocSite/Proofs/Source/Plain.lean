/-
Plain code.

A line without quotes, slashes and backslashes is all code, and its structure is what it spells. Between
brackets and separators, a text without brackets and quotes is one piece.
-/
import DocSite.Comment.Register
import DocSite.Source.Nesting
import DocSite.Proofs.Source.Append

namespace DocSite

/-- Whether a character opens no literal and no comment, and escapes nothing. -/
def isPlain (character : Char) : Bool :=
  !(character == '\\' || character == '"' || character == '\x27' || character == '\x60' ||
    character == '/')

/-- What is none of the five marks is plain. -/
theorem isPlain_of_test {test : Char → Bool}
    (refuses : ['\\', '"', '\x27', '\x60', '/'].any test = false) {character : Char}
    (passes : test character = true) : isPlain character = true := by
  have other {mark : Char} (listed : mark ∈ ['\\', '"', '\x27', '\x60', '/']) : (character == mark) = false := by
    rw [beq_eq_false_iff_ne]
    intro same
    rw [same] at passes
    exact List.any_eq_false.mp refuses mark listed passes
  unfold isPlain
  rw [other (by simp), other (by simp), other (by simp), other (by simp), other (by simp)]
  rfl

theorem isPlain_of_isNameChar {character : Char} (name : isNameChar character = true) :
    isPlain character = true :=
  isPlain_of_test rfl name

theorem ofText_plain {text : Text} (plain : ∀ character ∈ text, isPlain character = true) :
    CodeScan.ofText .code false text = ⟨text, text, none, .code, false⟩ := by
  induction text with
  | nil => rfl
  | cons character rest ih =>
      have further := ih fun other member => plain other (List.mem_cons_of_mem character member)
      have here := plain character List.mem_cons_self
      simp only [isPlain, Bool.not_eq_true', Bool.or_eq_false_iff, beq_eq_false_iff_ne] at here
      obtain ⟨⟨⟨⟨backslash, double⟩, single⟩, raw⟩, slash⟩ := here
      have structural :
          CodeScan.readCharacter .code false character rest.head? = .structural := by
        simp only [CodeScan.readCharacter, backslash, double, single, raw, slash, false_and,
          Bool.false_eq_true, if_false]
      rw [CodeScan.ofText_cons, structural]
      unfold CodeScan.Reading.scan
      dsimp only
      rw [further]
      rfl

theorem scanCode_plain {text : Text} (plain : ∀ character ∈ text, isPlain character = true) :
    scanCode text = ⟨text, text, none, .code, false⟩ :=
  ofText_plain plain

/-- A line that begins with no slash is no comment and no marker. -/
theorem CommentRegister.consume?_eq_none_of_head {text : Text} (trimmed : Text.trim text = text)
    (noSlash : text.head? ≠ some '/') (register : CommentRegister) (number : Nat)
    (rest : List Line) : register.consume? ⟨number, text⟩ rest = none := by
  have noStyle : commentStyle? text = none := by
    rw [commentStyle?_eq_none_iff]
    intro second others begins
    rw [begins] at noSlash
    exact absurd rfl noSlash
  unfold CommentRegister.consume?
  rw [isDitto_eq_false trimmed noStyle, noStyle]
  rfl

structure IsCode (text : Text) : Prop where
  plain : ∀ character ∈ text, isPlain character = true
  trimmed : Text.trim text = text

namespace IsCode

variable {text : Text}

theorem splitLineComment (code : IsCode text) : splitLineComment text = (text, []) := by
  have ends : Text.trimRight text = text := by
    have again := Text.trimRight_trim text
    rw [code.trimmed] at again
    exact again
  unfold DocSite.splitLineComment
  rw [scanCode_plain code.plain]
  dsimp only
  rw [ends]
  rfl

theorem codeOf (code : IsCode text) : codeOf text = text := by
  unfold DocSite.codeOf
  rw [code.splitLineComment]

theorem codeOf_trim (code : IsCode text) : DocSite.codeOf (Text.trim text) = text := by
  rw [code.trimmed, code.codeOf]

theorem braceDelta (code : IsCode text) :
    braceDelta text = Int.ofNat (text.count '\x7b') - Int.ofNat (text.count '\x7d') := by
  unfold DocSite.braceDelta
  rw [scanCode_plain code.plain]

theorem opensBrace (code : IsCode text) : opensBrace text = text.contains '\x7b' := by
  unfold DocSite.opensBrace
  rw [scanCode_plain code.plain]

/-- Plain code begins with no slash. -/
theorem slash_not_mem (code : IsCode text) : '/' ∉ text := by
  intro member
  have plain := code.plain '/' member
  cases plain

/-- Plain code is neither a comment nor a marker. -/
theorem consume? (code : IsCode text) (register : CommentRegister) (number : Nat)
    (rest : List Line) : register.consume? ⟨number, text⟩ rest = none :=
  CommentRegister.consume?_eq_none_of_head code.trimmed
    (fun slash => code.slash_not_mem (List.mem_of_mem_head? slash)) register number rest

end IsCode

/-! ### Pieces -/

def isFlat (character : Char) : Bool :=
  !(isQuoteMark character || isOpener character || isCloser character)

theorem depthAfter_flat {character : Char} (flat : isFlat character = true) (depth : Nat) :
    depthAfter depth character = depth := by
  simp only [isFlat, Bool.not_eq_true', Bool.or_eq_false_iff] at flat
  unfold depthAfter
  rw [flat.1.2, flat.2]
  rfl

theorem step_flat {character : Char} (flat : isFlat character = true) :
    Quotation.outside.step character = .outside := by
  simp only [isFlat, Bool.not_eq_true', Bool.or_eq_false_iff] at flat
  unfold Quotation.step
  dsimp only
  rw [flat.1.1]
  rfl

theorem topLevelSegments_cons_flat {isSeparator : Char → Bool} {character : Char}
    (flat : isFlat character = true) (inside : isSeparator character = false) (rest : Text) :
    topLevelSegments isSeparator .outside 0 (character :: rest) =
      Text.consHead character (topLevelSegments isSeparator .outside 0 rest) := by
  rw [topLevelSegments, inside, step_flat flat, depthAfter_flat flat]
  simp only [Bool.not_false, Bool.or_true, Bool.true_or, if_true]

theorem topLevelSegments_separator {isSeparator : Char → Bool} {separator : Char}
    (flat : isFlat separator = true) (separates : isSeparator separator = true) (rest : Text) :
    topLevelSegments isSeparator .outside 0 (separator :: rest) =
      [] :: topLevelSegments isSeparator .outside 0 rest := by
  simp only [isFlat, Bool.not_eq_true', Bool.or_eq_false_iff] at flat
  rw [topLevelSegments, flat.1.1, flat.1.2, flat.2, separates]
  rfl

theorem topLevelSegments_append {isSeparator : Char → Bool} {piece : Text} {separator : Char}
    (flat : ∀ character ∈ piece, isFlat character = true)
    (inside : ∀ character ∈ piece, isSeparator character = false)
    (flatSeparator : isFlat separator = true) (separates : isSeparator separator = true)
    (rest : Text) :
    topLevelSegments isSeparator .outside 0 (piece ++ separator :: rest) =
      piece :: topLevelSegments isSeparator .outside 0 rest := by
  induction piece with
  | nil => exact topLevelSegments_separator flatSeparator separates rest
  | cons character piece ih =>
      rw [List.cons_append, topLevelSegments_cons_flat (flat character List.mem_cons_self)
        (inside character List.mem_cons_self)]
      rw [ih (fun other member => flat other (List.mem_cons_of_mem character member))
        (fun other member => inside other (List.mem_cons_of_mem character member))]
      rfl

theorem topLevelSegments_piece {isSeparator : Char → Bool} {piece : Text}
    (flat : ∀ character ∈ piece, isFlat character = true)
    (inside : ∀ character ∈ piece, isSeparator character = false) :
    topLevelSegments isSeparator .outside 0 piece = [piece] := by
  induction piece with
  | nil => rfl
  | cons character piece ih =>
      rw [topLevelSegments_cons_flat (flat character List.mem_cons_self)
        (inside character List.mem_cons_self)]
      rw [ih (fun other member => flat other (List.mem_cons_of_mem character member))
        (fun other member => inside other (List.mem_cons_of_mem character member))]
      rfl

theorem not_separator {piece : Text} {separator : Char} (absent : separator ∉ piece) :
    ∀ character ∈ piece, (character == separator) = false := by
  intro character member
  exact beq_eq_false_iff_ne.mpr (ne_of_mem_of_not_mem member absent)

theorem splitTopLevelAt_append {piece : Text} {separator : Char}
    (flat : ∀ character ∈ piece, isFlat character = true) (absent : separator ∉ piece)
    (flatSeparator : isFlat separator = true) (rest : Text) :
    splitTopLevelAt separator (piece ++ separator :: rest) =
      Text.trim piece :: splitTopLevelAt separator rest := by
  have separates : (fun character => character == separator) separator = true :=
    beq_self_eq_true separator
  unfold splitTopLevelAt splitTopLevel
  rw [topLevelSegments_append flat (not_separator absent) flatSeparator separates, List.map_cons]

theorem splitTopLevelAt_piece {piece : Text} {separator : Char}
    (flat : ∀ character ∈ piece, isFlat character = true) (absent : separator ∉ piece) :
    splitTopLevelAt separator piece = [Text.trim piece] := by
  unfold splitTopLevelAt splitTopLevel
  rw [topLevelSegments_piece flat (not_separator absent), List.map_singleton]

theorem cutParenthesis?_append {inside : Text} (flat : ∀ character ∈ inside, isFlat character = true)
    (rest : Text) : cutParenthesis? (inside ++ ')' :: rest) = some (inside, rest) := by
  unfold cutParenthesis?
  induction inside with
  | nil => rfl
  | cons character inside ih =>
      have here := flat character List.mem_cons_self
      have notOpener : character ≠ '(' := by
        intro same
        rw [same] at here
        cases here
      have notCloser : character ≠ ')' := by
        intro same
        rw [same] at here
        cases here
      rw [List.cons_append, cutAtCloser?]
      dsimp only
      rw [if_neg notOpener, if_neg notCloser, step_flat here,
        ih fun other member => flat other (List.mem_cons_of_mem character member)]
      rfl

end DocSite
