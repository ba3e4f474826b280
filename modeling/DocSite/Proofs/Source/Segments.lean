/-
Lines with the braces of a body.

A line is read in parts: its braces are those of its parts, and indentation and blanks at its end play no part.
The segment of such a line inside the body is what was put between the braces, and a segment is cut into the
same pieces as the text it was trimmed from.
-/
import DocSite.Container.Segment
import DocSite.Proofs.Source.Nested

namespace DocSite

/-! ### Trimming -/

namespace Text

theorem trimLeft_append_ink {character : Char} (ink : isBlank character = false) (front rest : Text) :
    trimLeft (front ++ character :: rest) = trimLeft front ++ character :: rest := by
  have stops : (character :: rest).dropWhile isBlank = character :: rest :=
    List.dropWhile_cons_of_neg (by rw [ink]; exact Bool.false_ne_true)
  unfold trimLeft trimLeftBy
  rw [List.dropWhile_append, stops]
  by_cases blank : (front.dropWhile isBlank).isEmpty = true
  · rw [if_pos blank, List.isEmpty_iff.mp blank, List.nil_append]
  · rw [if_neg blank]

theorem trim_append_ink {character : Char} (ink : isBlank character = false) (front rest : Text) :
    trim (front ++ character :: rest) = trimLeft front ++ character :: trimRight rest := by
  change trimRight (trimLeft (front ++ character :: rest)) = _
  rw [trimLeft_append_ink ink, trimRight_append_ink ink]

theorem trim_trimLeft (text : Text) : trim (trimLeft text) = trim text := by
  change trimRight (trimLeft (trimLeft text)) = trimRight (trimLeft text)
  rw [trimLeft_eq_self (startsInk_trimLeft text)]

theorem trim_append_blanks (text : Text) {blanks : Text}
    (blank : ∀ character ∈ blanks, isBlank character = true) : trim (text ++ blanks) = trim text := by
  have dropped : blanks.dropWhile isBlank = [] := List.dropWhile_eq_nil_iff.mpr blank
  change trimRight ((text ++ blanks).dropWhile isBlank) = trimRight (text.dropWhile isBlank)
  rw [List.dropWhile_append]
  by_cases nothing : (text.dropWhile isBlank).isEmpty = true
  · rw [if_pos nothing, List.isEmpty_iff.mp nothing, dropped]
  · rw [if_neg nothing, trimRight_append_blanks _ blank]

theorem trim_trimRight (text : Text) : trim (trimRight text) = trim text := by
  obtain ⟨blanks, whole, blank⟩ := exists_blanks_trimRight text
  have joined := trim_append_blanks (trimRight text) blank
  rw [← whole] at joined
  exact joined.symm

theorem trim_blanks_append {blanks : Text} (blank : ∀ character ∈ blanks, isBlank character = true)
    (text : Text) : trim (blanks ++ text) = trim text := by
  induction blanks with
  | nil => rfl
  | cons character blanks ih =>
      rw [List.cons_append, trim_cons_blank (blank character List.mem_cons_self)]
      exact ih fun other member => blank other (List.mem_cons_of_mem _ member)

theorem trim_blanks {blanks : Text} (blank : ∀ character ∈ blanks, isBlank character = true) :
    trim blanks = [] := by
  have alone := trim_blanks_append blank []
  rw [List.append_nil] at alone
  exact alone

theorem head?_trimLeft (text : Text) : (trimLeft text).head? = (trim text).head? := by
  have ink := startsInk_trimLeft text
  change _ = (trimRight (trimLeft text)).head?
  cases begins : trimLeft text with
  | nil => rfl
  | cons character rest =>
      rw [begins] at ink
      exact (congrArg List.head? (trimRight_append_ink (ink character rfl) [] rest)).symm

theorem exists_blanks_trimLeft (text : Text) :
    ∃ blanks, text = blanks ++ trimLeft text ∧ ∀ character ∈ blanks, isBlank character = true :=
  ⟨text.takeWhile isBlank, List.takeWhile_append_dropWhile.symm, fun _ => List.mem_takeWhile_imp⟩

/-- A trimmed text ends with no blank. -/
theorem getLast?_ink {text : Text} (trimmed : trim text = text) :
    ∀ character ∈ text.getLast?, isBlank character = false := by
  intro character last
  obtain ⟨front, whole⟩ := List.getLast?_eq_some_iff.mp last
  have ends : trimRight text = text := by
    have again := trimRight_trim text
    rw [trimmed] at again
    exact again
  by_contra blank
  rw [Bool.not_eq_false] at blank
  have shorter : trimRight (front ++ [character]) = trimRight front :=
    trimRight_append_blanks front (by simpa using blank)
  rw [← whole, ends] at shorter
  have lengths := (trimRight_begins front).length_le
  rw [← shorter, whole, List.length_append, List.length_singleton] at lengths
  omega

def inkOf (text : Text) : Text :=
  text.filter fun character => !isBlank character

theorem inkOf_append (front rest : Text) : inkOf (front ++ rest) = inkOf front ++ inkOf rest :=
  List.filter_append front rest

theorem inkOf_cons {character : Char} (ink : isBlank character = false) (rest : Text) :
    inkOf (character :: rest) = character :: inkOf rest :=
  List.filter_cons_of_pos (by rw [ink]; rfl)

theorem inkOf_blanks {blanks : Text} (blank : ∀ character ∈ blanks, isBlank character = true) :
    inkOf blanks = [] :=
  List.filter_eq_nil_iff.mpr fun character member => by rw [blank character member]; exact Bool.false_ne_true

theorem inkOf_trim (text : Text) : inkOf (trim text) = inkOf text := by
  obtain ⟨leading, whole, blank⟩ := exists_blanks_trimLeft text
  obtain ⟨trailing, body, blankToo⟩ := exists_blanks_trimRight (trimLeft text)
  conv_rhs => rw [whole, body, inkOf_append, inkOf_append, inkOf_blanks blank, inkOf_blanks blankToo,
    List.append_nil, List.nil_append]
  rfl

theorem count_inkOf {character : Char} (ink : isBlank character = false) (text : Text) :
    (inkOf text).count character = text.count character :=
  List.count_filter (by rw [ink]; rfl)

theorem count_trim {character : Char} (ink : isBlank character = false) (text : Text) :
    (trim text).count character = text.count character := by
  rw [← count_inkOf ink, inkOf_trim, count_inkOf ink]

theorem cutAtLast?_concat (wanted : Char) (front : Text) :
    cutAtLast? wanted (front ++ [wanted]) = some (front, []) := by
  unfold cutAtLast?
  rw [List.reverse_append, List.reverse_singleton, List.singleton_append, cutAt?, if_pos rfl]
  simp

end Text

/-! ### Lines in parts -/

section Parts

variable {front rest line : Text}

theorem scanCode_append (ends : EndsInCode front) (noSlash : rest.head? ≠ some '/')
    (noStar : rest.head? ≠ some '*') :
    scanCode (front ++ rest) = (scanCode front).followedBy (scanCode rest) :=
  ends.scanCode_apart fun mark => mark.2.elim noSlash noStar

theorem EndsInCode.append (ends : EndsInCode front) (more : EndsInCode rest)
    (noSlash : rest.head? ≠ some '/') (noStar : rest.head? ≠ some '*') : EndsInCode (front ++ rest) := by
  have read := scanCode_append ends noSlash noStar
  constructor <;> rw [read]
  · exact more.comment
  · exact more.zone
  · exact more.escaped

theorem braceDelta_append (ends : EndsInCode front) (noSlash : rest.head? ≠ some '/')
    (noStar : rest.head? ≠ some '*') : braceDelta (front ++ rest) = braceDelta front + braceDelta rest := by
  unfold braceDelta
  dsimp only
  rw [scanCode_append ends noSlash noStar, CodeScan.followedBy, List.count_append, List.count_append]
  simp only [Int.ofNat_eq_natCast]
  omega

theorem opensBrace_append (ends : EndsInCode front) (noSlash : rest.head? ≠ some '/')
    (noStar : rest.head? ≠ some '*') : opensBrace (front ++ rest) = (opensBrace front || opensBrace rest) := by
  unfold opensBrace
  rw [scanCode_append ends noSlash noStar, CodeScan.followedBy, Bool.eq_iff_iff]
  simp only [Bool.or_eq_true, List.contains_iff_mem, List.mem_append]

/-- Indentation is structure, and what follows it is read as a line of its own. -/
theorem scanCode_blanks_append {blanks : Text} (blank : ∀ character ∈ blanks, isBlank character = true)
    (rest : Text) :
    scanCode (blanks ++ rest) = (CodeScan.mk blanks blanks none .code false).followedBy (scanCode rest) := by
  have alone := scanCode_plain fun character member =>
    isPlain_of_test (show ['\\', '"', '\x27', '\x60', '/'].any isBlank = false from rfl) (blank character member)
  have ends : EndsInCode blanks := by
    constructor <;> rw [alone]
  have apart : ¬MakesMark blanks rest := by
    rintro ⟨slash, -⟩
    exact absurd (blank '/' (List.mem_of_getLast? slash)) (by decide)
  rw [ends.scanCode_apart apart, alone]

/-- Indentation has no braces. -/
theorem count_bare_trimLeft (line : Text) {brace : Char} (ink : isBlank brace = false) :
    (scanCode (Text.trimLeft line)).bare.count brace = (scanCode line).bare.count brace := by
  obtain ⟨blanks, whole, blank⟩ := Text.exists_blanks_trimLeft line
  have none : blanks.count brace = 0 := by
    apply List.count_eq_zero.mpr
    intro member
    rw [blank brace member] at ink
    cases ink
  conv_rhs => rw [whole, scanCode_blanks_append blank, CodeScan.followedBy, List.count_append, none, Nat.zero_add]

theorem sameBraces_trimLeft (line : Text) : SameBraces (Text.trimLeft line) line :=
  .of_count (count_bare_trimLeft line rfl) (count_bare_trimLeft line rfl)

theorem EndsInCode.braceDelta_trim (ends : EndsInCode line) :
    braceDelta (Text.trim line) = braceDelta line := by
  rw [← ends.codeOf_trimLeft, braceDelta_codeOf, (sameBraces_trimLeft line).delta]

theorem EndsInCode.opensBrace_trim (ends : EndsInCode line) :
    opensBrace (Text.trim line) = opensBrace line := by
  rw [← ends.codeOf_trimLeft, opensBrace_codeOf, (sameBraces_trimLeft line).opens]

end Parts

/-! ### Segments -/

/-- On a line that opens a body the segment is what follows the brace. -/
theorem bodySegment_opening {front : Text} (unopened : '\x7b' ∉ front) (body : Text) :
    bodySegment (Text.trim (front ++ '\x7b' :: body)) true false = Text.trim body := by
  have before : '\x7b' ∉ Text.trimLeft front :=
    fun member => unopened ((List.dropWhile_sublist isBlank).mem member)
  unfold bodySegment
  rw [Text.trim_append_ink rfl, if_pos rfl, Text.cutAt?_append before]
  exact Text.trim_trimRight body

/-- On a line that closes a body the segment is what stands before the brace. -/
theorem bodySegment_closing (body : Text) {blanks : Text}
    (blank : ∀ character ∈ blanks, isBlank character = true) :
    bodySegment (Text.trim (body ++ '\x7d' :: blanks)) false true = Text.trim body := by
  have nothing : Text.trimRight blanks = [] := Text.trimRight_append_blanks [] blank
  unfold bodySegment
  rw [Text.trim_append_ink rfl, nothing]
  simp only [Bool.false_eq_true, if_false, if_true]
  rw [Text.cutAtLast?_concat]
  exact Text.trim_trimLeft body

/-- On a line that does both the segment is what stands between the first brace and the last one. -/
theorem bodySegment_both {front : Text} (unopened : '\x7b' ∉ front) (body : Text) {blanks : Text}
    (blank : ∀ character ∈ blanks, isBlank character = true) :
    bodySegment (Text.trim (front ++ '\x7b' :: (body ++ '\x7d' :: blanks))) true true =
      Text.trim body := by
  have before : '\x7b' ∉ Text.trimLeft front :=
    fun member => unopened ((List.dropWhile_sublist isBlank).mem member)
  have nothing : Text.trimRight blanks = [] := Text.trimRight_append_blanks [] blank
  unfold bodySegment
  rw [Text.trim_append_ink rfl, Text.trimRight_append_ink rfl, nothing]
  simp only [if_true]
  rw [Text.cutAt?_append before, Option.map_some, Option.getD_some, Text.cutAtLast?_concat]
  rfl

/-! ### Pieces of a segment -/

theorem isFlat_of_isBlank {character : Char} (blank : isBlank character = true) :
    isFlat character = true := by
  have other {mark : Char} (ink : isBlank mark = false) : (character == mark) = false := by
    rw [beq_eq_false_iff_ne]
    intro same
    rw [same, ink] at blank
    cases blank
  have unopened : closerOf? character = none := by
    unfold closerOf?
    split
    · exact absurd blank (by decide)
    · exact absurd blank (by decide)
    · exact absurd blank (by decide)
    · rfl
  unfold isFlat isQuoteMark isOpener isCloser
  rw [unopened, other (by decide), other (by decide), other (by decide), other (by decide),
    other (by decide), other (by decide)]
  rfl

section Pieces

variable {isSeparator : Char → Bool} {blanks : Text}
  (inside : ∀ character ∈ blanks, isSeparator character = false)

include inside

theorem topLevelSegments_unseparated (quotation : Quotation) (depth : Nat) :
    topLevelSegments isSeparator quotation depth blanks = [blanks] := by
  induction blanks generalizing quotation depth with
  | nil => rfl
  | cons character blanks ih =>
      have further := ih fun other member => inside other (List.mem_cons_of_mem _ member)
      cases quotation with
      | within mark escaped =>
          rw [topLevelSegments, further]
          rfl
      | outside =>
          rw [topLevelSegments, inside character List.mem_cons_self, further]
          simp [Text.consHead]

/-- What stands behind a text without separators belongs to its last piece. -/
theorem topLevelSegments_append_unseparated (quotation : Quotation) (depth : Nat) (text : Text) :
    ∃ others last, topLevelSegments isSeparator quotation depth text = others ++ [last] ∧
      topLevelSegments isSeparator quotation depth (text ++ blanks) = others ++ [last ++ blanks] := by
  induction text generalizing quotation depth with
  | nil => exact ⟨[], [], rfl, topLevelSegments_unseparated inside quotation depth⟩
  | cons character text ih =>
      have consHead_concat (others : List Text) (last : Text) : ∃ rest piece,
          Text.consHead character (others ++ [last]) = rest ++ [piece] ∧
            Text.consHead character (others ++ [last ++ blanks]) = rest ++ [piece ++ blanks] := by
        cases others with
        | nil => exact ⟨[], character :: last, rfl, rfl⟩
        | cons first others => exact ⟨(character :: first) :: others, last, rfl, rfl⟩
      cases quotation with
      | within mark escaped =>
          obtain ⟨others, last, alone, joined⟩ :=
            ih ((Quotation.within mark escaped).step character) depth
          rw [List.cons_append, topLevelSegments, topLevelSegments, alone, joined]
          exact consHead_concat others last
      | outside =>
          rw [List.cons_append, topLevelSegments, topLevelSegments]
          split
          · obtain ⟨others, last, alone, joined⟩ :=
              ih (Quotation.outside.step character) (depthAfter depth character)
            rw [alone, joined]
            exact consHead_concat others last
          · obtain ⟨others, last, alone, joined⟩ := ih .outside depth
            rw [alone, joined]
            exact ⟨[] :: others, last, rfl, rfl⟩

theorem topLevelSegments_unseparated_append (flat : ∀ character ∈ blanks, isFlat character = true)
    (text : Text) :
    topLevelSegments isSeparator .outside 0 (blanks ++ text) =
      blanks.foldr Text.consHead (topLevelSegments isSeparator .outside 0 text) := by
  induction blanks with
  | nil => rfl
  | cons character blanks ih =>
      rw [List.cons_append, topLevelSegments_cons_flat (flat character List.mem_cons_self)
        (inside character List.mem_cons_self), List.foldr_cons]
      rw [ih (fun other member => inside other (List.mem_cons_of_mem _ member))
        fun other member => flat other (List.mem_cons_of_mem _ member)]

end Pieces

theorem splitTopLevelAt_eq_cons (separator : Char) (text : Text) :
    ∃ first others, splitTopLevelAt separator text = first :: others := by
  obtain ⟨others, last, whole, -⟩ := @topLevelSegments_append_unseparated
    (fun character => character == separator) [] (by simp) .outside 0 text
  unfold splitTopLevelAt splitTopLevel
  rw [whole, List.map_append]
  cases others with
  | nil => exact ⟨_, _, rfl⟩
  | cons first others => exact ⟨_, _, rfl⟩

/-- Trimming a text trims the first and the last of its pieces, which are trimmed anyway. -/
theorem splitTopLevelAt_trim {separator : Char} (ink : isBlank separator = false) (text : Text) :
    splitTopLevelAt separator (Text.trim text) = splitTopLevelAt separator text := by
  have inside {blanks : Text} (blank : ∀ character ∈ blanks, isBlank character = true) :
      ∀ character ∈ blanks, (character == separator) = false := by
    intro character member
    rw [beq_eq_false_iff_ne]
    intro same
    have here := blank character member
    rw [same, ink] at here
    cases here
  have right (text : Text) : splitTopLevelAt separator (Text.trimRight text) =
      splitTopLevelAt separator text := by
    obtain ⟨blanks, whole, blank⟩ := Text.exists_blanks_trimRight text
    obtain ⟨others, last, alone, joined⟩ := topLevelSegments_append_unseparated (inside blank)
      .outside 0 (Text.trimRight text)
    rw [← whole] at joined
    unfold splitTopLevelAt splitTopLevel
    rw [alone, joined, List.map_append, List.map_append, List.map_singleton, List.map_singleton,
      Text.trim_append_blanks last blank]
  have left : splitTopLevelAt separator (Text.trimLeft text) = splitTopLevelAt separator text := by
    obtain ⟨blanks, whole, blank⟩ := Text.exists_blanks_trimLeft text
    obtain ⟨others, last, nonempty, -⟩ := topLevelSegments_append_unseparated (inside blank)
      .outside 0 (Text.trimLeft text)
    have passed := topLevelSegments_unseparated_append (inside blank)
      (fun character member => isFlat_of_isBlank (blank character member)) (Text.trimLeft text)
    rw [← whole, nonempty] at passed
    unfold splitTopLevelAt splitTopLevel
    rw [passed, nonempty]
    cases others with
    | nil =>
        rw [List.nil_append, foldr_consHead, List.map_singleton, List.map_singleton,
          Text.trim_blanks_append blank]
    | cons first others =>
        rw [List.cons_append, foldr_consHead, List.map_cons, List.map_cons,
          Text.trim_blanks_append blank]
  exact (right (Text.trimLeft text)).trans left

end DocSite
