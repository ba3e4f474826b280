/-
Enums in any layout.

The body of an enum is a list of rows, each with the members that stand on one line. The first row shares its
line with the opening brace, which stands on the line of the header or on a line of its own, and the last row
shares its line with the closing brace. Rows may be empty, so every line break that a layout may have is
between two rows. Whatever the layout, a scan finds the members that were written, in their order, and ends
behind the line of the closing brace.
-/
import DocSite.Container.Enumeration
import DocSite.Proofs.Canonical.EnumMembers
import DocSite.Proofs.Cursor.Enumeration
import DocSite.Proofs.Doc.Turns
import DocSite.Proofs.Layout.Braces
import DocSite.Proofs.Layout.Header

namespace DocSite.Layout

open Text (IsWord)

/-! ### Members -/

def isComma (character : Char) : Bool := character == ','

/-- A member as it is written. Its value is nested and has commas only inside literals and brackets; an empty
value is not written. -/
structure EnumMember where
  name : Text
  value : Text
  named : Text.isIdentifier name = true
  trimmed : Text.trim value = value
  nested : isNested isComma value = true

namespace EnumMember

def text (member : EnumMember) : Text :=
  if member.value.isEmpty then member.name else member.name ++ " = ".toList ++ member.value

variable (member : EnumMember)

theorem isWord : IsWord member.name :=
  Text.isWord_of_isIdentifier member.named

theorem silent_name {barred : Char → Bool}
    (allowed : ∀ character, isNameChar character = true → barred character = false) :
    ∀ character ∈ member.name, isSilent barred character = true := by
  intro character inName
  have soft := Canonical.soft_of_names member.isWord.names
  unfold isSilent
  rw [soft.plain character inName, soft.flat character inName,
    allowed character (member.isWord.names character inName)]
  rfl

theorem nested_text : isNested isComma member.text = true := by
  have named : ∀ character ∈ member.name, isSilent isComma character = true :=
    member.silent_name fun character name => beq_eq_false_iff_ne.mpr (ne_of_isNameChar name rfl)
  unfold text
  cases member.value.isEmpty with
  | true => exact isNested_of_silent named
  | false =>
      refine isNested_silent_append ?_ member.nested
      intro character inFront
      rcases List.mem_append.mp inFront with inName | sign
      · exact named character inName
      · exact List.all_eq_true.mp rfl character sign

theorem exists_text_eq : ∃ rest, member.text = member.name ++ rest := by
  unfold text
  cases member.value.isEmpty with
  | true => exact ⟨[], (List.append_nil _).symm⟩
  | false => exact ⟨_, List.append_assoc _ _ _⟩

theorem startsInk_text : Text.StartsInk member.text := by
  obtain ⟨rest, equal⟩ := member.exists_text_eq
  rw [equal]
  exact Text.IsWord.startsInk member.isWord rest

theorem text_ne_nil : member.text ≠ [] := by
  obtain ⟨rest, equal⟩ := member.exists_text_eq
  rw [equal]
  exact List.append_ne_nil_of_left_ne_nil member.isWord.ne_nil rest

theorem trim_text : Text.trim member.text = member.text := by
  apply Canonical.trim_of_inked member.text_ne_nil member.startsInk_text
  intro character last
  unfold text at last
  cases empty : member.value.isEmpty with
  | true =>
      rw [empty] at last
      exact member.isWord.ink character (List.mem_of_getLast? last)
  | false =>
      have filled : member.value ≠ [] := List.isEmpty_eq_false_iff.mp empty
      rw [empty, if_neg Bool.false_ne_true, List.getLast?_append_of_ne_nil _ filled] at last
      exact Text.getLast?_ink member.trimmed character last

/-- A member is cut at its first equals sign. Further ones belong to the value. -/
theorem splitEnumMember_text : splitEnumMember member.text = (member.name, member.value) := by
  have soft := Canonical.soft_of_names member.isWord.names
  have noSign : '=' ∉ member.name := fun inside => by cases member.isWord.names '=' inside
  have trimmed : Text.trim member.name = member.name :=
    Canonical.trim_of_ink member.isWord.ne_nil member.isWord.ink
  unfold text splitEnumMember
  cases empty : member.value.isEmpty with
  | true =>
      rw [if_pos rfl, splitTopLevelAt_piece soft.flat noSign, trimmed, List.isEmpty_iff.mp empty]
  | false =>
      have spaced : '=' ∉ member.name ++ [' '] := by
        rw [List.mem_append, not_or]
        exact ⟨noSign, by decide⟩
      have softFront := soft.append (.cons rfl Canonical.soft_nil : Canonical.Soft [' '])
      have split : member.name ++ " = ".toList ++ member.value =
          (member.name ++ [' ']) ++ '=' :: ' ' :: member.value := by
        simp only [List.append_assoc]
        rfl
      have front : Text.trim (member.name ++ [' ']) = member.name := by
        rw [Text.trim_append_blanks member.name (List.all_eq_true.mp rfl), trimmed]
      obtain ⟨second, others, more⟩ := splitTopLevelAt_eq_cons '=' (' ' :: member.value)
      rw [if_neg Bool.false_ne_true, split, splitTopLevelAt_append softFront.flat spaced rfl, more,
        front, Text.cutAt?_append spaced]
      dsimp only
      rw [Option.map_some, Option.getD_some, Text.trim_cons_blank rfl, member.trimmed]

def documented (number : Int) (comments : List Text) : EnumMemberDoc :=
  { name := member.name, value := member.value, comments := comments, line := number }

theorem enumMember?_text (number : Int) (comments : List Text) :
    enumMember? number comments member.text = some (member.documented number comments) := by
  have filled : member.text.isEmpty = false := List.isEmpty_eq_false_iff.mpr member.text_ne_nil
  unfold enumMember?
  rw [member.splitEnumMember_text, filled]
  dsimp only
  rw [member.isWord.isEmpty]
  rfl

end EnumMember

/-! ### Rows -/

structure Cell where
  member : EnumMember
  before : Padding
  behind : Padding
  comma : Bool

namespace Cell

def piece (cell : Cell) : Text :=
  cell.before.text ++ (cell.member.text ++ cell.behind.text)

def text (cell : Cell) : Text :=
  cell.piece ++ if cell.comma then [','] else []

variable (cell : Cell)

theorem allowed_blank (character : Char) (blank : isBlank character = true) :
    isComma character = false := by
  rw [isComma, beq_eq_false_iff_ne]
  rintro rfl
  cases blank

theorem nested_piece : isNested isComma cell.piece = true :=
  isNested_silent_append (cell.before.silent allowed_blank)
    (isNested_append cell.member.nested_text
      (isNested_of_silent (cell.behind.silent allowed_blank))
      (cell.behind.head?_ne rfl) (cell.behind.head?_ne rfl))

theorem trim_piece : Text.trim cell.piece = cell.member.text := by
  unfold piece
  rw [Text.trim_blanks_append cell.before.blank, Text.trim_append_blanks _ cell.behind.blank,
    cell.member.trim_text]

end Cell

/-- The members on one line. Between two of them stands a comma; the last one may do without. -/
structure Row where
  cells : List Cell
  ending : Padding
  separated : ∀ cell ∈ cells.dropLast, cell.comma = true

def nameAndValue (member : EnumMemberDoc) : Text × Text :=
  (member.name, member.value)

namespace Row

def text (row : Row) : Text :=
  row.cells.flatMap Cell.text ++ row.ending.text

def declared (row : Row) : List (Text × Text) :=
  row.cells.map fun cell => (cell.member.name, cell.member.value)

/-- A cell ends with a comma, or it is the last one. -/
theorem text_cons (cell : Cell) (cells : List Cell) (ending : Padding)
    (separated : ∀ other ∈ (cell :: cells).dropLast, other.comma = true) :
    ((∀ other ∈ cells.dropLast, other.comma = true) ∧
        (cell :: cells).flatMap Cell.text ++ ending.text =
          cell.piece ++ ',' :: (cells.flatMap Cell.text ++ ending.text)) ∨
      cells = [] ∧ (cell :: cells).flatMap Cell.text ++ ending.text = cell.piece ++ ending.text := by
  cases comma : cell.comma with
  | true =>
      refine .inl ⟨fun other member => separated other ?_, ?_⟩
      · cases cells with
        | nil => cases member
        | cons next cells => exact List.mem_cons_of_mem _ member
      · rw [List.flatMap_cons, Cell.text, comma, if_pos rfl]
        simp only [List.append_assoc, List.cons_append, List.nil_append]
  | false =>
      cases cells with
      | nil =>
          refine .inr ⟨rfl, ?_⟩
          rw [List.flatMap_singleton, Cell.text, comma, if_neg Bool.false_ne_true, List.append_nil]
      | cons next cells =>
          rw [separated cell List.mem_cons_self] at comma
          cases comma

/-- Cutting the text of cells at commas gives back their members, and perhaps an empty piece that declares
nothing. -/
theorem filterMap_cells (number : Int) (comments : List Text) (cells : List Cell) (ending : Padding)
    (separated : ∀ cell ∈ cells.dropLast, cell.comma = true) :
    (splitTopLevelAt ',' (cells.flatMap Cell.text ++ ending.text)).filterMap
        (enumMember? number comments) =
      cells.map fun cell => cell.member.documented number comments := by
  have nestedEnding := isNested_of_silent (ending.silent Cell.allowed_blank)
  have barsComma : isComma ',' = true := rfl
  induction cells with
  | nil =>
      rw [List.flatMap_nil, List.nil_append, splitTopLevelAt_nested barsComma nestedEnding,
        Text.trim_blanks ending.blank]
      rfl
  | cons cell cells ih =>
      rcases text_cons cell cells ending separated with ⟨further, split⟩ | ⟨rfl, split⟩
      · rw [split, splitTopLevelAt_nested_append barsComma rfl cell.nested_piece, cell.trim_piece,
          List.filterMap_cons, cell.member.enumMember?_text, ih further, List.map_cons]
      · have nested : isNested isComma (cell.piece ++ ending.text) = true :=
          isNested_append cell.nested_piece nestedEnding (ending.head?_ne rfl) (ending.head?_ne rfl)
        rw [split, splitTopLevelAt_nested barsComma nested, Text.trim_append_blanks _ ending.blank,
          cell.trim_piece, List.filterMap_cons, cell.member.enumMember?_text]
        rfl

theorem nested_cells (cells : List Cell) (ending : Padding)
    (separated : ∀ cell ∈ cells.dropLast, cell.comma = true) :
    isNested unbarred (cells.flatMap Cell.text ++ ending.text) = true := by
  induction cells with
  | nil => exact ending.nested
  | cons cell cells ih =>
      have piece : isNested unbarred cell.piece = true :=
        isNestedFrom_mono (fun _ contrary => by cases contrary) cell.nested_piece
      rcases text_cons cell cells ending separated with ⟨further, split⟩ | ⟨-, split⟩
      · rw [split]
        exact isNested_append piece (isNested_cons rfl (ih further)) (by simp) (by simp)
      · rw [split]
        exact isNested_append piece ending.nested (ending.head?_ne rfl) (ending.head?_ne rfl)

variable (row : Row)

theorem nested_text : isNested unbarred row.text = true :=
  nested_cells row.cells row.ending row.separated

/-- Reading the text of a row gives back what the row declares. -/
theorem parseEnumMembers_text (number : Int) (comments : List Text) :
    (parseEnumMembers (Text.trim row.text) number comments).map nameAndValue = row.declared := by
  unfold parseEnumMembers declared
  rw [splitTopLevelAt_trim rfl, text,
    filterMap_cells number comments row.cells row.ending row.separated, List.map_map]
  rfl

/-- A row has no members, or it begins with a name. -/
theorem trim_text_cases : row.declared = [] ∧ Text.trim row.text = [] ∨
    ∃ first rest, Text.trim row.text = first :: rest ∧ isNameChar first = true := by
  unfold declared text
  cases row.cells with
  | nil =>
      refine .inl ⟨rfl, ?_⟩
      rw [List.flatMap_nil, List.nil_append, Text.trim_blanks row.ending.blank]
  | cons cell cells =>
      obtain ⟨behind, named⟩ := cell.member.exists_text_eq
      obtain ⟨first, others, begins, isName⟩ := cell.member.isWord.exists_cons
      rw [List.flatMap_cons, Cell.text, Cell.piece, named, begins]
      simp only [List.append_assoc, List.cons_append]
      rw [Text.trim_blanks_append cell.before.blank]
      exact .inr ⟨first, _, Text.trim_append_ink (isBlank_of_isNameChar isName) [] _, isName⟩

theorem head?_trim_ne : (Text.trim row.text).head? ≠ some '/' := by
  rcases row.trim_text_cases with ⟨-, empty⟩ | ⟨first, rest, begins, isName⟩
  · rw [empty]
    nofun
  · rw [begins]
    intro slash
    cases slash
    cases isName

/-- The segment of a row declares its members, whether an idle segment is looked at or not. -/
theorem attachMembers_text (number : Int) (register : CommentRegister) (trailing : Text) :
    (attachMembers (Text.trim row.text) number register trailing).1.map nameAndValue = row.declared :=
  row.parseEnumMembers_text number (register.attachWith trailing).1

theorem membersOfLine_text (before : Int) {closed opensHere : Bool} {code : Text}
    (segment : bodySegment code opensHere closed = Text.trim row.text)
    (own : ¬(before > 1 ∧ (!closed) = true)) (register : CommentRegister) (trailing : Text)
    (number : Nat) :
    (membersOfLine before closed register code trailing number opensHere).1.map nameAndValue =
      row.declared := by
  unfold membersOfLine
  rw [if_neg own, segment]
  dsimp only
  rcases row.trim_text_cases with ⟨nothing, empty⟩ | ⟨first, rest, begins, isName⟩
  · rw [empty, nothing]
    rfl
  · have notIdle : isIdleSegment (Text.trim row.text) = false := by
      have semicolon : first ≠ ';' := ne_of_isNameChar isName rfl
      have space : first ≠ ' ' := ne_of_isNameChar isName rfl
      have tab : first ≠ '\t' := ne_of_isNameChar isName rfl
      unfold isIdleSegment
      rw [begins, List.all_cons, beq_eq_false_iff_ne.mpr semicolon, beq_eq_false_iff_ne.mpr space,
        beq_eq_false_iff_ne.mpr tab]
      rfl
    rw [notIdle, if_neg Bool.false_ne_true]
    exact row.attachMembers_text number register trailing

end Row

/-! ### Lines -/

/-- Rows on lines of their own, the last one with the closing brace; a given text stands in front of the first
row. -/
def closingLines (ending : Padding) (front : Text) (row : Row) : List Row → List Text
  | [] => [front ++ (row.text ++ '\x7d' :: ending.text)]
  | next :: rows => (front ++ row.text) :: closingLines ending [] next rows

/-- A line of code inside a body: the balance behind it decides whether the body goes on. -/
theorem openEnumBody_line {line : Text} {delta : Int} (weighs : Weighs line delta)
    (noSlash : (Text.trim line).head? ≠ some '/') (balance : Int) (register : CommentRegister)
    (number : Nat) (rest : List Line) :
    openEnumBody balance register (⟨number, Text.trim line⟩ :: rest) =
      let closed := closesBody (balance + delta) delta (Text.trim line)
      let found := membersOfLine balance closed register (Text.trim line) [] number false
      if closed then (found.1, rest)
      else
        let further := openEnumBody (balance + delta) found.2 rest
        (found.1 ++ further.1, further.2) := by
  rw [openEnumBody_ignored
    (CommentRegister.consume?_eq_none_of_head (Text.trim_trim line) noSlash register number rest)]
  dsimp only
  rw [weighs.code]
  dsimp only
  rw [weighs.delta_trim]

/-- Inside a body each row is read from its line, and the scan ends behind the closing brace. -/
theorem openEnumBody_rows (ending : Padding) (row : Row) (rows : List Row) (register : CommentRegister)
    (number : Nat) (behind : List Text) :
    (openEnumBody 1 register (numberedLines number (closingLines ending [] row rows ++ behind))).1.map
        nameAndValue = (row :: rows).flatMap Row.declared ∧
      (openEnumBody 1 register (numberedLines number (closingLines ending [] row rows ++ behind))).2 =
        numberedLines (number + rows.length + 1) behind := by
  induction rows generalizing row register number with
  | nil =>
      have segment := bodySegment_closing row.text ending.blank
      have own := row.membersOfLine_text 1 segment (by simp) register [] number
      have closed : closesBody (1 + -1) (-1) (Text.trim (row.text ++ '\x7d' :: ending.text)) = true := rfl
      rw [closingLines, List.nil_append, List.singleton_append, numberedLines,
        openEnumBody_line (weighs_closing row.nested_text ending) (head?_closing row.head?_trim_ne)]
      dsimp only
      rw [closed, if_pos rfl, own, List.flatMap_singleton]
      exact ⟨rfl, rfl⟩
  | cons next rows ih =>
      have segment : bodySegment (Text.trim row.text) false false = Text.trim row.text := Text.trim_trim _
      have own := row.membersOfLine_text 1 segment (by simp) register [] number
      have opened : closesBody (1 + 0) 0 (Text.trim row.text) = false := rfl
      rw [closingLines, List.nil_append, List.cons_append, numberedLines,
        openEnumBody_line (.of_nested row.nested_text) row.head?_trim_ne]
      dsimp only
      rw [opened, if_neg Bool.false_ne_true]
      obtain ⟨members, remaining⟩ := ih next (membersOfLine 1 false register (Text.trim row.text) []
        number false).2 (number + 1)
      rw [Int.add_zero, List.map_append, own, members, remaining, List.flatMap_cons, List.length_cons]
      refine ⟨rfl, ?_⟩
      rw [show number + 1 + rows.length + 1 = number + (rows.length + 1) + 1 by omega]

/-! ### Bodies -/

section Bodies

variable {line : Text} {delta : Int} (weighs : Weighs line delta) (number : Nat) (rest : List Line)
include weighs

theorem pendingEnumBody_line (balance : Int) :
    pendingEnumBody balance (⟨number, Text.trim line⟩ :: rest) =
      if opensBrace line then
        let closed := closesBody (balance + delta) delta (Text.trim line)
        let found := membersOfLine balance closed .empty (Text.trim line) [] number true
        if closed then (found.1, rest)
        else
          let further := openEnumBody (balance + delta) found.2 rest
          (found.1 ++ further.1, further.2)
      else if Text.endsWith ';' (Text.trim line) then ([], rest)
      else pendingEnumBody (balance + delta) rest := by
  rw [pendingEnumBody]
  dsimp only
  rw [weighs.code]
  dsimp only
  rw [weighs.delta_trim, weighs.ends.opensBrace_trim]

theorem enumBody_line :
    enumBody ⟨number, Text.trim line⟩ rest =
      if opensBrace line then
        let closed := decide (delta ≤ 0)
        let segment := bodySegment (Text.trim line) true closed
        let found :=
          if segment.isEmpty then ([], CommentRegister.empty)
          else attachMembers segment number .empty []
        if closed then (found.1, rest)
        else
          let further := openEnumBody delta found.2 rest
          (found.1 ++ further.1, further.2)
      else if Text.endsWith ';' (Text.trim line) then ([], rest)
      else pendingEnumBody delta rest := by
  unfold enumBody
  rw [weighs.code]
  dsimp only
  rw [weighs.delta_trim, weighs.ends.opensBrace_trim]

end Bodies

theorem openingText (front body : Text) : front ++ ['\x7b'] ++ body = front ++ '\x7b' :: body := by
  rw [List.append_assoc, List.singleton_append]

/-- A body whose brace opens on the line of the header. -/
theorem enumBody_rows (front : Front) (ending : Padding) (row : Row) (rows : List Row) (number : Nat)
    (behind : List Text) : ∃ body delta rest,
      numberedLines number (closingLines ending (front.text ++ ['\x7b']) row rows ++ behind) =
          ⟨number, Text.trim (front.text ++ '\x7b' :: body)⟩ :: rest ∧
        Weighs (front.text ++ '\x7b' :: body) delta ∧
        (enumBody ⟨number, Text.trim (front.text ++ '\x7b' :: body)⟩ rest).1.map nameAndValue =
          (row :: rows).flatMap Row.declared ∧
        (enumBody ⟨number, Text.trim (front.text ++ '\x7b' :: body)⟩ rest).2 =
          numberedLines (number + rows.length + 1) behind := by
  have found : (if (Text.trim row.text).isEmpty then ([], CommentRegister.empty)
      else attachMembers (Text.trim row.text) number .empty []).1.map nameAndValue = row.declared := by
    rcases row.trim_text_cases with ⟨nothing, empty⟩ | ⟨first, others, begins, isName⟩
    · rw [nothing, empty]
      rfl
    · rw [begins, List.isEmpty_cons, if_neg Bool.false_ne_true, ← begins]
      exact row.attachMembers_text number .empty []
  cases rows with
  | nil =>
      have weighs := weighs_both front.nested row.nested_text ending
      have segment := bodySegment_both front.unopened row.text ending.blank
      refine ⟨_, _, _, by rw [closingLines, openingText, List.singleton_append, numberedLines], weighs, ?_⟩
      rw [enumBody_line weighs, opensBrace_opening front.nested, if_pos rfl]
      dsimp only
      rw [show decide ((0 : Int) ≤ 0) = true from rfl, segment, if_pos rfl, List.flatMap_singleton]
      exact ⟨found, rfl⟩
  | cons next rows =>
      have weighs := weighs_opening front.nested row.nested_text
      have segment := bodySegment_opening front.unopened row.text
      refine ⟨_, _, _, by rw [closingLines, openingText, List.cons_append, numberedLines], weighs, ?_⟩
      rw [enumBody_line weighs, opensBrace_opening front.nested, if_pos rfl]
      dsimp only
      rw [show decide ((1 : Int) ≤ 0) = false from rfl, segment, if_neg Bool.false_ne_true]
      obtain ⟨members, remaining⟩ := openEnumBody_rows ending next rows
        (if (Text.trim row.text).isEmpty then ([], CommentRegister.empty)
          else attachMembers (Text.trim row.text) number .empty []).2 (number + 1) behind
      rw [List.map_append, found, members, remaining, List.length_cons, List.flatMap_cons]
      refine ⟨rfl, ?_⟩
      rw [show number + 1 + rows.length + 1 = number + (rows.length + 1) + 1 by omega]

/-- A body whose brace opens on a later line. -/
theorem pendingEnumBody_rows (indent ending : Padding) (row : Row) (rows : List Row) (number : Nat)
    (behind : List Text) :
    (pendingEnumBody 0 (numberedLines number
        (closingLines ending (indent.text ++ ['\x7b']) row rows ++ behind))).1.map nameAndValue =
          (row :: rows).flatMap Row.declared ∧
      (pendingEnumBody 0 (numberedLines number
        (closingLines ending (indent.text ++ ['\x7b']) row rows ++ behind))).2 =
          numberedLines (number + rows.length + 1) behind := by
  have unopened : '\x7b' ∉ indent.text := indent.not_mem rfl
  cases rows with
  | nil =>
      have weighs := weighs_both indent.nested row.nested_text ending
      have segment := bodySegment_both unopened row.text ending.blank
      have brace : (Text.trim (indent.text ++ '\x7b' :: (row.text ++ '\x7d' :: ending.text))).contains
          '\x7d' = true :=
        List.contains_iff_mem.mpr (Text.mem_trim (by simp) rfl)
      have closed : closesBody (0 + 0) 0
          (Text.trim (indent.text ++ '\x7b' :: (row.text ++ '\x7d' :: ending.text))) = true := by
        unfold closesBody
        rw [brace]
        rfl
      have own := row.membersOfLine_text 0 segment (by simp) .empty [] number
      rw [closingLines, openingText, List.singleton_append, numberedLines, pendingEnumBody_line weighs,
        opensBrace_opening indent.nested, if_pos rfl]
      dsimp only
      rw [closed, if_pos rfl, own, List.flatMap_singleton]
      exact ⟨rfl, rfl⟩
  | cons next rows =>
      have weighs := weighs_opening indent.nested row.nested_text
      have segment := bodySegment_opening unopened row.text
      have opened : closesBody (0 + 1) 1 (Text.trim (indent.text ++ '\x7b' :: row.text)) = false := rfl
      have own := row.membersOfLine_text 0 segment (by simp) .empty [] number
      rw [closingLines, openingText, List.cons_append, numberedLines, pendingEnumBody_line weighs,
        opensBrace_opening indent.nested, if_pos rfl]
      dsimp only
      rw [opened, if_neg Bool.false_ne_true]
      obtain ⟨members, remaining⟩ := openEnumBody_rows ending next rows
        (membersOfLine 0 false .empty (Text.trim (indent.text ++ '\x7b' :: row.text)) [] number true).2
        (number + 1) behind
      rw [Int.zero_add, List.map_append, own, members, remaining, List.length_cons, List.flatMap_cons]
      refine ⟨rfl, ?_⟩
      rw [show number + 1 + rows.length + 1 = number + (rows.length + 1) + 1 by omega]

/-- Empty lines in front of a body are passed over. -/
theorem pendingEnumBody_blank (empty : List Padding) (number : Nat) (behind : List Text) :
    pendingEnumBody 0 (numberedLines number (empty.map Padding.text ++ behind)) =
      pendingEnumBody 0 (numberedLines (number + empty.length) behind) := by
  induction empty generalizing number with
  | nil => rfl
  | cons padding empty ih =>
      have nothing : Text.trim padding.text = [] := Text.trim_blanks padding.blank
      rw [List.map_cons, List.cons_append, numberedLines, nothing, pendingEnumBody]
      have further := ih (number + 1)
      rw [show number + 1 + empty.length = number + (padding :: empty).length by
        rw [List.length_cons]; omega] at further
      exact further

/-! ### Enums -/

/-- An enum as it is laid out. The opening brace stands on the line of the header, or, behind any number of
empty lines, on a line of its own. -/
structure EnumLayout where
  name : Text
  named : Text.isIdentifier name = true
  indent : Padding
  gap : Padding
  below : Option (List Padding × Padding)
  first : Row
  further : List Row
  ending : Padding

namespace EnumLayout

variable (layout : EnumLayout)

def header : HeaderLayout :=
  ⟨.enum, layout.name, layout.named, layout.indent, layout.gap⟩

def lines : List Text :=
  match layout.below with
  | none => closingLines layout.ending (layout.header.text ++ ['\x7b']) layout.first layout.further
  | some (empty, indent) =>
      layout.header.text :: (empty.map Padding.text ++
        closingLines layout.ending (indent.text ++ ['\x7b']) layout.first layout.further)

def declared : List (Text × Text) :=
  (layout.first :: layout.further).flatMap Row.declared

/-- A header with no brace leaves the body to the lines behind it. -/
theorem enumBody_header (number : Nat) (rest : List Line) :
    enumBody ⟨number, Text.trim layout.header.text⟩ rest = pendingEnumBody 0 rest := by
  rw [enumBody_line (.of_nested layout.header.nested_text), layout.header.opensBrace_text,
    if_neg Bool.false_ne_true, layout.header.endsWith_text, if_neg Bool.false_ne_true]

theorem length_closingLines (ending : Padding) (front : Text) (row : Row) (rows : List Row) :
    (closingLines ending front row rows).length = rows.length + 1 := by
  induction rows generalizing front row with
  | nil => rfl
  | cons next rows ih => rw [closingLines, List.length_cons, ih, List.length_cons]

/-- The body of an enum is read behind the line of its header. -/
theorem enumBody_lines (number : Nat) (behind : List Text) : ∃ line rest,
    numberedLines number (layout.lines ++ behind) = ⟨number, Text.trim line⟩ :: rest ∧
      (∃ header, matchHeader? (Text.trim line) = some header ∧ header.kind = .enum ∧
        header.name = layout.name) ∧
      (enumBody ⟨number, Text.trim line⟩ rest).1.map nameAndValue = layout.declared ∧
      (enumBody ⟨number, Text.trim line⟩ rest).2 =
        numberedLines (number + layout.lines.length) behind := by
  unfold lines
  cases layout.below with
  | none =>
      obtain ⟨body, delta, rest, begins, weighs, members, remaining⟩ :=
        enumBody_rows layout.header.front layout.ending layout.first layout.further number behind
      have matched := layout.header.matchHeader?_opening weighs
      refine ⟨_, rest, begins, matched, members, ?_⟩
      rw [remaining, length_closingLines, Nat.add_assoc]
  | some below =>
      obtain ⟨empty, indent⟩ := below
      have ends : EndsName [] := fun character first => by cases first
      have weighs : Weighs (layout.header.text ++ []) 0 := by
        rw [List.append_nil]
        exact .of_nested layout.header.nested_text
      have matched := layout.header.matchHeader?_text ends (.inl List.not_mem_nil) weighs
      rw [List.append_nil] at matched
      obtain ⟨members, remaining⟩ := pendingEnumBody_rows indent layout.ending layout.first
        layout.further (number + 1 + empty.length) behind
      refine ⟨layout.header.text, _, by rw [List.cons_append, numberedLines], matched, ?_⟩
      rw [enumBody_header, List.append_assoc, pendingEnumBody_blank, members, remaining]
      refine ⟨rfl, ?_⟩
      rw [List.length_cons, List.length_append, List.length_map, length_closingLines]
      rw [show number + 1 + empty.length + layout.further.length + 1 =
        number + (empty.length + (layout.further.length + 1) + 1) by omega]

end EnumLayout

/-- Wherever an enum stands among other lines and however it is laid out, its header is matched, and a scan
gives back its name and its members with their values, in their order. The scan leaves the lines behind the
one with the closing brace. -/
theorem scanEnum_layout (layout : EnumLayout) (comments before behind : List Text) :
    ∃ first rest header enum,
      Cursor.linesFrom (before ++ (layout.lines ++ behind)) before.length = first :: rest ∧
        matchHeader? first.text = some header ∧ header.kind = .enum ∧
        scanEnum header.name comments first rest =
          (some enum, Cursor.linesFrom (before ++ (layout.lines ++ behind))
            (before.length + layout.lines.length)) ∧
        Cursor.scanEnumAt (before ++ (layout.lines ++ behind)) before.length comments =
          .ok (some enum, before.length + layout.lines.length) ∧
        enum.name = layout.name ∧ enum.members.map nameAndValue = layout.declared := by
  obtain ⟨line, rest, begins, ⟨header, matched, sort, named⟩, members, remaining⟩ :=
    layout.enumBody_lines (before.length + 1) behind
  obtain ⟨inside, text, here, others⟩ := exists_lineOf begins
  have filled : header.name.isEmpty = false := by
    rw [named]
    exact layout.header.isWord.isEmpty
  have scanned : scanEnum header.name comments ⟨before.length + 1, Text.trim line⟩ rest =
      (some { name := header.name, comments := comments
              members := (enumBody ⟨before.length + 1, Text.trim line⟩ rest).1
              line := Int.ofNat (before.length + 1) },
        Cursor.linesFrom (before ++ (layout.lines ++ behind)) (before.length + layout.lines.length)) := by
    unfold scanEnum
    rw [linesFrom_between, ← remaining, filled]
    rfl
  have fromHere := Cursor.linesFrom_eq_cons inside
  rw [text, others] at fromHere
  refine ⟨_, rest, header, _, fromHere, matched, sort, scanned, ?_, named, members⟩
  have follows := Cursor.scanEnumAt_follows inside (by rw [text, matched]) sort comments
  rw [here, others, scanned] at follows
  exact eq_ok_of_follows follows (by simp only [List.length_append]; omega) rfl

def mixedLayout : EnumLayout where
  name := "Mode".toList
  named := rfl
  indent := .none
  gap := .none
  below := some ([], .space)
  first :=
    { cells :=
        [{ member := ⟨"On".toList, "bits(1, 2)".toList, rfl, by decide, by decide⟩
           before := .space, behind := .none, comma := true },
          { member := ⟨"Off".toList, "'\x7d'".toList, rfl, by decide, by decide⟩
            before := .space, behind := .space, comma := true }]
      ending := .none
      separated := by simp }
  further :=
    [{ cells := [{ member := ⟨"Rest".toList, [], rfl, rfl, rfl⟩
                   before := .none, behind := .none, comma := false }]
       ending := .space
       separated := by simp }]
  ending := .none

example : mixedLayout.lines =
    ["enum Mode".toList, " \x7b On = bits(1, 2), Off = '\x7d' ,".toList, "Rest \x7d".toList] := by
  decide

end DocSite.Layout
