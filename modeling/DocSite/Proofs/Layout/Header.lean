/-
Headers in any layout.

A header is a keyword, a space and a name. Behind the name the line may end, or blanks may follow, or the brace
that opens the body, with any of the body behind it. The header is matched all the same, and its name is the
name that was written.
-/
import DocSite.Proofs.Canonical.Lines
import DocSite.Proofs.Cursor.Layout
import DocSite.Proofs.Layout.Braces

namespace DocSite.Layout

open Text (IsWord)
open Canonical (isWord_keyword)

def EndsName (rest : Text) : Prop :=
  ∀ character ∈ rest.head?, isBlank character = true ∨ character = '\x7b'

theorem EndsName.takeWhile {rest : Text} (ends : EndsName rest) (kept : Char → Bool) :
    EndsName (rest.takeWhile kept) := by
  intro character first
  obtain ⟨others, begins⟩ := List.head?_eq_some_iff.mp first
  obtain ⟨more, whole⟩ := List.takeWhile_prefix (l := rest) kept
  rw [begins] at whole
  exact ends character (by rw [← whole]; rfl)

theorem EndsName.trimRight {rest : Text} (ends : EndsName rest) : EndsName (Text.trimRight rest) := by
  intro character first
  obtain ⟨others, begins⟩ := List.head?_eq_some_iff.mp first
  obtain ⟨more, whole⟩ := Text.trimRight_begins rest
  rw [begins] at whole
  exact ends character (by rw [← whole]; rfl)

theorem EndsName.padding (padding : Padding) {rest : Text} (ends : EndsName rest) :
    EndsName (padding.text ++ rest) := by
  intro character first
  cases begins : padding.text with
  | nil =>
      rw [begins] at first
      exact ends character first
  | cons blank others =>
      rw [begins] at first
      cases first
      exact .inl (padding.blank character (by rw [begins]; exact List.mem_cons_self))

/-- The first word of a text that begins with one. -/
theorem firstWord?_eq_takeWhile {first : Char} (ink : isBlank first = false) (rest : Text) :
    Text.firstWord? (first :: rest) =
      some (first :: rest.takeWhile fun character => !isBlank character) := by
  unfold Text.firstWord?
  induction rest generalizing first with
  | nil => rw [Text.words, if_neg (by rw [ink]; exact Bool.false_ne_true)]; rfl
  | cons next rest ih =>
      rw [Text.words.eq_def]
      dsimp only
      rw [if_neg (by rw [ink]; exact Bool.false_ne_true)]
      by_cases blank : isBlank next = true
      · rw [if_pos blank, List.takeWhile_cons_of_neg (by rw [blank]; exact Bool.false_ne_true)]
        rfl
      · rw [Bool.not_eq_true] at blank
        have further := ih blank
        rw [if_neg (by rw [blank]; exact Bool.false_ne_true),
          List.takeWhile_cons_of_pos (by rw [blank]; rfl)]
        cases found : Text.words (next :: rest) with
        | nil =>
            rw [found] at further
            cases further
        | cons word words =>
            rw [found] at further
            cases further
            rfl

theorem name_of_word (kind : ContainerKind) {name rest : Text} (isWord : IsWord name)
    (ends : EndsName rest) : (⟨kind, ' ' :: (name ++ rest)⟩ : ContainerHeader).name = name := by
  obtain ⟨first, others, begins, isName⟩ := isWord.exists_cons
  have ink := isWord.ink
  have behind : Text.firstWord? (' ' :: (name ++ rest)) =
      some (name ++ rest.takeWhile fun character => !isBlank character) := by
    have skipped : Text.words (' ' :: (name ++ rest)) = Text.words (name ++ rest) := by
      rw [Text.words.eq_def]
      exact if_pos rfl
    have found : Text.firstWord? (name ++ rest) =
        some (name ++ rest.takeWhile fun character => !isBlank character) := by
      have kept : ∀ character ∈ others, (!isBlank character) = true := by
        intro character member
        rw [ink character (by rw [begins]; exact List.mem_cons_of_mem _ member)]
        rfl
      rw [begins, List.cons_append, firstWord?_eq_takeWhile (isBlank_of_isNameChar isName),
        List.takeWhile_append_of_pos kept, List.cons_append]
    unfold Text.firstWord? at found ⊢
    rw [skipped, found]
  have stops : (rest.takeWhile fun character => !isBlank character).takeWhile (fun character =>
      !(character == '\x7b' || character == ':' || character == '(' || character == ';')) = [] := by
    cases shape : rest.takeWhile fun character => !isBlank character with
    | nil => rfl
    | cons character more =>
        have inside : character ∈ (rest.takeWhile fun character => !isBlank character).head? := by
          rw [shape]
          rfl
        have member : character ∈ rest.takeWhile fun character => !isBlank character := by
          rw [shape]
          exact List.mem_cons_self
        have notBlank := List.mem_takeWhile_imp member
        rcases ends.takeWhile _ character inside with blank | brace
        · rw [blank] at notBlank
          cases notBlank
        · rw [brace]
          rfl
  have kept : ∀ character ∈ name, (!(character == '\x7b' || character == ':' || character == '(' ||
      character == ';')) = true := by
    intro character member
    have isNameHere := isWord.names character member
    have brace : character ≠ '\x7b' := ne_of_isNameChar isNameHere rfl
    have colon : character ≠ ':' := ne_of_isNameChar isNameHere rfl
    have parenthesis : character ≠ '(' := ne_of_isNameChar isNameHere rfl
    have semicolon : character ≠ ';' := ne_of_isNameChar isNameHere rfl
    simp only [beq_eq_false_iff_ne.mpr brace, beq_eq_false_iff_ne.mpr colon,
      beq_eq_false_iff_ne.mpr parenthesis, beq_eq_false_iff_ne.mpr semicolon, Bool.or_self,
      Bool.not_false]
  unfold ContainerHeader.name
  rw [behind]
  dsimp only
  rw [List.takeWhile_append_of_pos kept, stops, List.append_nil]

theorem trim_header (kind : ContainerKind) {name : Text} (isWord : IsWord name) (indent : Padding)
    (rest : Text) :
    Text.trim (indent.text ++ (kind.keyword ++ ' ' :: (name ++ rest))) =
      kind.keyword ++ ' ' :: (name ++ Text.trimRight rest) := by
  have starts := Text.IsWord.startsInk (isWord_keyword kind) (' ' :: (name ++ rest))
  have last : name = name.dropLast ++ [name.getLast isWord.ne_nil] :=
    (List.dropLast_append_getLast isWord.ne_nil).symm
  have ink := isWord.ink _ (List.getLast_mem isWord.ne_nil)
  have split (behind : Text) : kind.keyword ++ ' ' :: (name ++ behind) =
      (kind.keyword ++ ' ' :: name.dropLast) ++ name.getLast isWord.ne_nil :: behind := by
    conv_lhs => rw [last]
    simp only [List.append_assoc, List.cons_append, List.nil_append]
  rw [Text.trim_blanks_append indent.blank, Text.trim_eq_trimRight starts, split,
    Text.trimRight_append_ink ink, ← split]

/-- A header is matched whatever follows its name. Only a line with an equals sign and no brace would be no
header of an enum. -/
theorem matchHeader?_word (kind : ContainerKind) {name rest line : Text} (isWord : IsWord name)
    (ends : EndsName rest) (code : codeOf (Text.trim line) = kind.keyword ++ ' ' :: (name ++ rest))
    (noConstant : '=' ∉ rest ∨ '\x7b' ∈ rest) :
    ∃ header, matchHeader? line = some header ∧ header.kind = kind ∧ header.name = name := by
  have oneLine : ∀ character ∈ ' ' :: name, decide (character ≠ '\n') = true := by
    intro character member
    rw [decide_eq_true_eq]
    rcases List.mem_cons.mp member with rfl | inName
    · decide
    · exact ne_of_isNameChar (isWord.names character inName) rfl
  have found : headerOfCode? (kind.keyword ++ ' ' :: (name ++ rest)) =
      some ⟨kind, ' ' :: (name ++ rest.takeWhile (· ≠ '\n'))⟩ := by
    rw [headerOfCode?_keyword kind (Canonical.endsWord_space _), ← List.cons_append,
      List.takeWhile_append_of_pos oneLine]
    rfl
  have noConstant : ¬(kind = .enum ∧ !(kind.keyword ++ ' ' :: (name ++ rest)).contains '\x7b' ∧
      (kind.keyword ++ ' ' :: (name ++ rest)).contains '=') := by
    rintro ⟨-, noBrace, sign⟩
    rw [List.contains_iff_mem] at sign
    rcases noConstant with noSign | brace
    · have inKeyword : '=' ∉ kind.keyword := fun member => by
        cases (isWord_keyword kind).names '=' member
      have inName : '=' ∉ name := fun member => by cases isWord.names '=' member
      simp only [List.mem_append, List.mem_cons] at sign
      rcases sign with inside | blank | inside | inside
      · exact inKeyword inside
      · cases blank
      · exact inName inside
      · exact noSign inside
    · have inside : (kind.keyword ++ ' ' :: (name ++ rest)).contains '\x7b' = true :=
        List.contains_iff_mem.mpr
          (List.mem_append_right _ (List.mem_cons_of_mem _ (List.mem_append_right _ brace)))
      rw [inside] at noBrace
      cases noBrace
  refine ⟨⟨kind, ' ' :: (name ++ rest.takeWhile (· ≠ '\n'))⟩, ?_, rfl,
    name_of_word kind isWord (ends.takeWhile _)⟩
  unfold matchHeader?
  rw [code]
  dsimp only
  rw [found]
  exact if_neg noConstant

/-- A header in its layout. -/
theorem matchHeader?_layout (kind : ContainerKind) {name rest : Text} (isWord : IsWord name)
    (indent : Padding) (ends : EndsName rest) {delta : Int}
    (weighs : Weighs (indent.text ++ (kind.keyword ++ ' ' :: (name ++ rest))) delta)
    (noConstant : '=' ∉ rest ∨ '\x7b' ∈ rest) :
    ∃ header, matchHeader? (Text.trim (indent.text ++ (kind.keyword ++ ' ' :: (name ++ rest)))) =
      some header ∧ header.kind = kind ∧ header.name = name := by
  have code := weighs.codeOf_trim
  have trimmed := trim_header kind isWord indent rest
  refine matchHeader?_word kind isWord ends.trimRight (code.trans trimmed) ?_
  rcases noConstant with noSign | brace
  · exact .inl fun member => noSign ((Text.trimRight_begins rest).sublist.mem member)
  · obtain ⟨front, behind, split⟩ := List.append_of_mem brace
    refine .inr ?_
    rw [split, Text.trimRight_append_ink rfl]
    exact List.mem_append_right _ List.mem_cons_self

/-! ### The layout of a header -/

structure Front where
  text : Text
  nested : isNested unbarred text = true
  unopened : '\x7b' ∉ text

structure HeaderLayout where
  kind : ContainerKind
  name : Text
  named : Text.isIdentifier name = true
  indent : Padding
  gap : Padding

namespace HeaderLayout

variable (header : HeaderLayout)

def text : Text :=
  header.indent.text ++ (header.kind.keyword ++ ' ' :: (header.name ++ header.gap.text))

theorem isWord : IsWord header.name :=
  Text.isWord_of_isIdentifier header.named

theorem soft_word : Canonical.Soft (header.kind.keyword ++ ' ' :: header.name) :=
  (Canonical.soft_keyword header.kind).append (.cons rfl (Canonical.soft_of_names header.isWord.names))

theorem nested_text : isNested unbarred header.text = true := by
  have soft := header.soft_word
  have word : ∀ character ∈ header.kind.keyword ++ ' ' :: header.name,
      isSilent unbarred character = true := by
    intro character member
    unfold isSilent
    rw [soft.plain character member, soft.flat character member]
    rfl
  have whole : header.text =
      header.indent.text ++ ((header.kind.keyword ++ ' ' :: header.name) ++ header.gap.text) := by
    unfold text
    simp only [List.append_assoc, List.cons_append]
  rw [whole]
  exact isNested_silent_append (header.indent.silent fun _ _ => rfl)
    (isNested_silent_append word header.gap.nested)

theorem not_mem_text {character : Char} (hard : Canonical.isSoft character = false)
    (ink : isBlank character = false) : character ∉ header.text := by
  have inWord := header.soft_word.not_mem hard
  simp only [List.mem_append, List.mem_cons, not_or] at inWord
  unfold text
  simp only [List.mem_append, List.mem_cons, not_or]
  exact ⟨header.indent.not_mem ink, inWord.1, inWord.2.1, inWord.2.2, header.gap.not_mem ink⟩

def front : Front where
  text := header.text
  nested := header.nested_text
  unopened := header.not_mem_text rfl rfl

theorem opensBrace_text : opensBrace header.text = false := by
  rw [Bool.eq_false_iff]
  intro opens
  exact header.not_mem_text rfl rfl
    ((CodeScan.bare_sublist .code false header.text).mem (List.contains_iff_mem.mp opens))

/-- A header ends with its name, and so with no semicolon. -/
theorem endsWith_text : Text.endsWith ';' (Text.trim header.text) = false := by
  have trimmed := trim_header header.kind header.isWord header.indent header.gap.text
  have nothing : Text.trimRight header.gap.text = [] :=
    Text.trimRight_append_blanks [] header.gap.blank
  have last := header.isWord.names _ (List.getLast_mem header.isWord.ne_nil)
  unfold text Text.endsWith
  rw [trimmed, nothing, List.append_nil, ← List.singleton_append, ← List.append_assoc,
    List.getLast?_append_of_ne_nil _ header.isWord.ne_nil,
    List.getLast?_eq_some_getLast header.isWord.ne_nil, beq_eq_false_iff_ne]
  intro same
  rw [Option.some.inj same] at last
  cases last

/-- The header is matched with its kind and its name. -/
theorem matchHeader?_text {rest : Text} (ends : EndsName rest) (brace : '=' ∉ rest ∨ '\x7b' ∈ rest)
    {delta : Int} (weighs : Weighs (header.text ++ rest) delta) :
    ∃ found, matchHeader? (Text.trim (header.text ++ rest)) = some found ∧
      found.kind = header.kind ∧ found.name = header.name := by
  have whole : header.text ++ rest = header.indent.text ++
      (header.kind.keyword ++ ' ' :: (header.name ++ (header.gap.text ++ rest))) := by
    unfold text
    simp only [List.append_assoc, List.cons_append]
  rw [whole] at weighs ⊢
  refine matchHeader?_layout header.kind header.isWord header.indent (ends.padding header.gap) weighs ?_
  simp only [List.mem_append, not_or]
  exact brace.imp (fun noSign => ⟨header.gap.not_mem rfl, noSign⟩) .inr

/-- A header whose body opens on its line is matched. -/
theorem matchHeader?_opening {body : Text} {delta : Int}
    (weighs : Weighs (header.text ++ '\x7b' :: body) delta) :
    ∃ found, matchHeader? (Text.trim (header.text ++ '\x7b' :: body)) = some found ∧
      found.kind = header.kind ∧ found.name = header.name := by
  have ends : EndsName ('\x7b' :: body) := fun character first => by
    cases first
    exact .inr rfl
  exact header.matchHeader?_text ends (.inr List.mem_cons_self) weighs

end HeaderLayout

/-! ### A container among other lines -/

section Placed

open Cursor (linesFrom lineOf Follows Scan)

theorem linesFrom_between (before own behind : List Text) :
    linesFrom (before ++ (own ++ behind)) (before.length + own.length) =
      numberedLines (before.length + 1 + own.length) behind := by
  rw [linesFrom, List.drop_append, List.drop_of_length_le (Nat.le_add_right _ _),
    List.nil_append, Nat.add_sub_cancel_left, List.drop_left,
    show before.length + own.length + 1 = before.length + 1 + own.length by omega]

theorem exists_lineOf {before lines : List Text} {text : Text} {rest : List Line}
    (begins : numberedLines (before.length + 1) lines = ⟨before.length + 1, text⟩ :: rest) :
    ∃ inside : before.length < (before ++ lines).length,
      Text.trim (before ++ lines)[before.length] = text ∧
        lineOf (before ++ lines) before.length inside = ⟨before.length + 1, text⟩ ∧
        linesFrom (before ++ lines) (before.length + 1) = rest := by
  have fromHere : linesFrom (before ++ lines) before.length = ⟨before.length + 1, text⟩ :: rest := by
    rw [linesFrom, List.drop_left, begins]
  have inside : before.length < (before ++ lines).length := by
    by_contra outside
    rw [Cursor.linesFrom_eq_nil (Nat.le_of_not_lt outside)] at fromHere
    cases fromHere
  rw [Cursor.linesFrom_eq_cons inside] at fromHere
  obtain ⟨same, others⟩ := List.cons.inj fromHere
  exact ⟨inside, congrArg Line.text same, same, others⟩

/-- A scan that leaves the lines from a position on stops there. -/
theorem eq_ok_of_follows {Result : Type} {lines : List Text} {position stop : Nat}
    {scan : Scan (Result × Nat)} {plain : Result × List Line} (follows : Follows lines position scan plain)
    (within : stop ≤ lines.length) (leaves : plain.2 = linesFrom lines stop) :
    scan = .ok (plain.1, stop) := by
  obtain ⟨resume, succeeds, remains, -, resumeWithin⟩ := follows
  have place := Cursor.resume_eq rfl within resumeWithin (remains.symm.trans leaves)
  rw [succeeds, place]

end Placed

end DocSite.Layout
