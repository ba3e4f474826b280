/-
Nesting comments.

A nesting comment ends at the closer that matches its opener. The reader of comments counts the openers and the
closers of each line instead, takes every line up to the one that brings the count back, and drops a closer only
from the end of that line. On lines in which no two marks overlap the two find the same prose exactly if nothing
stands behind the matching closer.
-/
import DocSite.Proofs.Comment.Prose
import DocSite.Proofs.Source.Extent
import Mathlib.Data.List.Infix

namespace DocSite

open Cursor (linesFrom lineOf linesFrom_eq_cons linesFrom_eq_nil commentAt commentAt_follows)

/-! ### Matching closers -/

/-- What reading a text inside a nesting comment mark by mark finds: the text in front of the matching closer and
the text behind it, or the number of comments inside that are still open at the end. -/
inductive NestingText where
  | closed (inside behind : Text)
  | unclosed (deeper : Nat)
  deriving DecidableEq

def NestingText.behindText (front : Text) : NestingText → NestingText
  | .closed inside behind => .closed (front ++ inside) behind
  | .unclosed deeper => .unclosed deeper

def readNesting : Nat → Text → NestingText
  | deeper, [] => .unclosed deeper
  | deeper, [_] => .unclosed deeper
  | deeper, first :: second :: rest =>
      if first = '/' ∧ second = '+' then (readNesting (deeper + 1) rest).behindText ['/', '+']
      else if first = '+' ∧ second = '/' then
        if deeper = 0 then .closed [] rest else (readNesting (deeper - 1) rest).behindText ['+', '/']
      else (readNesting deeper (second :: rest)).behindText [first]

/-- The text of a comment between its marks, line by line, and what stands behind its closer if it has one. -/
structure MatchedComment where
  inside : List Text
  behind : Option Text

/-- Reads lines up to the matching closer. The plus signs in front of a closer are a part of it. -/
def readMatched : Nat → List Text → MatchedComment
  | _, [] => ⟨[], none⟩
  | deeper, line :: rest =>
      match readNesting deeper line with
      | .closed inside behind => ⟨[inside.rdropWhile (· == '+')], some behind⟩
      | .unclosed more =>
          let further := readMatched more rest
          ⟨line :: further.inside, further.behind⟩

def behindOpener : List Text → List Text
  | [] => []
  | first :: rest => first.drop 2 :: rest

def matchedAt (lines : List Text) (start : Nat) : MatchedComment :=
  readMatched 0 (behindOpener (linesBetween lines start lines.length))

def MatchedComment.prose (comment : MatchedComment) : List Text :=
  trimEmptyLines (comment.inside.map cleanCommentLine)

theorem NestingText.behindText_eq_closed {found : NestingText} {front inside behind : Text}
    (closed : found.behindText front = .closed inside behind) :
    ∃ within, inside = front ++ within ∧ found = .closed within behind := by
  cases found with
  | closed within after =>
      cases closed
      exact ⟨within, rfl, rfl⟩
  | unclosed deeper => cases closed

/-- The closer that is found stands in the text. -/
theorem readNesting_closed {deeper : Nat} {text inside behind : Text}
    (closed : readNesting deeper text = .closed inside behind) : text = inside ++ '+' :: '/' :: behind := by
  induction deeper, text using readNesting.induct generalizing inside with
  | case1 => cases closed
  | case2 => cases closed
  | case3 deeper first second rest opener ih =>
      rw [readNesting, if_pos opener] at closed
      obtain ⟨within, whole, found⟩ := NestingText.behindText_eq_closed closed
      rw [opener.1, opener.2, ih found, whole]
      rfl
  | case4 first second rest noOpener closer =>
      rw [readNesting, if_neg noOpener, if_pos closer, if_pos rfl] at closed
      cases closed
      rw [closer.1, closer.2]
      rfl
  | case5 deeper first second rest noOpener closer inner ih =>
      rw [readNesting, if_neg noOpener, if_pos closer, if_neg inner] at closed
      obtain ⟨within, whole, found⟩ := NestingText.behindText_eq_closed closed
      rw [closer.1, closer.2, ih found, whole]
      rfl
  | case6 deeper first second rest noOpener noCloser ih =>
      rw [readNesting, if_neg noOpener, if_neg noCloser] at closed
      obtain ⟨within, whole, found⟩ := NestingText.behindText_eq_closed closed
      rw [ih found, whole]
      rfl

/-! ### Counted marks -/

def nestingLevel : List Text → Int
  | [] => 0
  | line :: rest => nestingDelta line + nestingLevel rest

def endsNesting (read : List Text) : Bool :=
  decide (nestingLevel read ≤ 0)

def withoutCloser : List Text → List Text
  | [] => []
  | [last] => [dropNestingCloser last]
  | line :: next :: rest => line :: withoutCloser (next :: rest)

/-- The lines of the text that is taken from the lines of a comment, with a closer dropped from the end only. -/
def countedText (read : List Text) : List Text :=
  if endsNesting read then withoutCloser (behindOpener read) else behindOpener read

theorem nestingLevel_concat (read : List Text) (line : Text) :
    nestingLevel (read ++ [line]) = nestingLevel read + nestingDelta line := by
  induction read with
  | nil => exact (Int.add_zero _).trans (Int.zero_add _).symm
  | cons first rest ih => rw [List.cons_append, nestingLevel, nestingLevel, ih, Int.add_assoc]

/-- What is taken from the lines behind the one whose text goes on, when some lines have been read. -/
structure CountedOut (read : List Text) (body : Text) (lines : List Line) (found : List Text × List Line) :
    Prop where
  remains : found.2 = if endsNesting read then lines else linesBehind endsNesting read lines
  taken : ∃ more, lines = more ++ found.2 ∧
    found.1 = (if endsNesting (read ++ more.map Line.text) then withoutCloser (body :: more.map Line.text)
      else body :: more.map Line.text).map cleanCommentLine

theorem countedOut_closed {read : List Text} (ended : endsNesting read = true) (body : Text) (lines : List Line) :
    CountedOut read body lines ([cleanCommentLine (dropNestingCloser body)], lines) := by
  refine ⟨(if_pos ended).symm, [], rfl, ?_⟩
  rw [List.map_nil, List.append_nil, if_pos ended]
  rfl

theorem nestedParagraphs_counted (read : List Text) (body : Text) (lines : List Line) :
    CountedOut read body lines (nestedParagraphs (nestingLevel read) body lines) := by
  induction lines generalizing read body with
  | nil =>
      by_cases ended : nestingLevel read ≤ 0
      · rw [nestedParagraphs_closed ended]
        exact countedOut_closed (decide_eq_true ended) body []
      · have goesOn : endsNesting read = false := decide_eq_false ended
        rw [nestedParagraphs_end (Int.not_le.mp ended)]
        refine ⟨?_, [], rfl, ?_⟩
        · rw [goesOn]
          rfl
        · rw [List.map_nil, List.append_nil, goesOn]
          rfl
  | cons next rest ih =>
      by_cases ended : nestingLevel read ≤ 0
      · rw [nestedParagraphs_closed ended]
        exact countedOut_closed (decide_eq_true ended) body (next :: rest)
      · have goesOn : endsNesting read = false := decide_eq_false ended
        rw [nestedParagraphs_open (Int.not_le.mp ended), ← nestingLevel_concat]
        obtain ⟨remains, more, split, taken⟩ := ih (read ++ [next.text]) next.text
        refine ⟨?_, next :: more, ?_, ?_⟩
        · rw [goesOn]
          exact remains
        · exact congrArg (next :: ·) split
        · rw [List.append_assoc, List.singleton_append] at taken
          rw [List.map_cons, taken]
          split <;> rfl

/-! ### Positions -/

section Positions

variable {lines : List Text} {start stop : Nat}

theorem linesBetween_append {middle : Nat} (forward : start ≤ middle) (further : middle ≤ stop)
    (within : stop ≤ lines.length) :
    linesBetween lines start stop = linesBetween lines start middle ++ linesBetween lines middle stop := by
  have low : start ≤ (lines.take middle).length := by
    rw [List.length_take_of_le (Nat.le_trans further within)]
    exact forward
  have front : (lines.take stop).take middle = lines.take middle := by
    rw [List.take_take, Nat.min_eq_left further]
  unfold linesBetween
  rw [← List.map_append, ← List.drop_append_of_le_length low, ← front, List.take_append_drop]

theorem length_linesBetween (within : stop ≤ lines.length) :
    (linesBetween lines start stop).length = stop - start := by
  unfold linesBetween
  rw [List.length_map, List.length_drop, List.length_take_of_le within]

theorem linesBetween_eq_take (forward : start ≤ stop) (within : stop ≤ lines.length) :
    linesBetween lines start stop = (linesBetween lines start lines.length).take (stop - start) := by
  rw [linesBetween_append forward within (Nat.le_refl _), List.take_left' (length_linesBetween within)]

theorem linesBetween_eq_cons (inside : start < lines.length) :
    linesBetween lines start lines.length =
      Text.trim lines[start] :: linesBetween lines (start + 1) lines.length := by
  rw [← texts_linesFrom, ← texts_linesFrom, linesFrom_eq_cons inside]
  rfl

theorem eq_of_linesFrom_eq {other : Nat} (within : stop ≤ lines.length) (otherWithin : other ≤ lines.length)
    (same : linesFrom lines stop = linesFrom lines other) : stop = other := by
  have texts := congrArg (fun left => (left.map Line.text).length) same
  rw [texts_linesFrom, texts_linesFrom, length_linesBetween (Nat.le_refl _), length_linesBetween (Nat.le_refl _)]
    at texts
  omega

end Positions

theorem behindOpener_take (lines : List Text) (count : Nat) :
    behindOpener (lines.take count) = (behindOpener lines).take count := by
  cases lines with
  | nil => cases count <;> rfl
  | cons first rest => cases count <;> rfl

/-- A nesting comment reaches up to the line at which the marks of its lines are counted out. -/
theorem commentAt_counted {lines : List Text} {start : Nat} (inside : start < lines.length)
    (opens : commentStyle? (Text.trim lines[start]) = some .nested) :
    ∃ stop, IsExtent endsNesting lines start stop ∧
      commentAt lines start =
        .ok (trimEmptyLines ((countedText (linesBetween lines start stop)).map cleanCommentLine), stop) := by
  obtain ⟨stop, behind, extent⟩ := exists_extent endsNesting lines ⟨start, inside⟩
  obtain ⟨resume, succeeds, remains, _, within⟩ := commentAt_follows inside opens
  have counted := nestedParagraphs_counted [Text.trim lines[start]] ((Text.trim lines[start]).drop 2)
    (linesFrom lines (start + 1))
  have level : nestingLevel [Text.trim lines[start]] = nestingDelta (Text.trim lines[start]) := Int.add_zero _
  rw [level] at counted
  obtain ⟨left, more, split, taken⟩ := counted
  dsimp only at behind extent
  rw [linesFrom_eq_cons inside] at behind
  have stops : resume = stop :=
    eq_of_linesFrom_eq within extent.within (remains.symm.trans (left.trans behind))
  have read : linesBetween lines start stop = Text.trim lines[start] :: more.map Line.text := by
    have texts := congrArg (List.map Line.text) split
    rw [left.trans behind, List.map_append, texts_linesFrom, texts_linesFrom,
      linesBetween_append extent.forward extent.within (Nat.le_refl _)] at texts
    rw [linesBetween_append (Nat.le_succ _) extent.forward extent.within,
      linesBetween_succ (Nat.le_refl _) inside, linesBetween_self, List.append_cancel_right texts]
    rfl
  have prose : (extractStyled .nested (lineOf lines start inside) (linesFrom lines (start + 1))).1 =
      trimEmptyLines ((countedText (Text.trim lines[start] :: more.map Line.text)).map cleanCommentLine) :=
    congrArg trimEmptyLines taken
  refine ⟨stop, extent, ?_⟩
  rw [succeeds, prose, stops, read]

/-! ### Text behind the closer -/

theorem dropNestingCloser_closed (text : Text) :
    dropNestingCloser (text ++ ['+', '/']) = text.rdropWhile (· == '+') := by
  unfold dropNestingCloser
  rw [List.reverse_append]
  rfl

theorem dropNestingCloser_open {text : Text} (noCloser : ¬['+', '/'] <:+ text) :
    dropNestingCloser text = text := by
  unfold dropNestingCloser
  split
  · rename_i rest same
    have whole : text = (['/', '+'] ++ rest).reverse := (List.reverse_eq_iff.mp same)
    rw [List.reverse_append] at whole
    exact absurd ⟨rest.reverse, whole.symm⟩ noCloser
  · rfl

theorem count_slash_withoutPlus (text : Text) : (text.rdropWhile (· == '+')).count '/' = text.count '/' := by
  unfold List.rdropWhile
  rw [List.count_reverse, count_dropWhile_of_kept rfl, List.count_reverse]

theorem count_slash_closed (text behind : Text) :
    (text ++ '+' :: '/' :: behind).count '/' = text.count '/' + 1 + behind.count '/' := by
  rw [List.count_append, List.count_cons_of_ne (by decide), List.count_cons_self]
  omega

/-- Dropping a closer from the end leaves the matching one alone if a text stands behind it. -/
theorem count_slash_dropNestingCloser {inside behind : Text} (more : behind ≠ []) :
    inside.count '/' < (dropNestingCloser (inside ++ '+' :: '/' :: behind)).count '/' := by
  have slashes := count_slash_closed inside behind
  by_cases closer : ['+', '/'] <:+ inside ++ '+' :: '/' :: behind
  · obtain ⟨front, whole⟩ := closer
    have slash : '/' ∈ behind := by
      obtain ⟨others, last, split⟩ := (List.eq_nil_or_concat behind).resolve_left more
      have ends := congrArg List.getLast? whole
      rw [split, List.concat_eq_append, ← List.cons_append, ← List.cons_append, ← List.append_assoc,
        List.getLast?_concat, List.getLast?_append_of_ne_nil front (List.cons_ne_nil _ _)] at ends
      rw [split, List.concat_eq_append, ← Option.some.inj ends]
      exact List.mem_append_right others (List.mem_singleton_self _)
    have filled : 0 < behind.count '/' := List.count_pos_iff.mpr slash
    have frontSlashes := count_slash_closed front []
    rw [whole] at frontSlashes
    rw [← whole, dropNestingCloser_closed, count_slash_withoutPlus]
    rw [List.count_nil] at frontSlashes
    omega
  · rw [dropNestingCloser_open closer]
    omega

theorem withoutCloser_concat (front : List Text) (last : Text) :
    withoutCloser (front ++ [last]) = front ++ [dropNestingCloser last] := by
  induction front with
  | nil => rfl
  | cons line rest ih =>
      cases rest with
      | nil => rfl
      | cons next others => exact congrArg (line :: ·) ih

/-- Lines end in the same way when they are counted out as when their marks are matched: with the closer and
nothing behind it, or without a closer. -/
def MatchedComment.EndsAlike (comment : MatchedComment) (ended : Bool) : Prop :=
  match comment.behind with
  | some behind => ended = true ∧ behind = []
  | none => ended = true → ∀ last ∈ comment.inside.getLast?, ¬['+', '/'] <:+ last

theorem readMatched_cases (deeper : Nat) (lines : List Text) :
    readMatched deeper lines = ⟨lines, none⟩ ∨
      ∃ front inside behind rest, lines = front ++ (inside ++ '+' :: '/' :: behind) :: rest ∧
        readMatched deeper lines = ⟨front ++ [inside.rdropWhile (· == '+')], some behind⟩ := by
  induction lines generalizing deeper with
  | nil => exact .inl rfl
  | cons line rest ih =>
      rw [readMatched]
      cases found : readNesting deeper line with
      | closed inside behind =>
          refine .inr ⟨[], inside, behind, rest, ?_, rfl⟩
          rw [readNesting_closed found]
          rfl
      | unclosed more =>
          dsimp only
          rcases ih more with whole | ⟨front, inside, behind, others, split, whole⟩
          · rw [whole]
            exact .inl rfl
          · rw [whole, split]
            exact .inr ⟨line :: front, inside, behind, others, rfl, rfl⟩

theorem count_slash_of_prose_eq {front : List Text} {text other : Text}
    (same : trimEmptyLines ((front ++ [text]).map cleanCommentLine) =
      trimEmptyLines ((front ++ [other]).map cleanCommentLine)) : text.count '/' = other.count '/' := by
  have slashes := congrArg (fun lines => lines.flatten.count '/') same
  rw [count_slash_prose, count_slash_prose, List.flatten_append, List.flatten_append, List.count_append,
    List.count_append, List.flatten_singleton, List.flatten_singleton] at slashes
  exact Nat.add_left_cancel slashes

theorem prose_unmatched {lines : List Text} (filled : lines ≠ []) (ended : Bool) :
    trimEmptyLines ((if ended then withoutCloser lines else lines).map cleanCommentLine) =
        (⟨lines, none⟩ : MatchedComment).prose ↔ (⟨lines, none⟩ : MatchedComment).EndsAlike ended := by
  obtain ⟨front, last, split⟩ := (List.eq_nil_or_concat lines).resolve_left filled
  rw [List.concat_eq_append] at split
  unfold MatchedComment.prose MatchedComment.EndsAlike
  rw [split, withoutCloser_concat, List.getLast?_concat]
  cases ended with
  | false => exact ⟨fun _ => nofun, fun _ => rfl⟩
  | true =>
      rw [if_pos rfl]
      constructor
      · rintro same - text ⟨⟩ ⟨inside, whole⟩
        have slashes := count_slash_of_prose_eq same
        rw [← whole, dropNestingCloser_closed, count_slash_withoutPlus, count_slash_closed] at slashes
        omega
      · intro noCloser
        rw [dropNestingCloser_open (noCloser rfl last rfl)]

theorem prose_matched (front : List Text) (inside behind : Text) (ended : Bool) :
    trimEmptyLines ((if ended then withoutCloser (front ++ [inside ++ '+' :: '/' :: behind])
        else front ++ [inside ++ '+' :: '/' :: behind]).map cleanCommentLine) =
        (⟨front ++ [inside.rdropWhile (· == '+')], some behind⟩ : MatchedComment).prose ↔
      ended = true ∧ behind = [] := by
  unfold MatchedComment.prose
  dsimp only
  rw [withoutCloser_concat]
  constructor
  · intro same
    cases ended with
    | false =>
        have slashes := count_slash_of_prose_eq same
        rw [count_slash_withoutPlus, count_slash_closed] at slashes
        omega
    | true =>
        refine ⟨rfl, ?_⟩
        by_contra more
        have slashes := count_slash_of_prose_eq same
        have kept := @count_slash_dropNestingCloser inside behind more
        rw [count_slash_withoutPlus] at slashes
        omega
  · rintro ⟨isEnd, nothing⟩
    rw [isEnd, nothing, if_pos rfl, dropNestingCloser_closed]

/-- The lines that are counted out have the prose of the comment exactly if they are its lines and end alike. -/
theorem prose_eq_iff {lines : List Text} {count : Nat} (filled : 0 < count) (within : count ≤ lines.length)
    (ended : Bool) :
    (trimEmptyLines ((if ended then withoutCloser (lines.take count) else lines.take count).map cleanCommentLine) =
          (readMatched 0 lines).prose ∧ count = (readMatched 0 lines).inside.length) ↔
      count = (readMatched 0 lines).inside.length ∧ (readMatched 0 lines).EndsAlike ended := by
  rw [and_comm]
  refine and_congr_right fun same => ?_
  rcases readMatched_cases 0 lines with whole | ⟨front, inside, behind, rest, split, whole⟩
  · rw [whole] at same ⊢
    rw [same, List.take_length]
    exact prose_unmatched (List.ne_nil_of_length_pos (Nat.lt_of_lt_of_le filled within)) ended
  · have taken : lines.take count = front ++ [inside ++ '+' :: '/' :: behind] := by
      rw [whole, List.length_append, List.length_singleton] at same
      rw [split, same, List.append_cons]
      exact List.take_left' List.length_append
    rw [whole, taken]
    exact prose_matched front inside behind ended

/-! ### Marks that do not overlap -/

/-- No character of a text belongs to an opener and to a closer. -/
structure SeparateMarks (text : Text) : Prop where
  noOpenerFirst : ¬['/', '+', '/'] <:+: text
  noCloserFirst : ¬['+', '/', '+'] <:+: text

instance (text : Text) : Decidable (SeparateMarks text) :=
  decidable_of_iff (¬['/', '+', '/'] <:+: text ∧ ¬['+', '/', '+'] <:+: text)
    ⟨fun both => ⟨both.1, both.2⟩, fun separate => ⟨separate.noOpenerFirst, separate.noCloserFirst⟩⟩

namespace SeparateMarks

variable {text rest : Text}

theorem of_isInfix (separate : SeparateMarks text) (inside : rest <:+: text) : SeparateMarks rest :=
  ⟨fun overlap => separate.noOpenerFirst (overlap.trans inside),
    fun overlap => separate.noCloserFirst (overlap.trans inside)⟩

theorem nestingDelta_opener (separate : SeparateMarks ('/' :: '+' :: rest)) :
    nestingDelta ('/' :: '+' :: rest) = nestingDelta rest + 1 := by
  have openers : Text.countPair '/' '+' ('/' :: '+' :: rest) = 1 + Text.countPair '/' '+' rest := rfl
  have closers : Text.countPair '+' '/' ('/' :: '+' :: rest) = Text.countPair '+' '/' rest := by
    cases rest with
    | nil => rfl
    | cons next others =>
        have noCloser : ¬('+' = '+' ∧ next = '/') := by
          rintro ⟨-, same⟩
          rw [same] at separate
          exact separate.noOpenerFirst (List.prefix_append ['/', '+', '/'] others).isInfix
        rw [Text.countPair, if_neg (by decide), Text.countPair, if_neg noCloser]
  unfold nestingDelta
  rw [openers, closers]
  simp only [Int.ofNat_eq_natCast]
  omega

theorem nestingDelta_closer (separate : SeparateMarks ('+' :: '/' :: rest)) :
    nestingDelta ('+' :: '/' :: rest) = nestingDelta rest - 1 := by
  have closers : Text.countPair '+' '/' ('+' :: '/' :: rest) = 1 + Text.countPair '+' '/' rest := rfl
  have openers : Text.countPair '/' '+' ('+' :: '/' :: rest) = Text.countPair '/' '+' rest := by
    cases rest with
    | nil => rfl
    | cons next others =>
        have noOpener : ¬('/' = '/' ∧ next = '+') := by
          rintro ⟨-, same⟩
          rw [same] at separate
          exact separate.noCloserFirst (List.prefix_append ['+', '/', '+'] others).isInfix
        rw [Text.countPair, if_neg (by decide), Text.countPair, if_neg noOpener]
  unfold nestingDelta
  rw [openers, closers]
  simp only [Int.ofNat_eq_natCast]
  omega

theorem nestingDelta_plain {first second : Char} (noOpener : ¬(first = '/' ∧ second = '+'))
    (noCloser : ¬(first = '+' ∧ second = '/')) :
    nestingDelta (first :: second :: rest) = nestingDelta (second :: rest) := by
  unfold nestingDelta
  rw [Text.countPair, if_neg noOpener, Text.countPair, if_neg noCloser]

end SeparateMarks

/-- The depth at which a text ends, one more than the number of comments that are open inside. -/
def NestingText.level : NestingText → Int
  | .closed _ behind => nestingDelta behind
  | .unclosed deeper => deeper + 1

theorem NestingText.level_behindText (found : NestingText) (front : Text) :
    (found.behindText front).level = found.level := by
  cases found <;> rfl

/-- Marks that do not overlap are counted as they are read. -/
theorem level_readNesting (deeper : Nat) {text : Text} (separate : SeparateMarks text) :
    (readNesting deeper text).level = deeper + 1 + nestingDelta text := by
  induction deeper, text using readNesting.induct with
  | case1 deeper => exact (Int.add_zero _).symm
  | case2 deeper character => exact (Int.add_zero _).symm
  | case3 deeper first second rest opener ih =>
      rw [opener.1, opener.2] at separate ⊢
      have further := ih (separate.of_isInfix (List.suffix_append ['/', '+'] rest).isInfix)
      rw [readNesting, if_pos ⟨rfl, rfl⟩, NestingText.level_behindText, further, separate.nestingDelta_opener]
      omega
  | case4 first second rest noOpener closer =>
      rw [closer.1, closer.2] at separate ⊢
      rw [readNesting, if_neg (by decide), if_pos ⟨rfl, rfl⟩, if_pos rfl, separate.nestingDelta_closer]
      change nestingDelta rest = _
      omega
  | case5 deeper first second rest noOpener closer inner ih =>
      rw [closer.1, closer.2] at separate ⊢
      have further := ih (separate.of_isInfix (List.suffix_append ['+', '/'] rest).isInfix)
      rw [readNesting, if_neg (by decide), if_pos ⟨rfl, rfl⟩, if_neg inner, NestingText.level_behindText,
        further, separate.nestingDelta_closer]
      omega
  | case6 deeper first second rest noOpener noCloser ih =>
      have further := ih (separate.of_isInfix (List.suffix_cons first (second :: rest)).isInfix)
      rw [readNesting, if_neg noOpener, if_neg noCloser, NestingText.level_behindText, further,
        SeparateMarks.nestingDelta_plain noOpener noCloser]

/-- Inside a comment the lines are not counted out, and if nothing stands behind its closer they are at its end. -/
theorem nestingLevel_matched (deeper : Nat) {lines : List Text}
    (separate : ∀ line ∈ lines.take (readMatched deeper lines).inside.length, SeparateMarks line) :
    (∀ count, count < (readMatched deeper lines).inside.length →
        0 < deeper + 1 + nestingLevel (lines.take count)) ∧
      ((readMatched deeper lines).behind = none → 0 < deeper + 1 + nestingLevel lines) ∧
      ((readMatched deeper lines).behind = some [] →
        deeper + 1 + nestingLevel (lines.take (readMatched deeper lines).inside.length) = 0) := by
  induction lines generalizing deeper with
  | nil =>
      refine ⟨?_, ?_, ?_⟩
      · intro count below
        exact absurd below (Nat.not_lt_zero count)
      · intro unmatched
        change 0 < (deeper : Int) + 1 + 0
        omega
      · nofun
  | cons line rest ih =>
      rw [readMatched] at separate ⊢
      cases found : readNesting deeper line with
      | closed inside behind =>
          rw [found] at separate
          have level := level_readNesting deeper (separate line List.mem_cons_self)
          rw [found] at level
          refine ⟨?_, nofun, ?_⟩
          · intro count below
            rw [Nat.lt_one_iff.mp below]
            change 0 < (deeper : Int) + 1 + 0
            omega
          · intro nothing
            rw [Option.some.inj nothing] at level
            exact ((congrArg _ (Int.add_zero _)).trans level.symm)
      | unclosed more =>
          rw [found] at separate
          dsimp only at separate ⊢
          rw [List.length_cons, List.take_succ_cons] at separate
          have level := level_readNesting deeper (separate line List.mem_cons_self)
          rw [found] at level
          obtain ⟨inner, unmatched, matched⟩ :=
            ih more fun other member => separate other (List.mem_cons_of_mem line member)
          have deepens (lines : List Text) :
              deeper + 1 + nestingLevel (line :: lines) = more + 1 + nestingLevel lines := by
            rw [nestingLevel, ← Int.add_assoc, ← level]
            rfl
          refine ⟨?_, ?_, ?_⟩
          · intro count below
            cases count with
            | zero =>
                change 0 < (deeper : Int) + 1 + 0
                omega
            | succ fewer =>
                rw [List.take_succ_cons, deepens]
                exact inner fewer (Nat.lt_of_succ_lt_succ below)
          · intro unclosed
            rw [deepens]
            exact unmatched unclosed
          · intro nothing
            rw [List.length_cons, List.take_succ_cons, deepens]
            exact matched nothing

/-! ### Comments of a source -/

/-- The comment at a position is read up to its matching closer, and nothing of what stands behind it. -/
def ReadsMatched (lines : List Text) (start : Nat) : Prop :=
  commentAt lines start = .ok ((matchedAt lines start).prose, start + (matchedAt lines start).inside.length)

theorem length_behindOpener (lines : List Text) : (behindOpener lines).length = lines.length := by
  cases lines <;> rfl

theorem readsMatched_iff {lines : List Text} {start stop : Nat} (forward : start < stop)
    (within : stop ≤ lines.length)
    (read : commentAt lines start =
      .ok (trimEmptyLines ((countedText (linesBetween lines start stop)).map cleanCommentLine), stop)) :
    ReadsMatched lines start ↔ stop = start + (matchedAt lines start).inside.length ∧
      (matchedAt lines start).EndsAlike (endsNesting (linesBetween lines start stop)) := by
  have count : stop - start ≤ (behindOpener (linesBetween lines start lines.length)).length := by
    rw [length_behindOpener, length_linesBetween (Nat.le_refl _)]
    omega
  have compared := prose_eq_iff (Nat.sub_pos_of_lt forward) count (endsNesting (linesBetween lines start stop))
  rw [← behindOpener_take, ← linesBetween_eq_take (Nat.le_of_lt forward) within] at compared
  have reaches {length : Nat} : stop - start = length ↔ stop = start + length := by omega
  unfold ReadsMatched
  rw [read, Except.ok.injEq, Prod.mk.injEq, ← reaches]
  exact compared

theorem length_readMatched {deeper : Nat} {lines : List Text} (filled : lines ≠ []) :
    0 < (readMatched deeper lines).inside.length ∧ (readMatched deeper lines).inside.length ≤ lines.length ∧
      ((readMatched deeper lines).behind = none → (readMatched deeper lines).inside.length = lines.length) := by
  rcases readMatched_cases deeper lines with whole | ⟨front, inside, behind, rest, split, whole⟩
  · rw [whole]
    exact ⟨List.length_pos_iff.mpr filled, Nat.le_refl _, fun _ => rfl⟩
  · rw [whole]
    refine ⟨?_, ?_, nofun⟩
    · rw [List.length_append, List.length_singleton]
      exact Nat.succ_pos _
    · rw [split, List.length_append, List.length_append, List.length_singleton, List.length_cons]
      omega

theorem exists_behindOpener {line : Text} (opens : commentStyle? line = some .nested) :
    ∃ body, line = '/' :: '+' :: body := by
  unfold commentStyle? at opens
  split at opens
  · cases opens
  · exact ⟨_, rfl⟩
  · cases opens
  · cases opens

theorem nestingLevel_take_opened {first : Text} (opens : commentStyle? first = some .nested)
    (separate : SeparateMarks first) (rest : List Text) {count : Nat} (filled : 0 < count) :
    nestingLevel ((first :: rest).take count) = 1 + nestingLevel ((behindOpener (first :: rest)).take count) := by
  obtain ⟨fewer, same⟩ := Nat.exists_eq_add_of_lt filled
  obtain ⟨body, whole⟩ := exists_behindOpener opens
  rw [whole] at separate ⊢
  rw [same, Nat.zero_add, behindOpener, List.take_succ_cons, List.take_succ_cons, nestingLevel,
    nestingLevel, separate.nestingDelta_opener]
  change nestingDelta body + 1 + _ = 1 + (nestingDelta body + _)
  omega

/-- If the marks of a comment do not overlap, its lines are not counted out inside it, and they are counted out
at its end if nothing stands behind its closer. -/
theorem endsNesting_matched {first : Text} (opens : commentStyle? first = some .nested) (rest : List Text)
    {comment : MatchedComment} (matched : readMatched 0 (behindOpener (first :: rest)) = comment)
    (separate : ∀ line ∈ (first :: rest).take comment.inside.length, SeparateMarks line)
    (nothing : ∀ behind ∈ comment.behind, behind = []) :
    (∀ count, 0 < count → count < comment.inside.length → endsNesting ((first :: rest).take count) = false) ∧
      (endsNesting ((first :: rest).take comment.inside.length) = true ↔ comment.behind ≠ none) := by
  obtain ⟨positive, within, whole⟩ := @length_readMatched 0 (behindOpener (first :: rest)) (List.cons_ne_nil _ _)
  rw [matched] at positive within whole
  have separateFirst : SeparateMarks first := by
    apply separate
    rw [← Nat.succ_pred_eq_of_pos positive]
    exact List.mem_cons_self
  have separateInside : ∀ line ∈ (behindOpener (first :: rest)).take comment.inside.length, SeparateMarks line := by
    rw [← Nat.succ_pred_eq_of_pos positive] at separate ⊢
    intro line member
    rcases List.mem_cons.mp member with same | behind
    · rw [same]
      exact separateFirst.of_isInfix (List.drop_suffix 2 first).isInfix
    · exact separate line (List.mem_cons_of_mem first behind)
  have levels := @nestingLevel_matched 0 (behindOpener (first :: rest))
  rw [matched] at levels
  obtain ⟨inner, unmatched, closed⟩ := levels separateInside
  have opened {count : Nat} := @nestingLevel_take_opened first opens separateFirst rest count
  constructor
  · intro count above below
    have level := inner count below
    apply decide_eq_false
    rw [opened above]
    omega
  · unfold endsNesting
    rw [opened positive, decide_eq_true_eq]
    cases found : comment.behind with
    | none =>
        have level := unmatched found
        rw [whole found, List.take_length]
        exact ⟨fun ended => absurd ended (by omega), fun missing => absurd rfl missing⟩
    | some behind =>
        rw [nothing behind found] at found
        have level := closed found
        exact ⟨fun _ => Option.some_ne_none behind, fun _ => by omega⟩

/-- If the marks of a comment do not overlap and nothing stands behind its closer, its lines are counted out
where it ends. -/
theorem isExtent_matchedAt {lines : List Text} {start : Nat} (inside : start < lines.length)
    (opens : commentStyle? (Text.trim lines[start]) = some .nested)
    (separate : ∀ line ∈ linesBetween lines start (start + (matchedAt lines start).inside.length), SeparateMarks line)
    (nothing : ∀ behind ∈ (matchedAt lines start).behind, behind = []) :
    IsExtent endsNesting lines start (start + (matchedAt lines start).inside.length) ∧
      (endsNesting (linesBetween lines start (start + (matchedAt lines start).inside.length)) = true ↔
        (matchedAt lines start).behind ≠ none) := by
  obtain ⟨first, rest, cons, opensFirst⟩ : ∃ first rest, linesBetween lines start lines.length = first :: rest ∧
      commentStyle? first = some .nested :=
    ⟨_, _, linesBetween_eq_cons inside, opens⟩
  have matched : readMatched 0 (behindOpener (first :: rest)) = matchedAt lines start := by
    unfold matchedAt
    rw [cons]
  obtain ⟨positive, below, whole⟩ := @length_readMatched 0 (behindOpener (first :: rest)) (List.cons_ne_nil _ _)
  rw [matched, length_behindOpener, ← cons, length_linesBetween (Nat.le_refl _)] at below whole
  rw [matched] at positive
  have within : start + (matchedAt lines start).inside.length ≤ lines.length := by omega
  have taken {count : Nat} (least : count ≤ (matchedAt lines start).inside.length) :
      linesBetween lines start (start + count) = (first :: rest).take count := by
    rw [linesBetween_eq_take (Nat.le_add_right _ _) (by omega), cons, Nat.add_sub_cancel_left]
  rw [taken (Nat.le_refl _)] at separate ⊢
  obtain ⟨inner, ends⟩ := endsNesting_matched opensFirst rest matched separate nothing
  refine ⟨⟨Nat.lt_add_of_pos_right positive, within, ?_, ?_⟩, ends⟩
  · intro further
    rw [taken (Nat.le_refl _), ends]
    intro missing
    have length := whole missing
    omega
  · intro earlier above before
    obtain ⟨count, same⟩ := Nat.exists_eq_add_of_le (Nat.le_of_lt above)
    rw [same, taken (by omega)]
    exact inner count (by omega) (by omega)

/-- A nesting comment reaches up to the line that brings the count of its marks back, and only there a closer is
dropped from the end. It is read up to its matching closer exactly if that line is the one of the matching closer
and nothing stands behind it, which is only the latter if the marks of the comment do not overlap. -/
theorem nesting_comment_extent {lines : List Text} {start : Nat} (inside : start < lines.length)
    (opens : commentStyle? (Text.trim lines[start]) = some .nested) :
    ∃ stop, IsExtent endsNesting lines start stop ∧
      commentAt lines start =
        .ok (trimEmptyLines ((countedText (linesBetween lines start stop)).map cleanCommentLine), stop) ∧
      (ReadsMatched lines start ↔ stop = start + (matchedAt lines start).inside.length ∧
        (matchedAt lines start).EndsAlike (endsNesting (linesBetween lines start stop))) ∧
      ((∀ line ∈ linesBetween lines start (start + (matchedAt lines start).inside.length), SeparateMarks line) →
        (ReadsMatched lines start ↔ ∀ behind ∈ (matchedAt lines start).behind, behind = [])) := by
  obtain ⟨stop, extent, read⟩ := commentAt_counted inside opens
  have compared := readsMatched_iff extent.forward extent.within read
  refine ⟨stop, extent, read, compared, fun separate => ?_⟩
  rw [compared]
  constructor
  · rintro ⟨-, alike⟩ behind found
    unfold MatchedComment.EndsAlike at alike
    rw [Option.mem_def.mp found] at alike
    exact alike.2
  · intro nothing
    obtain ⟨matchedExtent, ends⟩ := isExtent_matchedAt inside opens separate nothing
    have same := extent.unique matchedExtent
    refine ⟨same, ?_⟩
    rw [same]
    unfold MatchedComment.EndsAlike
    cases found : (matchedAt lines start).behind with
    | none =>
        intro ended
        exact absurd found (ends.mp ended)
    | some behind => exact ⟨ends.mpr (by rw [found]; exact Option.some_ne_none behind), nothing behind found⟩

/-- Code behind the matching closer is taken for prose, with the closer. -/
example : commentAt ["/+ a +/ int x;".toList] 0 = .ok (["a +/ int x;".toList], 1) := by
  decide +kernel

/-- A nesting comment whose marks do not overlap, with nothing behind its matching closer, is read up to that closer,
and up to the end of the source if it has none. -/
theorem nesting_comment_read {lines : List Text} {start : Nat} (inside : start < lines.length)
    (opens : commentStyle? (Text.trim lines[start]) = some .nested)
    (separate : ∀ line ∈ linesBetween lines start (start + (matchedAt lines start).inside.length), SeparateMarks line)
    (nothing : ∀ behind ∈ (matchedAt lines start).behind, behind = []) :
    commentAt lines start =
        .ok ((matchedAt lines start).prose, start + (matchedAt lines start).inside.length) ∧
      ((matchedAt lines start).behind = none →
        (matchedAt lines start).inside = behindOpener (linesBetween lines start lines.length) ∧
          start + (matchedAt lines start).inside.length = lines.length) := by
  obtain ⟨stop, _, _, _, agrees⟩ := nesting_comment_extent inside opens
  refine ⟨(agrees separate).mpr nothing, fun unmatched => ?_⟩
  have whole : (matchedAt lines start).inside = behindOpener (linesBetween lines start lines.length) := by
    unfold matchedAt at unmatched ⊢
    rcases readMatched_cases 0 (behindOpener (linesBetween lines start lines.length)) with
      whole | ⟨_, _, _, _, _, found⟩
    · rw [whole]
    · rw [found] at unmatched
      cases unmatched
  refine ⟨whole, ?_⟩
  rw [whole, length_behindOpener, length_linesBetween (Nat.le_refl _)]
  omega

theorem nesting_comment_read_inner :
    let lines := ["/++ outer", " /+ inner +/", " tail ++/", "void f();"].map String.toList
    commentStyle? (Text.trim lines[0]) = some .nested ∧
      (∀ line ∈ linesBetween lines 0 3, SeparateMarks line) ∧ (matchedAt lines 0).behind = some [] ∧
      commentAt lines 0 = .ok (["outer".toList, "/+ inner +/".toList, "tail".toList], 3) := by
  intro lines
  have opens : commentStyle? (Text.trim lines[0]) = some .nested := by decide +kernel
  have separate : ∀ line ∈ linesBetween lines 0 3, SeparateMarks line := by decide +kernel
  have closed : (matchedAt lines 0).behind = some [] := by decide +kernel
  have reaches : 0 + (matchedAt lines 0).inside.length = 3 := by decide +kernel
  have prose : (matchedAt lines 0).prose = ["outer".toList, "/+ inner +/".toList, "tail".toList] := by decide +kernel
  have nothing : ∀ behind ∈ (matchedAt lines 0).behind, behind = [] := by
    rw [closed]
    rintro _ ⟨⟩
    rfl
  have inside : 0 < lines.length := by decide +kernel
  obtain ⟨read, _⟩ := nesting_comment_read inside opens (by rw [reaches]; exact separate) nothing
  rw [reaches, prose] at read
  exact ⟨opens, separate, closed, read⟩

/-- The plus signs in front of a closer are no part of the prose, although only the last of them is a part of the
closer. -/
theorem nesting_comment_plus_signs :
    let lines := ["/+ a ++/".toList]
    commentStyle? (Text.trim lines[0]) = some .nested ∧
      readNesting 0 ((Text.trim lines[0]).drop 2) = .closed " a +".toList [] ∧
      cleanCommentLine " a +".toList = "a +".toList ∧ commentAt lines 0 = .ok (["a".toList], 1) := by
  decide +kernel

end DocSite
