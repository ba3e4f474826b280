/-
Where a declaration ends.

A declaration with a body ends behind the first line that brings the braces back into balance, one without a
body behind a semicolon that comes before any brace, and one that is never closed at the end of the source.
This can be told from the lines read so far. Skipping a body follows it in all but one point: behind the first
line, a semicolon ends the declaration even on the very line that opens the body.
-/
import DocSite.Proofs.Cursor.Basic

namespace DocSite

open Cursor (linesFrom lineOf linesFrom_eq_cons linesFrom_eq_nil)

/-! ### Extents -/

def linesBetween (lines : List Text) (start stop : Nat) : List Text :=
  ((lines.take stop).drop start).map Text.trim

/-- The extent of what starts at a position and ends as soon as the lines read so far pass a test, or with the
source. -/
structure IsExtent (ends : List Text → Bool) (lines : List Text) (start stop : Nat) : Prop where
  forward : start < stop
  within : stop ≤ lines.length
  ended : stop < lines.length → ends (linesBetween lines start stop) = true
  first : ∀ earlier, start < earlier → earlier < stop → ends (linesBetween lines start earlier) = false

theorem IsExtent.unique {ends : List Text → Bool} {lines : List Text} {start stop other : Nat}
    (extent : IsExtent ends lines start stop) (another : IsExtent ends lines start other) : stop = other := by
  rcases Nat.lt_trichotomy stop other with before | same | behind
  · have ended := extent.ended (Nat.lt_of_lt_of_le before another.within)
    rw [another.first stop extent.forward before] at ended
    cases ended
  · exact same
  · have ended := another.ended (Nat.lt_of_lt_of_le behind extent.within)
    rw [extent.first other another.forward behind] at ended
    cases ended

def netDelta : List Text → Int
  | [] => 0
  | line :: rest => braceDelta line + netDelta rest

/-- Whether lines end a declaration: one of them opens a brace and they are in balance, or none does and the
last one ends with a semicolon. -/
def endsBehind (read : List Text) : Bool :=
  if read.any opensBrace then decide (netDelta read ≤ 0) else read.getLast?.any endsStatement

theorem netDelta_concat (read : List Text) (line : Text) :
    netDelta (read ++ [line]) = netDelta read + braceDelta line := by
  induction read with
  | nil => exact (Int.add_zero _).trans (Int.zero_add _).symm
  | cons first rest ih => rw [List.cons_append, netDelta, netDelta, ih, Int.add_assoc]

theorem any_opensBrace_concat (read : List Text) (line : Text) :
    (read ++ [line]).any opensBrace = (read.any opensBrace || opensBrace line) := by
  rw [List.any_append, List.any_cons, List.any_nil, Bool.or_false]

theorem endsBehind_concat (read : List Text) (line : Text) :
    endsBehind (read ++ [line]) =
      if read.any opensBrace || opensBrace line then decide (netDelta read + braceDelta line ≤ 0)
      else endsStatement line := by
  unfold endsBehind
  rw [any_opensBrace_concat, netDelta_concat, List.getLast?_concat]
  rfl

/-! ### The lines behind an extent -/

def linesBehind (ends : List Text → Bool) (read : List Text) : List Line → List Line
  | [] => []
  | line :: rest =>
      if ends (read ++ [line.text]) then rest else linesBehind ends (read ++ [line.text]) rest

theorem texts_numberedLines (number : Nat) (texts : List Text) :
    (numberedLines number texts).map Line.text = texts.map Text.trim := by
  induction texts generalizing number with
  | nil => rfl
  | cons text rest ih => rw [numberedLines, List.map_cons, List.map_cons, ih]

theorem texts_linesFrom (lines : List Text) (position : Nat) :
    (linesFrom lines position).map Line.text = linesBetween lines position lines.length := by
  unfold linesFrom linesBetween
  rw [texts_numberedLines, List.take_length]

theorem linesBetween_self (lines : List Text) (position : Nat) : linesBetween lines position position = [] := by
  unfold linesBetween
  rw [List.drop_eq_nil_of_le (List.length_take_le position lines)]
  rfl

theorem linesBetween_succ {lines : List Text} {start position : Nat} (behind : start ≤ position)
    (inside : position < lines.length) :
    linesBetween lines start (position + 1) =
      linesBetween lines start position ++ [Text.trim lines[position]] := by
  have low : start ≤ (lines.take position).length := by
    rw [List.length_take]
    omega
  unfold linesBetween
  rw [List.take_succ_eq_append_getElem inside, List.drop_append_of_le_length low, List.map_append,
    List.map_singleton]

/-- Reading on from a position inside, the lines left are those behind the next position that ends. -/
theorem linesBehind_linesFrom (ends : List Text → Bool) {lines : List Text} {start position : Nat}
    (behind : start ≤ position) (within : position ≤ lines.length) :
    ∃ stop, linesBehind ends (linesBetween lines start position) (linesFrom lines position) =
        linesFrom lines stop ∧
      position ≤ stop ∧ stop ≤ lines.length ∧ (position < lines.length → position < stop) ∧
      (stop < lines.length → ends (linesBetween lines start stop) = true) ∧
      ∀ earlier, position < earlier → earlier < stop → ends (linesBetween lines start earlier) = false := by
  induction measured : lines.length - position generalizing position with
  | zero =>
      have atEnd : lines.length ≤ position := by omega
      rw [linesFrom_eq_nil atEnd]
      refine ⟨position, (linesFrom_eq_nil atEnd).symm, Nat.le_refl position, within, ?_, ?_, ?_⟩
      · omega
      · omega
      · intro earlier above below
        omega
  | succ left ih =>
      have inside : position < lines.length := by omega
      rw [linesFrom_eq_cons inside, linesBehind, ← linesBetween_succ behind inside]
      by_cases ended : ends (linesBetween lines start (position + 1)) = true
      · rw [if_pos ended]
        refine ⟨position + 1, rfl, Nat.le_succ position, inside, ?_, ?_, ?_⟩
        · exact fun _ => Nat.lt_succ_self position
        · exact fun _ => ended
        · intro earlier above below
          omega
      · rw [if_neg ended]
        obtain ⟨stop, remains, forward, within, _, reached, first⟩ :=
          ih (Nat.le_succ_of_le behind) inside (by omega)
        refine ⟨stop, remains, Nat.le_of_succ_le forward, within, fun _ => forward, reached, ?_⟩
        intro earlier above below
        by_cases next : earlier = position + 1
        · rw [next]
          exact eq_false_of_ne_true ended
        · exact first earlier (by omega) below

/-- The lines left from a position on are those behind an extent. -/
theorem exists_extent (ends : List Text → Bool) (lines : List Text) (start : Fin lines.length) :
    ∃ stop, linesBehind ends [] (linesFrom lines start) = linesFrom lines stop ∧
      IsExtent ends lines start stop := by
  have found := linesBehind_linesFrom ends (Nat.le_refl start.val) (Nat.le_of_lt start.isLt)
  rw [linesBetween_self] at found
  obtain ⟨stop, remains, _, within, forward, ended, first⟩ := found
  exact ⟨stop, remains, forward start.isLt, within, ended, first⟩

/-! ### Skipped bodies -/

/-- Whether the last line, which is not the first one, is the only one that opens a brace and ends with a
semicolon. -/
def opensLate (read : List Text) : Bool :=
  !read.dropLast.isEmpty && !read.dropLast.any opensBrace &&
    read.getLast?.any fun last => opensBrace last && endsStatement last

/-- Whether skipping a body stops behind lines. -/
def endsSkip (read : List Text) : Bool :=
  endsBehind read || opensLate read

theorem opensLate_concat (read : List Text) (line : Text) :
    opensLate (read ++ [line]) =
      (!read.isEmpty && !read.any opensBrace && (opensBrace line && endsStatement line)) := by
  unfold opensLate
  rw [List.dropLast_concat, List.getLast?_concat]
  rfl

theorem endsSkip_singleton (line : Text) :
    endsSkip [line] = if opensBrace line then decide (braceDelta line ≤ 0) else endsStatement line := by
  have test := endsBehind_concat [] line
  have late : opensLate [line] = false := opensLate_concat [] line
  rw [List.nil_append] at test
  unfold endsSkip
  rw [test, late, Bool.or_false]
  simp [netDelta]

theorem endsSkip_concat {read : List Text} (filled : read ≠ []) (line : Text) :
    endsSkip (read ++ [line]) =
      (!read.any opensBrace && endsStatement line ||
        (read.any opensBrace || opensBrace line) && decide (netDelta read + braceDelta line ≤ 0)) := by
  have some : read.isEmpty = false := List.isEmpty_eq_false_iff.mpr filled
  unfold endsSkip
  rw [endsBehind_concat, opensLate_concat, some]
  cases read.any opensBrace <;> cases opensBrace line <;> simp [Bool.or_comm]

theorem skipOpenBody_eq {read : List Text} (filled : read ≠ []) (lines : List Line) :
    skipOpenBody (netDelta read) (read.any opensBrace) lines = linesBehind endsSkip read lines := by
  induction lines generalizing read with
  | nil => rfl
  | cons line rest ih =>
      have further := ih (List.append_ne_nil_of_left_ne_nil filled [line.text])
      rw [netDelta_concat, any_opensBrace_concat] at further
      rw [linesBehind, endsSkip_concat filled, ← further]
      simp only [skipOpenBody]
      by_cases ends : (!read.any opensBrace && endsStatement line.text) = true
      · rw [if_pos ends, ends, Bool.true_or, if_pos rfl]
      · rw [if_neg ends, eq_false_of_ne_true ends, Bool.false_or]

theorem skipBody_eq (first : Line) (rest : List Line) :
    skipBody first rest = linesBehind endsSkip [] (first :: rest) := by
  have further := skipOpenBody_eq (List.cons_ne_nil first.text []) rest
  have delta : netDelta [first.text] = braceDelta first.text := Int.add_zero _
  have opens : [first.text].any opensBrace = opensBrace first.text := Bool.or_false _
  rw [delta, opens] at further
  rw [linesBehind, List.nil_append, endsSkip_singleton, ← further]
  unfold skipBody
  cases opensBrace first.text with
  | true => simp
  | false => simp

/-- At a late opening only the balance tells whether the declaration ends. -/
theorem endsBehind_of_opensLate {read : List Text} (late : opensLate read = true) :
    endsBehind read = decide (netDelta read ≤ 0) := by
  have opened : read.any opensBrace = true := by
    unfold opensLate at late
    rw [Bool.and_eq_true, Option.any_eq_true] at late
    obtain ⟨last, isLast, both⟩ := late.2
    exact List.any_eq_true.mpr ⟨last, List.mem_of_getLast? isLast, (Bool.and_eq_true_iff.mp both).1⟩
  unfold endsBehind
  rw [if_pos opened]

/-- What a skipped body ends with is the end of the declaration, unless a late opening leaves braces open. -/
theorem isExtent_endsBehind_iff {lines : List Text} {start stop : Nat}
    (extent : IsExtent endsSkip lines start stop) :
    IsExtent endsBehind lines start stop ↔
      ¬(stop < lines.length ∧ opensLate (linesBetween lines start stop) = true ∧
        0 < netDelta (linesBetween lines start stop)) := by
  constructor
  · rintro declared ⟨further, late, above⟩
    have ended := declared.ended further
    rw [endsBehind_of_opensLate late, decide_eq_true_eq] at ended
    omega
  · intro balanced
    refine ⟨extent.forward, extent.within, ?_, ?_⟩
    · intro further
      rcases Bool.or_eq_true_iff.mp (extent.ended further) with ended | late
      · exact ended
      · have closed : ¬0 < netDelta (linesBetween lines start stop) :=
          fun above => balanced ⟨further, late, above⟩
        rw [endsBehind_of_opensLate late, decide_eq_true_eq]
        omega
    · intro earlier above below
      exact (Bool.or_eq_false_iff.mp (extent.first earlier above below)).1

/-- Skipping a body stops at the end of the declaration, or behind a line that opens the body, is not the first
one and ends with a semicolon. It misses the end of the declaration exactly when such a line leaves braces open
and is not the last line of the source. -/
theorem skipBody_extent (lines : List Text) (start : Fin lines.length) :
    ∃ stop, skipBody (lineOf lines start start.isLt) (linesFrom lines (start + 1)) = linesFrom lines stop ∧
      IsExtent endsSkip lines start stop ∧
      (IsExtent endsBehind lines start stop ↔
        ¬(stop < lines.length ∧ opensLate (linesBetween lines start stop) = true ∧
          0 < netDelta (linesBetween lines start stop))) := by
  obtain ⟨stop, remains, extent⟩ := exists_extent endsSkip lines start
  rw [linesFrom_eq_cons start.isLt] at remains
  exact ⟨stop, (skipBody_eq _ _).trans remains, extent, isExtent_endsBehind_iff extent⟩

/-- A statement behind the brace on the line that opens the body ends the skip there, although the declaration
goes on to the closing brace. -/
theorem skipBody_stops_early :
    let lines := ["void f()", "\x7b a();", "b();", "\x7d"].map String.toList
    skipBody ⟨1, "void f()".toList⟩ (linesFrom lines 1) = linesFrom lines 2 ∧
      IsExtent endsBehind lines 0 4 := by
  intro lines
  refine ⟨by decide +kernel, by decide, by decide, ?_, ?_⟩
  · intro further
    exact absurd further (by decide)
  · intro earlier above below
    have cases : earlier = 1 ∨ earlier = 2 ∨ earlier = 3 := by omega
    rcases cases with same | same | same <;> rw [same] <;> decide +kernel

end DocSite
