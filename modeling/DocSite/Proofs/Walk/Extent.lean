/-
Where containers end.

A container has the extent of a declaration, except that a line that its scope takes as part of a comment once
the body has opened does not count. An aggregate ends there whatever comes first, and an enum if no line in
front of its body closes a brace. Otherwise the line that opens the body may leave no brace open without having
a closing one, and an enum ends with a closing brace only.
-/
import DocSite.Proofs.Source.Extent
import DocSite.Proofs.Walk.Place

namespace DocSite

open Cursor (linesFrom lineOf linesFrom_eq_cons)

/-! ### Lines that count -/

/-- The lines that count among those read so far, and where the comments stand once the body has opened. -/
structure CountedLines where
  lines : List Text
  comment? : Option CommentPlace

namespace CountedLines

def add (counted : CountedLines) (line : Text) : CountedLines :=
  match counted.comment? with
  | none => ⟨counted.lines ++ [line], if opensBrace line then some .between else none⟩
  | some comment =>
      match comment.read? line with
      | some next => ⟨counted.lines, some next⟩
      | none => ⟨counted.lines ++ [line], some .between⟩

def of (read : List Text) : CountedLines :=
  read.foldl add ⟨[], none⟩

def place (counted : CountedLines) : BodyPlace :=
  ⟨netDelta counted.lines, counted.comment?⟩

/-- Comments are told apart from code as soon as a line that counts has opened the body. -/
def Told (counted : CountedLines) : Prop :=
  counted.lines.any opensBrace = counted.comment?.isSome

theorem of_concat (read : List Text) (line : Text) : of (read ++ [line]) = (of read).add line := by
  unfold of
  rw [List.foldl_concat]

theorem Told.add {counted : CountedLines} (told : counted.Told) (line : Text) : (counted.add line).Told := by
  obtain ⟨lines, comment?⟩ := counted
  unfold Told at told ⊢
  cases comment? with
  | none =>
      simp only [CountedLines.add, any_opensBrace_concat, told, Option.isSome_none, Bool.false_or]
      cases opensBrace line <;> rfl
  | some comment =>
      simp only [CountedLines.add]
      cases comment.read? line with
      | some next => exact told
      | none => simp only [any_opensBrace_concat, told, Option.isSome_some, Bool.true_or]

theorem told_of (read : List Text) : (of read).Told := by
  induction read using List.reverseRecOn with
  | nil => rfl
  | append_singleton read line ih =>
      rw [of_concat]
      exact ih.add line

/-- The container ends with a line exactly if the lines that count tell so. -/
theorem step_place {counted : CountedLines} (told : counted.Told) (unclosed : counted.place.Unclosed)
    (line : Text) :
    counted.place.step line =
      if endsBehind (counted.add line).lines then none else some (counted.add line).place := by
  obtain ⟨lines, comment?⟩ := counted
  unfold Told at told
  cases comment? with
  | none =>
      simp only [place, BodyPlace.step, CountedLines.add, endsBehind_concat, netDelta_concat, told,
        Option.isSome_none, Bool.false_or]
      by_cases opens : opensBrace line = true
      · by_cases closed : netDelta lines + braceDelta line ≤ 0
        · simp only [opens, closed, decide_true, if_true]
        · simp only [opens, closed, decide_false, Bool.false_eq_true, if_true, if_false]
      · simp only [opens, Bool.false_eq_true, if_false]
  | some comment =>
      have positive : ¬netDelta lines ≤ 0 := Int.not_le.mpr (unclosed rfl)
      cases reads : comment.read? line with
      | some next =>
          simp only [place, BodyPlace.step, CountedLines.add, reads, endsBehind, told, Option.isSome_some,
            if_true, positive, decide_false, Bool.false_eq_true, if_false]
      | none =>
          simp only [place, BodyPlace.step, CountedLines.add, reads, endsBehind_concat, netDelta_concat,
            told, Option.isSome_some, Bool.true_or, if_true]
          by_cases closed : netDelta lines + braceDelta line ≤ 0
          · simp only [closed, decide_true, if_true]
          · simp only [closed, decide_false, Bool.false_eq_true, if_false]

end CountedLines

def endsContainer (read : List Text) : Bool :=
  endsBehind (CountedLines.of read).lines

theorem behind_eq_linesBehind {read : List Text} (unclosed : (CountedLines.of read).place.Unclosed)
    (lines : List Line) :
    (CountedLines.of read).place.behind lines = linesBehind endsContainer read lines := by
  induction lines generalizing read with
  | nil => rfl
  | cons line rest ih =>
      have turn := CountedLines.step_place (CountedLines.told_of read) unclosed line.text
      rw [← CountedLines.of_concat] at turn
      unfold BodyPlace.behind linesBehind endsContainer
      by_cases ends : endsBehind (CountedLines.of (read ++ [line.text])).lines = true
      · rw [turn, if_pos ends, if_pos ends]
      · rw [if_neg ends] at turn
        rw [turn, if_neg ends]
        exact ih (unclosed.step turn)

theorem start_behind (lines : List Line) :
    BodyPlace.start.behind lines = linesBehind endsContainer [] lines :=
  @behind_eq_linesBehind [] BodyPlace.unclosed_start lines

/-! ### Walks -/

def linesBeforeBody? : List Text → Option (List Text)
  | [] => none
  | line :: rest =>
      if opensBrace line then some []
      else if endsStatement line then none
      else (linesBeforeBody? rest).map (List.cons line)

/-- If the body has not opened yet, it opens at an allowed balance. -/
def BodyPlace.OpensAt (allowed : Int → Prop) (place : BodyPlace) (lines : List Text) : Prop :=
  place.comment? = none → ∀ front ∈ linesBeforeBody? lines, allowed (place.balance + netDelta front)

theorem BodyPlace.OpensAt.step {allowed : Int → Prop} {place next : BodyPlace} {line : Text}
    {rest : List Text} (opensAt : place.OpensAt allowed (line :: rest)) (goes : place.step line = some next) :
    next.OpensAt allowed rest := by
  intro pending front found
  cases BodyPlace.leads_of_step goes with
  | opens balance opened left => cases pending
  | waits balance unopened unended =>
      have before : line :: front ∈ linesBeforeBody? (line :: rest) := by
        rw [linesBeforeBody?, unopened, unended, Option.mem_def.mp found]
        rfl
      have reached := opensAt rfl (line :: front) before
      rw [netDelta, ← Int.add_assoc] at reached
      exact reached
  | comment balance reads => cases pending
  | code balance reads left => cases pending

namespace BodyRules.Moves

variable {Member : Type} {rules : BodyRules Member} {allowed : Int → Prop} (moves : rules.Moves allowed)

include moves

/-- What a walk leaves is told by the place it stands at. -/
theorem run {state : BodyState Member} (lines : List Line) (unclosed : state.place.Unclosed)
    (opensAt : state.place.OpensAt allowed (lines.map Line.text)) :
    (rules.run state lines).2 = state.place.behind lines := by
  induction lines generalizing state with
  | nil => rfl
  | cons line rest ih =>
      have opensHere : state.place.comment? = none → opensBrace line.text = true →
          allowed state.place.balance := by
        intro pending opens
        have first : [] ∈ linesBeforeBody? (line.text :: rest.map Line.text) := by
          rw [linesBeforeBody?, if_pos opens]
          rfl
        have reached := opensAt pending [] first
        rwa [netDelta, Int.add_zero] at reached
      have turn := moves.step unclosed opensHere
      rw [run_cons, BodyPlace.behind, ← turn]
      cases taken : rules.step state line with
      | ends members => rfl
      | goes next =>
          rw [taken] at turn
          exact ih (unclosed.step turn.symm) (opensAt.step turn.symm)

theorem scan (first : Line) (rest : List Line)
    (opensAt : BodyPlace.start.OpensAt allowed ((first :: rest).map Line.text)) :
    (rules.scan first rest).2 = BodyPlace.start.behind (first :: rest) := by
  have turn := moves.header first
  unfold BodyRules.scan
  rw [BodyPlace.behind, ← turn]
  cases taken : rules.header first with
  | ends members => rfl
  | goes next =>
      rw [taken] at turn
      exact moves.run rest (BodyPlace.unclosed_start.step turn.symm) (opensAt.step turn.symm)

end BodyRules.Moves

/-! ### Aggregates and enums -/

def closesBrace (line : Text) : Bool :=
  (scanCode line).bare.contains '\x7d'

theorem braceDelta_of_no_braces {line : Text} (noOpener : opensBrace line = false)
    (noCloser : closesBrace line = false) : braceDelta line = 0 := by
  have openers : (scanCode line).bare.count '\x7b' = 0 :=
    List.count_eq_zero.mpr fun member => Bool.eq_false_iff.mp noOpener (List.contains_iff_mem.mpr member)
  have closers : (scanCode line).bare.count '\x7d' = 0 :=
    List.count_eq_zero.mpr fun member => Bool.eq_false_iff.mp noCloser (List.contains_iff_mem.mpr member)
  unfold braceDelta
  dsimp only
  rw [openers, closers]
  rfl

theorem opensBrace_of_before {lines front : List Text} (found : front ∈ linesBeforeBody? lines) :
    ∀ line ∈ front, opensBrace line = false := by
  induction lines generalizing front with
  | nil => cases found
  | cons line rest ih =>
      rw [linesBeforeBody?] at found
      split_ifs at found with opens ends
      · cases found
        exact fun _ member => nomatch member
      · cases found
      · obtain ⟨further, inRest, rfl⟩ := Option.map_eq_some_iff.mp found
        exact List.forall_mem_cons.mpr ⟨eq_false_of_ne_true opens, ih inRest⟩

theorem netDelta_eq_zero {lines : List Text} (level : ∀ line ∈ lines, braceDelta line = 0) :
    netDelta lines = 0 := by
  induction lines with
  | nil => rfl
  | cons line rest ih =>
      obtain ⟨here, further⟩ := List.forall_mem_cons.mp level
      rw [netDelta, here, ih further, Int.zero_add]

theorem netDelta_of_before {lines front : List Text} (found : front ∈ linesBeforeBody? lines)
    (noCloser : ∀ line ∈ front, closesBrace line = false) : netDelta front = 0 := by
  apply netDelta_eq_zero
  intro line member
  exact braceDelta_of_no_braces (opensBrace_of_before found line member) (noCloser line member)

theorem snd_scanAggregate (kind : AggregateKind) (name : Text) (comments : List Text) (first : Line)
    (rest : List Line) :
    (scanAggregate kind name comments first rest).2 = (aggregateRules.run (.pending 0) (first :: rest)).2 := by
  rw [run_pendingAggregate]
  unfold scanAggregate
  dsimp only
  split_ifs <;> rfl

theorem scanAggregate_behind (kind : AggregateKind) (name : Text) (comments : List Text) (first : Line)
    (rest : List Line) :
    (scanAggregate kind name comments first rest).2 = BodyPlace.start.behind (first :: rest) := by
  have unclosed : (BodyState.pending 0 : BodyState AggregateMember).place.Unclosed := BodyPlace.unclosed_start
  rw [snd_scanAggregate, aggregateRules_moves.run _ unclosed fun _ _ _ => trivial]
  rfl

theorem scanEnum_behind (name : Text) (comments : List Text) (first : Line) (rest : List Line)
    (noCloser : ∀ front ∈ linesBeforeBody? ((first :: rest).map Line.text),
      ∀ line ∈ front, closesBrace line = false) :
    (scanEnum name comments first rest).2 = BodyPlace.start.behind (first :: rest) := by
  have level : BodyPlace.start.OpensAt (fun balance => balance = 0) ((first :: rest).map Line.text) := by
    intro _ front found
    rw [netDelta_of_before found (noCloser front found)]
    rfl
  have walked := enumRules_moves.scan first rest level
  rw [scan_enumRules] at walked
  rw [← walked]
  unfold scanEnum
  split_ifs <;> rfl

/-- A container ends at the extent that the lines that count give it, whatever it is called and whatever comes
before it; an enum does so if no line in front of its body closes a brace. -/
theorem container_extent (lines : List Text) (start : Fin lines.length) :
    let first := lineOf lines start start.isLt
    let rest := linesFrom lines (start + 1)
    ∃ stop, IsExtent endsContainer lines start stop ∧
      (∀ kind name comments, (scanAggregate kind name comments first rest).2 = linesFrom lines stop) ∧
      ((∀ front ∈ linesBeforeBody? (linesBetween lines start lines.length),
          ∀ line ∈ front, closesBrace line = false) →
        ∀ name comments, (scanEnum name comments first rest).2 = linesFrom lines stop) := by
  intro first rest
  have whole : linesFrom lines start = first :: rest := linesFrom_eq_cons start.isLt
  obtain ⟨stop, remains, extent⟩ := exists_extent endsContainer lines start
  rw [← start_behind, whole] at remains
  refine ⟨stop, extent, ?_, ?_⟩
  · intro kind name comments
    exact (scanAggregate_behind kind name comments first rest).trans remains
  · intro noCloser name comments
    rw [← texts_linesFrom, whole] at noCloser
    exact (scanEnum_behind name comments first rest noCloser).trans remains

/-- Braces in a comment inside the body do not count. -/
theorem container_extent_commented :
    let lines := ["enum E", "\x7b", "/** \x7d", "\x7d */", "a", "\x7d", "int x;"].map String.toList
    (∀ front ∈ linesBeforeBody? (linesBetween lines 0 lines.length),
        ∀ line ∈ front, closesBrace line = false) ∧
      IsExtent endsContainer lines 0 6 ∧
      (scanEnum "E".toList [] ⟨1, "enum E".toList⟩ (linesFrom lines 1)).2 = linesFrom lines 6 := by
  intro lines
  have noCloser : ∀ front ∈ linesBeforeBody? (linesBetween lines 0 lines.length),
      ∀ line ∈ front, closesBrace line = false := by decide +kernel
  have reached : IsExtent endsContainer lines 0 6 := by
    refine ⟨by decide, by decide, fun _ => by decide +kernel, ?_⟩
    intro earlier above below
    have cases : earlier = 1 ∨ earlier = 2 ∨ earlier = 3 ∨ earlier = 4 ∨ earlier = 5 := by omega
    rcases cases with same | same | same | same | same <;> rw [same] <;> decide +kernel
  obtain ⟨stop, extent, _, enum⟩ := container_extent lines ⟨0, by decide⟩
  have stopped := enum noCloser "E".toList []
  rw [extent.unique reached] at stopped
  exact ⟨noCloser, reached, stopped⟩

end DocSite
