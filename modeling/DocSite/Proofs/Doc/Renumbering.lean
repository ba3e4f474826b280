/-
Renumbered documentation.

Line numbers are carried along and never looked at. To say so, the numbers of lines are moved by one function
and those in the documentation by another that agrees with it, since the documentation keeps its numbers as
integers.
-/
import DocSite.Proofs.Doc.Entries

namespace DocSite

def FunctionDoc.renumber (move : Int → Int) (declared : FunctionDoc) : FunctionDoc :=
  { declared with line := move declared.line }

def FieldDoc.renumber (move : Int → Int) (declared : FieldDoc) : FieldDoc :=
  { declared with line := move declared.line }

def EnumMemberDoc.renumber (move : Int → Int) (declared : EnumMemberDoc) : EnumMemberDoc :=
  { declared with line := move declared.line }

def AggregateDoc.renumber (move : Int → Int) (declared : AggregateDoc) : AggregateDoc :=
  { declared with
    methods := declared.methods.map (FunctionDoc.renumber move)
    fields := declared.fields.map (FieldDoc.renumber move)
    line := move declared.line }

def EnumDoc.renumber (move : Int → Int) (declared : EnumDoc) : EnumDoc :=
  { declared with
    members := declared.members.map (EnumMemberDoc.renumber move)
    line := move declared.line }

def ModuleDoc.renumber (move : Int → Int) (module : ModuleDoc) : ModuleDoc :=
  { module with
    functions := module.functions.map (FunctionDoc.renumber move)
    aggregates := module.aggregates.map (AggregateDoc.renumber move)
    enums := module.enums.map (EnumDoc.renumber move) }

def AggregateMember.renumber (move : Int → Int) : AggregateMember → AggregateMember
  | .method declared => .method (declared.renumber move)
  | .field declared => .field (declared.renumber move)

def ModuleEntry.renumber (move : Int → Int) : ModuleEntry → ModuleEntry
  | .moduleName name comments => .moduleName name comments
  | .importLine declaration => .importLine declaration
  | .function declared => .function (declared.renumber move)
  | .aggregate declared => .aggregate (declared.renumber move)
  | .enum declared => .enum (declared.renumber move)

/-- Numbers of lines and the same numbers in the documentation, moved alike. -/
structure Renumbering where
  line : Nat → Nat
  document : Int → Int
  agrees : ∀ number : Nat, document number = line number

namespace Renumbering

def later (offset : Nat) : Renumbering where
  line number := number + offset
  document number := number + offset
  agrees _ := rfl

/-- A line is put in behind a number of lines. -/
def inserted (position : Nat) : Renumbering where
  line number := if number ≤ position then number else number + 1
  document number := if number ≤ position then number else number + 1
  agrees number := by
    by_cases before : number ≤ position
    · rw [if_pos before, if_pos (Int.ofNat_le.mpr before)]
    · rw [if_neg before, if_neg (fun low => before (Int.ofNat_le.mp low))]
      rfl

theorem later_document (place start : Nat) :
    (later place).document =
      (fun number => number + ((place : Int) - start)) ∘ (later start).document := by
  funext number
  simp only [later, Function.comp_apply]
  omega

end Renumbering

def Line.renumber (numbering : Renumbering) (line : Line) : Line :=
  ⟨numbering.line line.number, line.text⟩

/-! ### Numbered lines -/

theorem numberedLines_later (offset number : Nat) (texts : List Text) :
    (numberedLines number texts).map (Line.renumber (.later offset)) =
      numberedLines (number + offset) texts := by
  induction texts generalizing number with
  | nil => rfl
  | cons text rest ih =>
      rw [numberedLines, List.map_cons, ih, numberedLines]
      simp only [Line.renumber, Renumbering.later, Nat.add_right_comm]

theorem numberedLines_before (position number : Nat) (texts : List Text)
    (before : number + texts.length ≤ position + 1) :
    (numberedLines number texts).map (Line.renumber (.inserted position)) =
      numberedLines number texts := by
  induction texts generalizing number with
  | nil => rfl
  | cons text rest ih =>
      rw [List.length_cons] at before
      have low : number ≤ position := by omega
      rw [numberedLines, List.map_cons, ih (number + 1) (by omega)]
      simp only [Line.renumber, Renumbering.inserted, if_pos low]

theorem numberedLines_behind (position number : Nat) (texts : List Text)
    (behind : position < number) :
    (numberedLines number texts).map (Line.renumber (.inserted position)) =
      numberedLines (number + 1) texts := by
  induction texts generalizing number with
  | nil => rfl
  | cons text rest ih =>
      have high : ¬number ≤ position := by omega
      rw [numberedLines, List.map_cons, ih (number + 1) (by omega), numberedLines]
      simp only [Line.renumber, Renumbering.inserted, if_neg high]

/-! ### Entries -/

section Projections

variable (move : Int → Int)

@[simp] theorem method?_renumber (member : AggregateMember) :
    (member.renumber move).method? = member.method?.map (FunctionDoc.renumber move) := by
  cases member <;> rfl

@[simp] theorem field?_renumber (member : AggregateMember) :
    (member.renumber move).field? = member.field?.map (FieldDoc.renumber move) := by
  cases member <;> rfl

@[simp] theorem declared?_renumber (entry : ModuleEntry) :
    (entry.renumber move).declared? = entry.declared? := by
  cases entry <;> rfl

@[simp] theorem import?_renumber (entry : ModuleEntry) :
    (entry.renumber move).import? = entry.import? := by
  cases entry <;> rfl

@[simp] theorem function?_renumber (entry : ModuleEntry) :
    (entry.renumber move).function? = entry.function?.map (FunctionDoc.renumber move) := by
  cases entry <;> rfl

@[simp] theorem aggregate?_renumber (entry : ModuleEntry) :
    (entry.renumber move).aggregate? = entry.aggregate?.map (AggregateDoc.renumber move) := by
  cases entry <;> rfl

@[simp] theorem enum?_renumber (entry : ModuleEntry) :
    (entry.renumber move).enum? = entry.enum?.map (EnumDoc.renumber move) := by
  cases entry <;> rfl

theorem declaredModule?_renumber (entries : List ModuleEntry) :
    declaredModule? (entries.map (ModuleEntry.renumber move)) = declaredModule? entries := by
  simp only [declaredModule?_eq, List.filterMap_map, Function.comp_def, declared?_renumber]

theorem ofEntries_renumber (file : FilePath) (entries : List ModuleEntry) :
    ModuleDoc.ofEntries file (entries.map (ModuleEntry.renumber move)) =
      (ModuleDoc.ofEntries file entries).renumber move := by
  simp only [ofEntries_eq, ModuleDoc.renumber, declaredModule?_renumber, List.filterMap_map,
    List.map_filterMap, Function.comp_def, import?_renumber, function?_renumber,
    aggregate?_renumber, enum?_renumber]

end Projections
end DocSite
