/-
Isolated containers.

The scan of a container reads the lines from its header to its end and no other line, and it knows their
numbers only to pass them on. So the container is the same wherever its lines stand and whatever stands around
them, and the lines of its body reach nothing of the module but the members of the container itself. What the
walk over the module keeps behind a container depends on the header alone.
-/
import DocSite.Proofs.Cursor.Basic
import DocSite.Proofs.Text.Lines
import DocSite.Proofs.Walk.Renumbering

namespace DocSite

open Cursor (linesFrom linesFrom_eq_cons linesFrom_eq_nil)

/-! ### Confined scans -/

/-- A scan that stops in front of a line gives the same document, up to the numbers of its lines, in every list
that has the lines it read, and stops behind them again. Positions count from zero. -/
def Confined {Document : Type} (renumber : (Int → Int) → Document → Document)
    (scan : Line → List Line → Option Document × List Line) : Prop :=
  ∀ (lines others : List Text) (start place stop : Nat) (first again : Line) (rest rest' : List Line),
    linesFrom lines start = first :: rest → linesFrom others place = again :: rest' →
      (scan first rest).2 = linesFrom lines stop → stop < lines.length →
        (∀ index, start + index < stop → others[place + index]? = lines[start + index]?) →
          scan again rest' =
            ((scan first rest).1.map (renumber fun number => number + ((place : Int) - start)),
              linesFrom others (place + (stop - start)))

section Confinement

variable {Document : Type} {renumber : (Int → Int) → Document → Document}
  {scan : Line → List Line → Option Document × List Line}

/-- The lines of one list between two positions, found again in another list. -/
theorem drop_eq_of_agree {lines others : List Text} {start place stop : Nat}
    (agree : ∀ index, start + index < stop → others[place + index]? = lines[start + index]?) :
    others.drop place =
      (lines.drop start).take (stop - start) ++ others.drop (place + (stop - start)) := by
  have parts : (others.drop place).take (stop - start) = (lines.drop start).take (stop - start) := by
    apply List.ext_getElem?
    intro index
    by_cases low : index < stop - start
    · rw [List.getElem?_take_of_lt low, List.getElem?_take_of_lt low, List.getElem?_drop,
        List.getElem?_drop]
      exact agree index (by omega)
    · rw [List.getElem?_take_eq_none (by omega), List.getElem?_take_eq_none (by omega)]
  rw [← parts, ← List.drop_drop, List.take_append_drop]

theorem linesFrom_ne_nil {lines : List Text} {position : Nat} (inside : position < lines.length) :
    linesFrom lines position ≠ [] := by
  rw [linesFrom_eq_cons inside]
  exact List.cons_ne_nil _ _

/-- The lines from a position are lines numbered from one that come later. -/
theorem linesFrom_eq_map (lines : List Text) (position : Nat) :
    linesFrom lines position =
      (numberedLines 1 (lines.drop position)).map (Line.renumber (.later position)) := by
  rw [numberedLines_later, Nat.add_comm]
  rfl

theorem take_numberedLines (count number : Nat) (texts : List Text) :
    (numberedLines number texts).take count = numberedLines number (texts.take count) := by
  induction texts generalizing count number with
  | nil => rw [List.take_nil, numberedLines, List.take_nil]
  | cons text rest ih =>
      cases count with
      | zero => rfl
      | succ count => exact congrArg (List.cons _) (ih count (number + 1))

/-- A scan that reads no further than it has to and carries numbers along is confined. -/
theorem confined_of_carries
    (stays : ∀ first rest, (scan first rest).2 ≠ [] → ∃ front, rest = front ++ (scan first rest).2 ∧
      ∀ others, scan first (front ++ others) = ((scan first rest).1, others))
    (carries : ∀ (numbering : Renumbering) first rest,
      scan (first.renumber numbering) (rest.map (Line.renumber numbering)) =
        ((scan first rest).1.map (renumber numbering.document),
          (scan first rest).2.map (Line.renumber numbering)))
    (compose : ∀ outer inner document,
      renumber outer (renumber inner document) = renumber (outer ∘ inner) document) :
    Confined renumber scan := by
  intro lines others start place stop first again rest rest' atStart atPlace stops further agree
  -- Both scans are compared with the scan of the same lines numbered from one.
  rw [linesFrom_eq_map] at atStart atPlace
  obtain ⟨header, behind, split, rfl, rfl⟩ := List.map_eq_cons_iff.mp atStart
  rw [carries] at stops ⊢
  dsimp only at stops ⊢
  have remains : (scan header behind).2 ≠ [] := by
    intro none
    rw [none] at stops
    exact linesFrom_ne_nil further stops.symm
  obtain ⟨front, parts, free⟩ := stays header behind remains
  have total := congrArg List.length split
  have left := congrArg List.length stops
  have read := congrArg List.length parts
  simp only [linesFrom, length_numberedLines, List.length_drop, List.length_cons, List.length_map,
    List.length_append] at total left read
  have extent : stop - start = front.length + 1 := by omega
  have found : numberedLines 1 (others.drop place) =
      header :: (front ++ numberedLines (front.length + 2) (others.drop (place + (stop - start)))) := by
    have count : ((lines.drop start).take (front.length + 1)).length = front.length + 1 := by
      rw [List.length_take, List.length_drop]
      omega
    rw [drop_eq_of_agree agree, extent, numberedLines_append, count, ← take_numberedLines, split, parts,
      List.take_succ_cons, List.take_left' rfl, Nat.add_comm 1]
    rfl
  rw [found, List.map_cons] at atPlace
  cases atPlace
  have moved : renumber (Renumbering.later place).document =
      renumber (fun number => number + ((place : Int) - start)) ∘
        renumber (Renumbering.later start).document := by
    funext document
    rw [Function.comp_apply, compose, Renumbering.later_document place start]
  have stands : front.length + 2 + place = place + (stop - start) + 1 := by omega
  rw [carries, free, Option.map_map, numberedLines_later, moved, stands]
  rfl

/-- A scan is confined when it makes its document of the members that a walk over a body finds. -/
theorem confined_of_rules {Member : Type} {rules : BodyRules Member}
    {change : (Int → Int) → Member → Member} (document : Int → List Member → Option Document)
    (scans : ∀ first rest, scan first rest =
      (document first.number (rules.scan first rest).1, (rules.scan first rest).2))
    (carries : ∀ numbering : Renumbering, rules.Carries numbering (change numbering.document))
    (documents : ∀ move number members, document (move number) (members.map (change move)) =
      (document number members).map (renumber move))
    (compose : ∀ outer inner document,
      renumber outer (renumber inner document) = renumber (outer ∘ inner) document) :
    Confined renumber scan := by
  apply confined_of_carries
  · intro first rest stops
    rw [scans] at stops ⊢
    obtain ⟨front, split, free⟩ := rules.scan_confined first rest stops
    refine ⟨front, split, ?_⟩
    intro others
    rw [scans, free]
  · intro numbering first rest
    rw [scans, scans, (carries numbering).scan]
    simp only [Line.renumber, ← numbering.agrees, documents]
  · exact compose

end Confinement

theorem scanAggregate_confined (kind : AggregateKind) (name : Text) (comments : List Text) :
    Confined AggregateDoc.renumber (scanAggregate kind name comments) := by
  apply confined_of_rules (fun number members =>
    if name.isEmpty then none
    else some { name := name, kind := kind, comments := comments
                methods := members.filterMap AggregateMember.method?
                fields := members.filterMap AggregateMember.field?
                line := number })
  · intro first rest
    rw [scan_aggregateRules]
    unfold scanAggregate
    by_cases anonymous : name.isEmpty = true
    · simp only [anonymous, if_true]
    · simp only [anonymous, Bool.false_eq_true, if_false]
  · exact aggregateRules_carries
  · intro move number members
    by_cases anonymous : name.isEmpty = true
    · simp [anonymous]
    · simp [anonymous, AggregateDoc.renumber, List.filterMap_map, List.map_filterMap]
  · intro outer inner document
    simp [AggregateDoc.renumber, FunctionDoc.renumber, FieldDoc.renumber]

theorem scanEnum_confined (name : Text) (comments : List Text) :
    Confined EnumDoc.renumber (scanEnum name comments) := by
  apply confined_of_rules (fun number members =>
    if name.isEmpty then none
    else some { name := name, comments := comments, members := members, line := number })
  · intro first rest
    rw [scan_enumRules]
    unfold scanEnum
    by_cases anonymous : name.isEmpty = true
    · simp only [anonymous, if_true]
    · simp only [anonymous, Bool.false_eq_true, if_false]
  · exact enumRules_carries
  · intro move number members
    by_cases anonymous : name.isEmpty = true
    · simp [anonymous]
    · simp [anonymous, EnumDoc.renumber]
  · intro outer inner document
    simp [EnumDoc.renumber, EnumMemberDoc.renumber]

/-! ### Containers of a module -/

def ModuleEntry.bare : ModuleEntry → ModuleEntry
  | .aggregate declared => .aggregate { declared with methods := [], fields := [] }
  | .enum declared => .enum { declared with members := [] }
  | entry => entry

structure MeetsContainer (lines : List Line) (earlier : List ModuleEntry) (register : CommentRegister)
    (header : ContainerHeader) (first : Line) (rest : List Line) : Prop where
  reaches : Reaches .empty lines earlier register (first :: rest)
  noComment : register.consume? first rest = none
  accepted : codeKind (codeOf first.text) = .container header

structure SilentEntries (entries : List ModuleEntry) : Prop where
  names : entries.filterMap ModuleEntry.declared? = []
  imports : entries.filterMap ModuleEntry.import? = []
  functions : entries.filterMap ModuleEntry.function? = []

section Containers

variable (header : ContainerHeader) (register : CommentRegister) (first : Line)

/-- What the scan of a container hands to the module beside its members depends on the header alone. -/
theorem stepContainer_bare (rest others : List Line) :
    (stepContainer header register first others).entries.map ModuleEntry.bare =
        (stepContainer header register first rest).entries.map ModuleEntry.bare ∧
      (stepContainer header register first others).register =
        (stepContainer header register first rest).register := by
  unfold stepContainer
  cases header.kind with
  | enum =>
      by_cases anonymous : header.name.isEmpty = true
      · simp [scanEnum, anonymous]
      · simp [scanEnum, anonymous, ModuleEntry.bare]
  | aggregate kind =>
      by_cases anonymous : header.name.isEmpty = true
      · simp [scanAggregate, anonymous]
      · simp [scanAggregate, anonymous, ModuleEntry.bare]

theorem stepContainer_silent (rest : List Line) :
    SilentEntries (stepContainer header register first rest).entries := by
  unfold stepContainer
  cases header.kind with
  | enum =>
      by_cases anonymous : header.name.isEmpty = true
      · constructor <;> simp [scanEnum, anonymous]
      · constructor <;> simp [scanEnum, anonymous, ModuleEntry.declared?, ModuleEntry.import?,
          ModuleEntry.function?]
  | aggregate kind =>
      by_cases anonymous : header.name.isEmpty = true
      · constructor <;> simp [scanAggregate, anonymous]
      · constructor <;> simp [scanAggregate, anonymous, ModuleEntry.declared?, ModuleEntry.import?,
          ModuleEntry.function?]

end Containers

namespace MeetsContainer

variable {earlier : List ModuleEntry} {register : CommentRegister} {header : ContainerHeader}
  {first : Line} {front rest : List Line}

/-- The entries of a module in which any lines stand behind the header. -/
theorem moduleEntries_eq
    (meets : MeetsContainer (front ++ first :: rest) earlier register header first rest)
    (others : List Line) :
    moduleEntries .empty (front ++ first :: others) =
      earlier ++ ((stepContainer header register first others).entries ++
        moduleEntries (stepContainer header register first others).register
          (stepContainer header register first others).remaining) := by
  rw [meets.reaches.moduleEntries_eq (List.cons_ne_nil first rest)]
  have ignored : register.consume? first others = none := by
    rw [← CommentReader.read?_idle_eq_none_iff register first others,
      CommentReader.read?_idle_eq_none_iff register first rest]
    exact meets.noComment
  have turn : stepCode register first others = stepContainer header register first others := by
    have accepted : codeKind (splitLineComment first.text).1 = .container header := meets.accepted
    rw [stepCode_eq]
    simp only [accepted]
  rw [moduleEntries_ignored ignored, turn]

end MeetsContainer

/-- One documentation differs from another in the members of one container and in the numbers of what follows
it. The entries in front of the container are shared, and its own entry keeps its name, comments and line. -/
structure DiffersInMembers (document changed : ModuleDoc) (earlier own replaced later : List ModuleEntry)
    (move : Int → Int) : Prop where
  document_eq : document = .ofEntries document.file (earlier ++ (own ++ later))
  changed_eq : changed = .ofEntries document.file
    (earlier ++ (replaced ++ later.map (ModuleEntry.renumber move)))
  bare : replaced.map ModuleEntry.bare = own.map ModuleEntry.bare
  name : changed.name = document.name
  comments : changed.comments = document.comments
  imports : changed.imports = document.imports
  functions : document.functions =
    earlier.filterMap ModuleEntry.function? ++ later.filterMap ModuleEntry.function?
  functions_changed : changed.functions = earlier.filterMap ModuleEntry.function? ++
    (later.filterMap ModuleEntry.function?).map (FunctionDoc.renumber move)

theorem differsInMembers_of_silent {file : FilePath} {earlier own replaced later : List ModuleEntry}
    {move : Int → Int} (bare : replaced.map ModuleEntry.bare = own.map ModuleEntry.bare)
    (silent : SilentEntries own) (silent' : SilentEntries replaced) :
    DiffersInMembers (.ofEntries file (earlier ++ (own ++ later)))
      (.ofEntries file (earlier ++ (replaced ++ later.map (ModuleEntry.renumber move))))
      earlier own replaced later move := by
  have declared : declaredModule? (earlier ++ (replaced ++ later.map (ModuleEntry.renumber move))) =
      declaredModule? (earlier ++ (own ++ later)) := by
    simp [declaredModule?_eq, List.filterMap_append, List.filterMap_map, silent.names,
      silent'.names]
  constructor
  · rfl
  · rfl
  · exact bare
  · simp only [ofEntries_eq, declared]
  · simp only [ofEntries_eq, declared]
  · simp [ofEntries_eq, List.filterMap_append, List.filterMap_map, silent.imports, silent'.imports]
  · simp [ofEntries_eq, List.filterMap_append, silent.functions]
  · simp [ofEntries_eq, List.filterMap_append, List.filterMap_map, List.map_filterMap,
      silent'.functions]

/-- The entries behind a container are the same wherever its end stands, up to their numbers. -/
theorem moduleEntries_moved (register : CommentRegister) (number place : Nat)
    (texts : List Text) :
    moduleEntries register (numberedLines place texts) =
      (moduleEntries register (numberedLines number texts)).map
        (ModuleEntry.renumber fun line => line + ((place : Int) - number)) := by
  have atNumber := moduleEntries_renumber (.later number) register (numberedLines 0 texts)
  have atPlace := moduleEntries_renumber (.later place) register (numberedLines 0 texts)
  rw [numberedLines_later, Nat.zero_add] at atNumber atPlace
  rw [atNumber, atPlace, List.map_map]
  congr 1
  funext entry
  rw [Renumbering.later_document place number]
  cases entry <;>
    simp [ModuleEntry.renumber, FunctionDoc.renumber, AggregateDoc.renumber, FieldDoc.renumber,
      EnumDoc.renumber, EnumMemberDoc.renumber]

/-- The scan of a container that stops in front of a line depends on its own lines only, up to their numbers.
In a module, other lines behind the header for which the scan stops at the same following lines change the
members of the container and the numbers of what follows it, and nothing else. -/
theorem container_isolated :
    (∀ kind name comments, Confined AggregateDoc.renumber (scanAggregate kind name comments)) ∧
      (∀ name comments, Confined EnumDoc.renumber (scanEnum name comments)) ∧
      ∀ (file : FilePath) (front : List Text) (text : Text) (body other behind : List Text)
        (earlier : List ModuleEntry) (register : CommentRegister) (header : ContainerHeader),
        let first : Line := ⟨front.length + 1, Text.trim text⟩
        let scanned := stepContainer header register first
          (numberedLines (front.length + 2) (body ++ behind))
        let rescanned := stepContainer header register first
          (numberedLines (front.length + 2) (other ++ behind))
        MeetsContainer (numberedLines 1 (front ++ text :: (body ++ behind))) earlier register header
            first (numberedLines (front.length + 2) (body ++ behind)) →
          scanned.remaining = numberedLines (front.length + 2 + body.length) behind →
          rescanned.remaining = numberedLines (front.length + 2 + other.length) behind →
          DiffersInMembers
            (extractLines file (numberedLines 1 (front ++ text :: (body ++ behind))))
            (extractLines file (numberedLines 1 (front ++ text :: (other ++ behind))))
            earlier scanned.entries rescanned.entries
            (moduleEntries scanned.register (numberedLines (front.length + 2 + body.length) behind))
            (fun number => number + ((other.length : Int) - body.length)) := by
  refine ⟨scanAggregate_confined, scanEnum_confined, ?_⟩
  intro file front text body other behind earlier register header
  dsimp only
  have numbered (others : List Text) : numberedLines 1 (front ++ text :: others) =
      numberedLines 1 front ++ ⟨front.length + 1, Text.trim text⟩ ::
        numberedLines (front.length + 2) others := by
    rw [numberedLines_append, numberedLines, Nat.add_comm 1]
  rw [numbered, numbered]
  intro meets stops stops'
  obtain ⟨bare, sameRegister⟩ := stepContainer_bare header register
    ⟨front.length + 1, Text.trim text⟩ (numberedLines (front.length + 2) (body ++ behind))
    (numberedLines (front.length + 2) (other ++ behind))
  unfold extractLines
  rw [meets.moduleEntries_eq, meets.moduleEntries_eq, stops, stops', sameRegister,
    moduleEntries_moved _ (front.length + 2 + body.length) (front.length + 2 + other.length)]
  have offset : (fun number : Int => number + (((front.length + 2 + other.length : Nat) : Int) -
      (front.length + 2 + body.length : Nat))) =
        fun number => number + ((other.length : Int) - body.length) := by
    funext number
    omega
  rw [offset]
  exact differsInMembers_of_silent bare (stepContainer_silent header register _ _)
    (stepContainer_silent header register _ _)

/-- A class is scanned behind an import as it is at the front of the lines, and another body for it leaves the
repeated comment behind it alone. -/
theorem container_isolated_class :
    let header : ContainerHeader := ⟨.aggregate .classType, " A \x7b".toList⟩
    let first : Line := ⟨2, "class A \x7b".toList⟩
    let body : List Text := ["/// x".toList, "int x;".toList, "\x7d".toList]
    let other : List Text := ["void g() \x7b \x7d".toList, "\x7d".toList]
    let behind : List Text := ["/// ditto".toList, "void f();".toList]
    let register : CommentRegister := ⟨["A class.".toList], []⟩
    let scanned := stepContainer header register first (numberedLines 3 (body ++ behind))
    let rescanned := stepContainer header register first (numberedLines 3 (other ++ behind))
    scanAggregate .classType "A".toList [] ⟨3, "class A \x7b".toList⟩
        (numberedLines 4 (body ++ ["import c;".toList])) =
      ((scanAggregate .classType "A".toList [] ⟨1, "class A \x7b".toList⟩
          (numberedLines 2 (body ++ behind))).1.map
          (AggregateDoc.renumber fun number => number + (((2 : Nat) : Int) - (0 : Nat))),
        numberedLines 7 ["import c;".toList]) ∧
      DiffersInMembers
        (extractLines anonymousFile (numberedLines 1
          ("/// A class.".toList :: "class A \x7b".toList :: (body ++ behind))))
        (extractLines anonymousFile (numberedLines 1
          ("/// A class.".toList :: "class A \x7b".toList :: (other ++ behind))))
        [] scanned.entries rescanned.entries
        (moduleEntries scanned.register (numberedLines 6 behind))
        (fun number => number + ((2 : Int) - 3)) := by
  intro header first body other behind register scanned rescanned
  constructor
  · apply container_isolated.1 .classType "A".toList [] ("class A \x7b".toList :: (body ++ behind))
      ("import a;".toList :: "import b;".toList :: "class A \x7b".toList ::
        (body ++ ["import c;".toList])) 0 2 4
    · rfl
    · rfl
    · decide +kernel
    · decide
    · have agree : ∀ index < 4,
          ("import a;".toList :: "import b;".toList :: "class A \x7b".toList ::
              (body ++ ["import c;".toList]))[2 + index]? =
            ("class A \x7b".toList :: (body ++ behind))[0 + index]? := by
        decide +kernel
      intro index low
      exact agree index (by omega)
  · apply container_isolated.2.2 anonymousFile ["/// A class.".toList] "class A \x7b".toList body other
      behind [] register header
    · constructor
      · exact .comment (by decide +kernel) (.start _ _)
      · decide +kernel
      · decide +kernel
    · decide +kernel
    · decide +kernel

end DocSite
