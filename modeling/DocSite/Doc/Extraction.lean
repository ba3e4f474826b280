/-
From source text to documentation.

The lines of a source are walked at module scope. A comment is collected, and every other line is a
filler, names the module, imports, opens a container or a block without documented members, declares a
function, or is a statement of no interest. What each line records is an entry; the documentation
of the module is read off the list of entries. Nothing can fail: unusual source gives fewer entries.
-/
import DocSite.Container.Aggregate
import DocSite.Container.Enumeration

namespace DocSite

inductive ModuleEntry where
  | moduleName (name : Text) (comments : List Text)
  | importLine (declaration : Text)
  | function (function : FunctionDoc)
  | aggregate (aggregate : AggregateDoc)
  | enum (enum : EnumDoc)
  deriving DecidableEq, Repr

/-! ### Kinds of lines -/

def moduleName? (code : Text) : Option Text :=
  match Text.afterPrefix? "module".toList code with
  | none => none
  | some rest =>
      let name := (Text.trimLeft rest).takeWhile fun character =>
        isWordChar character || character == '.'
      if (rest.head?.map isBlank).getD false && !name.isEmpty then some name else none

def importModifiers : List Text :=
  ["public", "private", "package", "static"].map String.toList

def afterImportModifier? (code : Text) : Option Text :=
  importModifiers.findSome? fun modifier =>
    match Text.afterPrefix? modifier code with
    | some rest => if (rest.head?.map isBlank).getD false then some (Text.trimLeft rest) else none
    | none => none

theorem afterImportModifier?_length_lt {code rest : Text}
    (found : afterImportModifier? code = some rest) : rest.length < code.length := by
  obtain ⟨modifier, _, inner⟩ := List.exists_of_findSome?_eq_some found
  split at inner
  · rename_i behind matched
    have lengths := Text.length_of_afterPrefix? matched
    split at inner
    · rename_i blankFirst
      cases inner
      cases behind with
      | nil => simp at blankFirst
      | cons character tail =>
          have isBlankCharacter : isBlank character = true := by simpa using blankFirst
          have dropped : (tail.dropWhile isBlank).length ≤ tail.length :=
            (List.dropWhile_sublist isBlank).length_le
          simp only [Text.trimLeft, Text.trimLeftBy, List.dropWhile_cons, isBlankCharacter,
            if_true]
          simp only [List.length_cons] at lengths
          omega
    · cases inner
  · cases inner

def isImport (code : Text) : Bool :=
  match _ : afterImportModifier? code with
  | some rest => isImport rest
  | none =>
      match Text.afterPrefix? "import".toList code with
      | some rest => (rest.head?.map isBlank).getD false
      | none => false
termination_by code.length
decreasing_by exact afterImportModifier?_length_lt (by assumption)

/-- Whether code opens a block whose contents are not documented. -/
def opensSkippedBlock (code : Text) : Bool :=
  ["unittest".toList, "invariant".toList].any fun keyword =>
    match Text.afterPrefix? keyword code with
    | some rest => !(rest.head?.map isWordChar).getD false
    | none => false

/-! ### One line -/

structure ModuleStep where
  entries : List ModuleEntry
  register : CommentRegister
  remaining : List Line

/-- Scans the container whose header is the first line. A named container takes the waiting comment,
an anonymous one drops it. -/
def stepContainer (header : ContainerHeader) (register : CommentRegister) (first : Line)
    (rest : List Line) : ModuleStep :=
  let entry : Option ModuleEntry × List Line :=
    match header.kind with
    | .enum =>
        let (enum, remaining) := scanEnum header.name register.pending first rest
        (enum.map ModuleEntry.enum, remaining)
    | .aggregate kind =>
        let (aggregate, remaining) := scanAggregate kind header.name register.pending first rest
        (aggregate.map ModuleEntry.aggregate, remaining)
  let register := if entry.1.isSome then register.attach.2 else register.discard
  ⟨entry.1.toList, register, entry.2⟩

def stepCode (register : CommentRegister) (first : Line) (rest : List Line) : ModuleStep :=
  let (code, trailing) := splitLineComment first.text
  if isFiller code then ⟨[], register, rest⟩
  else
    match moduleName? code with
    | some name =>
        let (comments, register) := register.attachWith trailing
        ⟨[.moduleName name comments], register, rest⟩
    | none =>
        if isImport code then ⟨[.importLine code], register.discard, rest⟩
        else
          match matchHeader? code with
          | some header => stepContainer header register first rest
          | none =>
              if opensSkippedBlock code then ⟨[], register.discard, skipBody first rest⟩
              else if isFunction code then
                let (comments, register) := register.attachWith trailing
                let function := parseFunction? code comments first.number
                ⟨(function.map ModuleEntry.function).toList, register, skipBody first rest⟩
              else ⟨[], register.discard, rest⟩

/-! ### Progress -/

theorem skipOpenBody_length_le (balance : Int) (opened : Bool) (lines : List Line) :
    (skipOpenBody balance opened lines).length ≤ lines.length := by
  induction lines generalizing balance opened with
  | nil => simp [skipOpenBody]
  | cons line rest ih =>
      unfold skipOpenBody
      dsimp only
      simp only [List.length_cons]
      split
      · exact Nat.le_succ _
      · split
        · exact Nat.le_succ _
        · exact Nat.le_succ_of_le (ih _ _)

theorem skipBody_length_le (first : Line) (rest : List Line) :
    (skipBody first rest).length ≤ rest.length := by
  unfold skipBody
  dsimp only
  split
  · exact Nat.le_refl _
  · split
    · exact Nat.le_refl _
    · exact skipOpenBody_length_le _ _ _

theorem stepContainer_length_le (header : ContainerHeader) (register : CommentRegister)
    (first : Line) (rest : List Line) :
    (stepContainer header register first rest).remaining.length ≤ rest.length := by
  unfold stepContainer
  dsimp only
  split
  · exact scanEnum_length_le _ _ _ _
  · exact scanAggregate_length_le _ _ _ _ _

/-- Every step consumes its line. -/
theorem stepCode_length_le (register : CommentRegister) (first : Line) (rest : List Line) :
    (stepCode register first rest).remaining.length ≤ rest.length := by
  unfold stepCode
  dsimp only
  split
  · exact Nat.le_refl _
  · split
    · exact Nat.le_refl _
    · split
      · exact Nat.le_refl _
      · split
        · exact stepContainer_length_le _ _ _ _
        · split
          · exact skipBody_length_le _ _
          · split
            · exact skipBody_length_le _ _
            · exact Nat.le_refl _

/-! ### The whole source -/

def moduleEntries (register : CommentRegister) : List Line → List ModuleEntry
  | [] => []
  | line :: rest =>
      match _ : register.consume? line rest with
      | some (register, remaining) => moduleEntries register remaining
      | none =>
          let step := stepCode register line rest
          step.entries ++ moduleEntries step.register step.remaining
termination_by lines => lines.length
decreasing_by
  · have shorter := CommentRegister.consume?_length_le (by assumption)
    simp only [List.length_cons]
    omega
  · have shorter := stepCode_length_le register line rest
    simp only [List.length_cons]
    omega

def declaredModule? (entries : List ModuleEntry) : Option (Text × List Text) :=
  (entries.filterMap fun entry =>
    match entry with
    | .moduleName name comments => some (name, comments)
    | _ => none).getLast?

/-- The documentation that entries amount to. A module without a declaration is named after its
file. -/
def ModuleDoc.ofEntries (file : FilePath) (entries : List ModuleEntry) : ModuleDoc :=
  let declared := (declaredModule? entries).getD (file.stem, [])
  { name := declared.1
    file := file
    comments := declared.2
    imports := entries.filterMap fun entry =>
      match entry with
      | .importLine declaration => some declaration
      | _ => none
    functions := entries.filterMap fun entry =>
      match entry with
      | .function function => some function
      | _ => none
    aggregates := entries.filterMap fun entry =>
      match entry with
      | .aggregate aggregate => some aggregate
      | _ => none
    enums := entries.filterMap fun entry =>
      match entry with
      | .enum enum => some enum
      | _ => none }

def extractLines (file : FilePath) (lines : List Line) : ModuleDoc :=
  .ofEntries file (moduleEntries .empty lines)

def extractModule (file : FilePath) (source : Text) : ModuleDoc :=
  extractLines file (sourceLines source)

/-- The path that stands for a source which comes from no file. -/
def anonymousFile : FilePath := .ofText "<string>".toList

end DocSite
