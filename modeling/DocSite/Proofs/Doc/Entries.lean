/-
Documentation read off entries.

Each list of a module's documentation takes the entries of one kind, and its name and comment come from the
last declaration of the module. The kinds have names here, so that facts on lists of entries turn into facts
on documentation.
-/
import DocSite.Doc.Extraction

namespace DocSite

namespace ModuleEntry

def declared? : ModuleEntry → Option (Text × List Text)
  | .moduleName name comments => some (name, comments)
  | _ => none

def import? : ModuleEntry → Option Text
  | .importLine declaration => some declaration
  | _ => none

def function? : ModuleEntry → Option FunctionDoc
  | .function declared => some declared
  | _ => none

def aggregate? : ModuleEntry → Option AggregateDoc
  | .aggregate declared => some declared
  | _ => none

def enum? : ModuleEntry → Option EnumDoc
  | .enum declared => some declared
  | _ => none

end ModuleEntry

theorem declaredModule?_eq (entries : List ModuleEntry) :
    declaredModule? entries = (entries.filterMap ModuleEntry.declared?).getLast? := rfl

theorem ofEntries_eq (file : FilePath) (entries : List ModuleEntry) :
    ModuleDoc.ofEntries file entries =
      { name := ((declaredModule? entries).getD (file.stem, [])).1
        file := file
        comments := ((declaredModule? entries).getD (file.stem, [])).2
        imports := entries.filterMap ModuleEntry.import?
        functions := entries.filterMap ModuleEntry.function?
        aggregates := entries.filterMap ModuleEntry.aggregate?
        enums := entries.filterMap ModuleEntry.enum? } := rfl

/-! ### Entries behind the documentation -/

section Members

variable {file : FilePath} {entries : List ModuleEntry}

theorem mem_of_read {Declared : Type} {read? : ModuleEntry → Option Declared}
    {entry : Declared → ModuleEntry}
    (reads : ∀ recorded declared, read? recorded = some declared → recorded = entry declared)
    {declared : Declared} (member : declared ∈ entries.filterMap read?) : entry declared ∈ entries := by
  obtain ⟨recorded, listed, found⟩ := List.mem_filterMap.mp member
  rw [← reads recorded declared found]
  exact listed

theorem mem_of_mem_imports {declaration : Text}
    (member : declaration ∈ (ModuleDoc.ofEntries file entries).imports) :
    .importLine declaration ∈ entries := by
  have listed : declaration ∈ entries.filterMap ModuleEntry.import? := member
  refine mem_of_read ?_ listed
  rintro (_ | _) declared found <;> cases found
  rfl

theorem mem_of_mem_functions {declared : FunctionDoc}
    (member : declared ∈ (ModuleDoc.ofEntries file entries).functions) :
    .function declared ∈ entries := by
  have listed : declared ∈ entries.filterMap ModuleEntry.function? := member
  refine mem_of_read ?_ listed
  rintro (_ | _) declared found <;> cases found
  rfl

theorem mem_of_mem_aggregates {declared : AggregateDoc}
    (member : declared ∈ (ModuleDoc.ofEntries file entries).aggregates) :
    .aggregate declared ∈ entries := by
  have listed : declared ∈ entries.filterMap ModuleEntry.aggregate? := member
  refine mem_of_read ?_ listed
  rintro (_ | _) declared found <;> cases found
  rfl

theorem mem_of_mem_enums {declared : EnumDoc}
    (member : declared ∈ (ModuleDoc.ofEntries file entries).enums) : .enum declared ∈ entries := by
  have listed : declared ∈ entries.filterMap ModuleEntry.enum? := member
  refine mem_of_read ?_ listed
  rintro (_ | _) declared found <;> cases found
  rfl

/-- A module has the name and the comment of one of its declarations, or the name of its file and no
comment. -/
theorem declared_of_ofEntries (file : FilePath) (entries : List ModuleEntry) :
    ((ModuleDoc.ofEntries file entries).name = file.stem ∧
        (ModuleDoc.ofEntries file entries).comments = []) ∨
      .moduleName (ModuleDoc.ofEntries file entries).name
        (ModuleDoc.ofEntries file entries).comments ∈ entries := by
  rw [ofEntries_eq]
  cases found : declaredModule? entries with
  | none => exact .inl ⟨rfl, rfl⟩
  | some declared =>
      rw [declaredModule?_eq] at found
      obtain ⟨recorded, listed, read⟩ := List.mem_filterMap.mp (List.mem_of_getLast? found)
      cases recorded with
      | moduleName name comments =>
          cases read
          exact .inr listed
      | _ => cases read

end Members

/-- The last of two lists of declarations tells the module if it has any. -/
theorem declaredModule?_append (first second : List ModuleEntry) :
    declaredModule? (first ++ second) = (declaredModule? second).or (declaredModule? first) := by
  simp only [declaredModule?_eq, List.filterMap_append, List.getLast?_append]

end DocSite
