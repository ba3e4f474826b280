/-
Indexes that are saved and loaded.

The index of a list of modules is written to a file, and the modules are read back from the file, unless one of
their line numbers has more digits than are written. The search script holds the search index, which has no
numbers at all.
-/
import DocSite.Index.Files
import DocSite.Proofs.Files.Operations
import DocSite.Proofs.Index.Records

namespace DocSite

open Json (Exact overlong? overlongIn?)

/-! ### Saved indexes -/

def overlongLine? (modules : List ModuleDoc) : Option Nat :=
  (modules.flatMap ModuleDoc.writtenLines).findSome? overlong?

theorem overlongLine?_eq_none_iff (modules : List ModuleDoc) : overlongLine? modules = none ↔
    ∀ module ∈ modules, ∀ line ∈ module.writtenLines, line.natAbs < 10 ^ Text.digitLimit := by
  unfold overlongLine?
  simp only [List.findSome?_eq_none_iff, Json.overlong?_eq_none_iff, List.mem_flatMap,
    forall_exists_index, and_imp]
  exact ⟨fun short module member line inside => short line module member inside,
    fun short line module member inside => short module member line inside⟩

section Saved

variable (createdAt : Text) (modules : List ModuleDoc)

theorem exact_indexRecord :
    Exact Json.nestingLimit (indexRecord createdAt (modules.map ModuleDoc.toRecord)) := by
  refine exact_object rfl ?_
  simp only [List.forall_mem_cons]
  exact ⟨.string _, .string _, exact_map (ModuleDoc.exact_toRecord 980) _, fun _ member => nomatch member⟩

theorem overlongIn?_indexRecord :
    overlongIn? (indexRecord createdAt (modules.map ModuleDoc.toRecord)) = overlongLine? modules := by
  unfold indexRecord overlongLine?
  simp only [overlongIn?_fields, List.foldr_cons, List.foldr_nil, overlongIn?_string,
    overlongIn?_flatMap ModuleDoc.overlongIn?_toRecord, Option.none_or, Option.or_none]

/-- The text of an index is complete unless a line number is too long, and then the index is read from it. -/
theorem indexText_complete_iff :
    (indexText createdAt (modules.map ModuleDoc.toRecord)).complete = true ↔ overlongLine? modules = none := by
  rw [← overlongIn?_indexRecord createdAt modules]
  exact (Json.parse_indented (exact_indexRecord createdAt modules) 0).1

theorem parse_indexText (complete : (indexText createdAt (modules.map ModuleDoc.toRecord)).complete = true) :
    Json.parse (indexText createdAt (modules.map ModuleDoc.toRecord)).text =
      .ok (indexRecord createdAt (modules.map ModuleDoc.toRecord)) :=
  (Json.parse_indented (exact_indexRecord createdAt modules) 0).2 complete

variable {modules} (normal : ∀ module ∈ modules, module.file.Normal)
include normal

theorem indexEntries_indexRecord : indexEntries (indexRecord createdAt (modules.map ModuleDoc.toRecord)) =
    .ok (modules.map ModuleDoc.toRecord) := by
  have mapped : (modules.map ModuleDoc.toRecord).mapM normalizeModule =
      .ok (modules.map ModuleDoc.toRecord) := by
    refine mapM_eq_ok fun record member => ?_
    obtain ⟨module, inside, rfl⟩ := List.mem_map.mp member
    exact normalizeModule_toRecord (normal module inside)
  change ((modules.map ModuleDoc.toRecord).mapM normalizeModule).mapError IndexError.malformedEntry = _
  rw [mapped]
  rfl

theorem mapM_ofRecord? : (modules.map ModuleDoc.toRecord).mapM ModuleDoc.ofRecord? = some modules :=
  mapM_map_eq_some fun module member => ModuleDoc.ofRecord?_toRecord (normal module member)

/-- An index that has been saved is loaded again, and it is saved unless a line number is too long. -/
theorem loadIndex_saveIndex {workspace : Workspace} {path : FilePath} (accepts : workspace.Accepts path)
    (short : overlongLine? modules = none) :
    ∃ saved, (saveIndex createdAt modules path).run.run workspace = (.ok (), saved) ∧
      loadIndex saved path = .ok (modules.map ModuleDoc.toRecord) := by
  have complete := (indexText_complete_iff createdAt modules).mpr short
  have parsed := parse_indexText createdAt modules complete
  unfold saveIndex saveRecords
  dsimp only
  generalize indexText createdAt (modules.map ModuleDoc.toRecord) = written at complete parsed
  obtain ⟨saved, succeeds, back⟩ := writeText_read accepts written.text
  refine ⟨saved, ?_, ?_⟩
  · rw [complete, run_bind, succeeds]
    rfl
  · unfold loadIndex
    rw [back]
    dsimp only
    rw [decodeUtf8?_encodeUtf8]
    dsimp only
    rw [parsed]
    change (indexEntries (indexRecord createdAt (modules.map ModuleDoc.toRecord))).mapError LoadError.index = _
    rw [indexEntries_indexRecord createdAt normal]
    rfl

end Saved

/-! ### Search scripts -/

theorem parse_searchIndex (modules : List ModuleDoc) :
    Json.parse (searchIndex modules).compact = .ok (searchIndex modules) := by
  rw [Json.parse_compact (exact_searchIndex modules), overlongIn?_searchIndex]
  rfl

/-- A search script that has been written is read from its file. -/
theorem writeSearchScript_read {workspace : Workspace} {directory : FilePath}
    (accepts : workspace.Accepts (directory.child searchScriptName)) (modules : List ModuleDoc) :
    ∃ written, (writeSearchScript modules directory).run.run workspace =
        (.ok (directory.child searchScriptName), written) ∧
      written.read (directory.child searchScriptName) = .ok (encodeUtf8 (searchScript modules)) := by
  obtain ⟨written, succeeds, back⟩ := writeText_read accepts (searchScript modules)
  refine ⟨written, ?_, back⟩
  rw [writeSearchScript_eq, run_bind, succeeds]
  rfl

/-! ### Both files -/

/-- Modules that are saved are loaded again, every one of them, if their line numbers are not too long. The
search script is the definition of a constant, and its value is the search index. -/
theorem saved_modules_loaded {workspace : Workspace} {path directory : FilePath}
    (accepts : workspace.Accepts path) (acceptsScript : workspace.Accepts (directory.child searchScriptName))
    (createdAt : Text) {modules : List ModuleDoc} (normal : ∀ module ∈ modules, module.file.Normal)
    (short : ∀ module ∈ modules, ∀ line ∈ module.writtenLines, line.natAbs < 10 ^ Text.digitLimit) :
    (∃ saved, (saveIndex createdAt modules path).run.run workspace = (.ok (), saved) ∧
      loadIndex saved path = .ok (modules.map ModuleDoc.toRecord) ∧
      (modules.map ModuleDoc.toRecord).mapM ModuleDoc.ofRecord? = some modules) ∧
    ∃ written content payload,
      (writeSearchScript modules directory).run.run workspace =
          (.ok (directory.child searchScriptName), written) ∧
        written.read (directory.child searchScriptName) = .ok content ∧
        decodeUtf8? content = some ("const searchIndex = ".toList ++ payload ++ [';']) ∧
        Json.parse payload = .ok (searchIndex modules) := by
  obtain ⟨saved, succeeds, loads⟩ :=
    loadIndex_saveIndex createdAt normal accepts ((overlongLine?_eq_none_iff modules).mpr short)
  obtain ⟨written, writes, back⟩ := writeSearchScript_read acceptsScript modules
  exact ⟨⟨saved, succeeds, loads, mapM_ofRecord? normal⟩, written, _, (searchIndex modules).compact, writes,
    back, decodeUtf8?_encodeUtf8 (searchScript modules), parse_searchIndex modules⟩

def emptyWorkspace : Workspace := ⟨.directory [], []⟩

theorem accepts_emptyWorkspace (name : Text) (short : (encodeUtf8 name).length ≤ nameLimit)
    (noNull : name.contains '\x00' = false) (noParent : name ≠ ['.', '.']) :
    emptyWorkspace.Accepts ⟨.here, [name]⟩ := by
  refine ⟨⟨{}, [], rfl⟩, [name], Workspace.resolve_eq_ok.mpr ⟨?_, ?_, ?_⟩, ?_⟩
  · unfold FilePath.hasNull
    rw [List.any_cons, noNull]
    rfl
  · exact Nat.le_trans short (by decide)
  · refine Workspace.follow_cons_eq_ok.mpr ⟨⟨{}, ⟨[], rfl⟩, rfl⟩, short, ?_⟩
    rw [if_neg noParent]
    rfl
  · rintro ⟨rights, entries, found⟩
    cases found

def variedModule : ModuleDoc where
  name := "app.widget".toList
  file := ⟨.root, ["src".toList, "widget.d".toList]⟩
  comments := ["\"Widgets\"\n\u0001".toList, [Char.ofNat 0x1f600, Char.ofNat 0xe9]]
  imports := ["std.stdio".toList]
  functions := [{ name := "run".toList, returnType := "void".toList, line := -3, isPrivate := true }]
  aggregates :=
    [{ name := "Widget".toList, kind := .structType, line := 4
       methods := [{ name := "draw".toList, parameters := ["int x".toList], line := 5 }]
       fields := [{ declaration := "int[] data;".toList, line := 6 }] }]
  enums := [{ name := "Mode".toList, members := [{ name := "on".toList, value := "1".toList, line := 9 }] }]

theorem saved_modules_loaded_varied :
    emptyWorkspace.Accepts ⟨.here, ["modules.json".toList]⟩ ∧
    emptyWorkspace.Accepts (FilePath.here.child searchScriptName) ∧
    (∀ module ∈ [variedModule], module.file.Normal) ∧
    (∀ module ∈ [variedModule], ∀ line ∈ module.writtenLines, line.natAbs < 10 ^ Text.digitLimit) ∧
    (∃ saved, (saveIndex [] [variedModule] ⟨.here, ["modules.json".toList]⟩).run.run emptyWorkspace =
        (.ok (), saved) ∧
      loadIndex saved ⟨.here, ["modules.json".toList]⟩ = .ok ([variedModule].map ModuleDoc.toRecord) ∧
      ([variedModule].map ModuleDoc.toRecord).mapM ModuleDoc.ofRecord? = some [variedModule]) ∧
    ∃ written content payload,
      (writeSearchScript [variedModule] .here).run.run emptyWorkspace =
          (.ok (FilePath.here.child searchScriptName), written) ∧
        written.read (FilePath.here.child searchScriptName) = .ok content ∧
        decodeUtf8? content = some ("const searchIndex = ".toList ++ payload ++ [';']) ∧
        Json.parse payload = .ok (searchIndex [variedModule]) := by
  have accepts := accepts_emptyWorkspace "modules.json".toList (by decide) (by decide) (by decide)
  have acceptsScript : emptyWorkspace.Accepts (FilePath.here.child searchScriptName) :=
    accepts_emptyWorkspace searchScriptName (by decide) (by decide) (by decide)
  have normal : ∀ module ∈ [variedModule], module.file.Normal := by
    intro module member
    rw [List.mem_singleton.mp member]
    exact ⟨by decide, by decide⟩
  have short : ∀ module ∈ [variedModule], ∀ line ∈ module.writtenLines,
      line.natAbs < 10 ^ Text.digitLimit := by
    intro module member line inside
    rw [List.mem_singleton.mp member] at inside
    have small : ∀ line ∈ variedModule.writtenLines, line.natAbs < 10 ^ 1 := by decide
    exact Nat.lt_of_lt_of_le (small line inside) (Nat.pow_le_pow_right (by decide) (by decide))
  exact ⟨accepts, acceptsScript, normal, short,
    saved_modules_loaded accepts acceptsScript [] normal short⟩

def longLineModule : ModuleDoc where
  name := "m".toList
  file := ⟨.here, ["m.d".toList]⟩
  functions := [{ name := "f".toList, line := Int.ofNat (10 ^ Text.digitLimit) }]

/-- A line number with too many digits cannot be written, and what has been written by then is no index. -/
theorem longLine_not_saved : longLineModule.file.Normal ∧
    ∃ saved, (saveIndex [] [longLineModule] ⟨.here, ["modules.json".toList]⟩).run.run emptyWorkspace =
        (.error .tooManyDigits, saved) ∧
      ∀ records, loadIndex saved ⟨.here, ["modules.json".toList]⟩ ≠ .ok records := by
  let front : Text := (indexText [] [longLineModule.toRecord]).text
  have broken : (indexText [] [longLineModule.toRecord]).complete = false := by decide +kernel
  have unread : (Json.parse front).isOk = false := by decide +kernel
  obtain ⟨saved, succeeds, back⟩ := writeText_read
    (accepts_emptyWorkspace "modules.json".toList (by decide) (by decide) (by decide)) front
  refine ⟨⟨by decide, by decide⟩, saved, ?_, ?_⟩
  · unfold saveIndex saveRecords
    dsimp only
    rw [List.map_singleton, broken, run_bind, succeeds]
    rfl
  · intro records
    unfold loadIndex
    rw [back]
    dsimp only
    rw [decodeUtf8?_encodeUtf8]
    dsimp only
    cases parsed : Json.parse front with
    | error error => exact nofun
    | ok document =>
        rw [parsed] at unread
        cases unread

end DocSite
