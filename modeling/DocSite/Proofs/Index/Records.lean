/-
Records of documentation.

The record of a module is its own normal form, and the module is read back from it. A record is a value that
is read as it is written, and its numbers are the line numbers of the module.
-/
import DocSite.Doc.Caption
import DocSite.Index.Files
import DocSite.Proofs.Files.Paths
import DocSite.Proofs.Json.RoundTrip

namespace DocSite

open Json (Exact overlong? overlongIn? overlongIn?_int overlongIn?_array overlongIn?_object)

/-! ### Normal forms -/

/-- Items that are their own normal forms. -/
theorem mapM_eq_ok {item : Json → Except RecordError Json} {items : List Json}
    (each : ∀ value ∈ items, item value = .ok value) : items.mapM item = .ok items := by
  induction items with
  | nil => rfl
  | cons value items ih =>
      rw [List.mapM_cons, each value List.mem_cons_self,
        ih fun other member => each other (List.mem_cons_of_mem _ member)]
      rfl

theorem listField_eq_ok {data : Json} {key : Text} {items : List Json} {item : Json → Except RecordError Json}
    (found : optionalField data key (.array []) = .array items)
    (each : ∀ value ∈ items, item value = .ok value) :
    listField data key item = .ok (.array items) := by
  unfold listField
  rw [found]
  change (do let mapped ← items.mapM item; pure (Json.array mapped)) = _
  rw [mapM_eq_ok each]
  rfl

theorem listField_map_eq_ok {α : Type} {data : Json} {key : Text} {items : List α} {toRecord : α → Json}
    {item : Json → Except RecordError Json}
    (found : optionalField data key (.array []) = .array (items.map toRecord))
    (each : ∀ value, item (toRecord value) = .ok (toRecord value)) :
    listField data key item = .ok (.array (items.map toRecord)) :=
  listField_eq_ok found fun _ member => by
    obtain ⟨value, -, rfl⟩ := List.mem_map.mp member
    exact each value

theorem normalizeFunction_toRecord (function : FunctionDoc) :
    normalizeFunction function.toRecord = .ok function.toRecord := by
  have parameters : listField function.toRecord "parameters".toList .ok =
    .ok (textsRecord function.parameters) := listField_eq_ok rfl fun _ _ => rfl
  have comments : listField function.toRecord "comments".toList .ok =
    .ok (textsRecord function.comments) := listField_eq_ok rfl fun _ _ => rfl
  unfold normalizeFunction
  rw [parameters, comments]
  rfl

theorem normalizeField_toRecord (field : FieldDoc) :
    normalizeField field.toRecord = .ok field.toRecord := by
  have comments : listField field.toRecord "comments".toList .ok =
    .ok (textsRecord field.comments) := listField_eq_ok rfl fun _ _ => rfl
  unfold normalizeField
  rw [comments]
  rfl

theorem checkKind_keyword (kind : AggregateKind) :
    checkKind (.string kind.keyword) = .ok (.string kind.keyword) := by
  cases kind <;> rfl

theorem normalizeAggregate_toRecord (aggregate : AggregateDoc) :
    normalizeAggregate aggregate.toRecord = .ok aggregate.toRecord := by
  have kind := checkKind_keyword aggregate.kind
  have comments : listField aggregate.toRecord "comments".toList .ok =
    .ok (textsRecord aggregate.comments) := listField_eq_ok rfl fun _ _ => rfl
  have methods : listField aggregate.toRecord "methods".toList normalizeFunction =
    .ok (.array (aggregate.methods.map FunctionDoc.toRecord)) :=
      listField_map_eq_ok rfl normalizeFunction_toRecord
  have fields : listField aggregate.toRecord "fields".toList normalizeField =
    .ok (.array (aggregate.fields.map FieldDoc.toRecord)) :=
      listField_map_eq_ok rfl normalizeField_toRecord
  have named : requiredField aggregate.toRecord "name".toList = .ok (.string aggregate.name) := rfl
  have typed : requiredField aggregate.toRecord "type".toList = .ok (.string aggregate.kind.keyword) := rfl
  unfold normalizeAggregate
  rw [named, typed, comments, methods, fields]
  simp only [bind, Except.bind, checkKind_keyword]
  rfl

theorem normalizeEnumMember_toRecord (member : EnumMemberDoc) :
    normalizeEnumMember member.toRecord = .ok member.toRecord := by
  have comments : listField member.toRecord "comments".toList .ok =
    .ok (textsRecord member.comments) := listField_eq_ok rfl fun _ _ => rfl
  unfold normalizeEnumMember
  rw [comments]
  rfl

theorem normalizeEnum_toRecord (enum : EnumDoc) : normalizeEnum enum.toRecord = .ok enum.toRecord := by
  have comments : listField enum.toRecord "comments".toList .ok =
    .ok (textsRecord enum.comments) := listField_eq_ok rfl fun _ _ => rfl
  have members : listField enum.toRecord "members".toList normalizeEnumMember =
    .ok (.array (enum.members.map EnumMemberDoc.toRecord)) :=
      listField_map_eq_ok rfl normalizeEnumMember_toRecord
  unfold normalizeEnum
  rw [comments, members]
  rfl

/-- The record of a module is its own normal form. -/
theorem normalizeModule_toRecord {module : ModuleDoc} (normal : module.file.Normal) :
    normalizeModule module.toRecord = .ok module.toRecord := by
  have named : requiredField module.toRecord "name".toList = .ok (.string module.name) := rfl
  have placed : requiredField module.toRecord "filepath".toList = .ok (.string module.file.text) := rfl
  have file : normalizePath (.string module.file.text) = .ok (.string module.file.text) := by
    change Except.ok (Json.string (FilePath.ofText module.file.text).text) = _
    rw [normal.ofText_text]
  have comments : listField module.toRecord "comments".toList .ok =
    .ok (textsRecord module.comments) := listField_eq_ok rfl fun _ _ => rfl
  have imports : listField module.toRecord "imports".toList .ok =
    .ok (textsRecord module.imports) := listField_eq_ok rfl fun _ _ => rfl
  have functions : listField module.toRecord "functions".toList normalizeFunction =
    .ok (.array (module.functions.map FunctionDoc.toRecord)) :=
      listField_map_eq_ok rfl normalizeFunction_toRecord
  have aggregates : listField module.toRecord "classes".toList normalizeAggregate =
    .ok (.array (module.aggregates.map AggregateDoc.toRecord)) :=
      listField_map_eq_ok rfl normalizeAggregate_toRecord
  have enums : listField module.toRecord "enums".toList normalizeEnum =
    .ok (.array (module.enums.map EnumDoc.toRecord)) := listField_map_eq_ok rfl normalizeEnum_toRecord
  unfold normalizeModule
  rw [named, placed, comments, imports, functions, aggregates, enums]
  simp only [bind, Except.bind, file]
  rfl

/-! ### Reading -/

theorem list?_map {α : Type} {item? : Json → Option α} {toRecord : α → Json}
    (each : ∀ value, item? (toRecord value) = some value) (items : List α) :
    list? item? (.array (items.map toRecord)) = some items :=
  mapM_map_eq_some fun value _ => each value

theorem list?_textsRecord (texts : List Text) : list? text? (textsRecord texts) = some texts := by
  unfold list? textsRecord
  dsimp only
  induction texts with
  | nil => rfl
  | cons text rest ih =>
      simp only [List.map_cons, List.mapM_cons, ih, text?]
      rfl

theorem FunctionDoc.ofRecord?_toRecord (function : FunctionDoc) :
    ofRecord? function.toRecord = some function := by
  have parameters : readField? function.toRecord "parameters".toList (list? text?) =
    some function.parameters := list?_textsRecord function.parameters
  have comments : readField? function.toRecord "comments".toList (list? text?) =
    some function.comments := list?_textsRecord function.comments
  unfold ofRecord?
  rw [parameters, comments]
  rfl

theorem FieldDoc.ofRecord?_toRecord (field : FieldDoc) : ofRecord? field.toRecord = some field := by
  have comments : readField? field.toRecord "comments".toList (list? text?) =
    some field.comments := list?_textsRecord field.comments
  unfold ofRecord?
  rw [comments]
  rfl

theorem AggregateDoc.ofRecord?_toRecord (aggregate : AggregateDoc) :
    ofRecord? aggregate.toRecord = some aggregate := by
  have kind : (readField? aggregate.toRecord "type".toList fun value =>
      (text? value).bind AggregateKind.ofKeyword?) = some aggregate.kind := by
    change AggregateKind.ofKeyword? aggregate.kind.keyword = _
    cases aggregate.kind <;> rfl
  have comments : readField? aggregate.toRecord "comments".toList (list? text?) =
    some aggregate.comments := list?_textsRecord aggregate.comments
  have methods : readField? aggregate.toRecord "methods".toList (list? FunctionDoc.ofRecord?) =
    some aggregate.methods := list?_map FunctionDoc.ofRecord?_toRecord aggregate.methods
  have fields : readField? aggregate.toRecord "fields".toList (list? FieldDoc.ofRecord?) =
    some aggregate.fields := list?_map FieldDoc.ofRecord?_toRecord aggregate.fields
  unfold ofRecord?
  rw [kind, comments, methods, fields]
  rfl

theorem EnumMemberDoc.ofRecord?_toRecord (member : EnumMemberDoc) :
    ofRecord? member.toRecord = some member := by
  have comments : readField? member.toRecord "comments".toList (list? text?) =
    some member.comments := list?_textsRecord member.comments
  unfold ofRecord?
  rw [comments]
  rfl

theorem EnumDoc.ofRecord?_toRecord (enum : EnumDoc) : ofRecord? enum.toRecord = some enum := by
  have comments : readField? enum.toRecord "comments".toList (list? text?) =
    some enum.comments := list?_textsRecord enum.comments
  have members : readField? enum.toRecord "members".toList (list? EnumMemberDoc.ofRecord?) =
    some enum.members := list?_map EnumMemberDoc.ofRecord?_toRecord enum.members
  unfold ofRecord?
  rw [comments, members]
  rfl

/-- A module is read back from its record. -/
theorem ModuleDoc.ofRecord?_toRecord {module : ModuleDoc} (normal : module.file.Normal) :
    ofRecord? module.toRecord = some module := by
  have file : readField? module.toRecord "filepath".toList text? = some module.file.text := rfl
  have comments : readField? module.toRecord "comments".toList (list? text?) =
    some module.comments := list?_textsRecord module.comments
  have imports : readField? module.toRecord "imports".toList (list? text?) =
    some module.imports := list?_textsRecord module.imports
  have functions : readField? module.toRecord "functions".toList (list? FunctionDoc.ofRecord?) =
    some module.functions := list?_map FunctionDoc.ofRecord?_toRecord module.functions
  have aggregates : readField? module.toRecord "classes".toList (list? AggregateDoc.ofRecord?) =
    some module.aggregates := list?_map AggregateDoc.ofRecord?_toRecord module.aggregates
  have enums : readField? module.toRecord "enums".toList (list? EnumDoc.ofRecord?) =
    some module.enums := list?_map EnumDoc.ofRecord?_toRecord module.enums
  unfold ofRecord?
  rw [file, comments, imports, functions, aggregates, enums]
  simp only [bind, Option.bind_some, normal.ofText_text]
  rfl

/-! ### Records as values -/

def isName : JsonKey → Bool
  | .text _ => true
  | .unpaired _ => false

def areNames (keys : List JsonKey) : Bool :=
  decide keys.Nodup && keys.all isName

theorem exact_object {depth : Nat} {fields : List (JsonKey × Json)}
    (names : areNames (fields.map Prod.fst) = true)
    (exact : ∀ field ∈ fields, Exact depth field.2) : Exact (depth + 1) (.object fields) := by
  unfold areNames at names
  rw [Bool.and_eq_true, decide_eq_true_eq, List.all_eq_true] at names
  refine .object names.1 (fun field member => ?_) exact
  have isName := names.2 field.1 (List.mem_map_of_mem member)
  cases key : field.1 with
  | text name => exact ⟨name, rfl⟩
  | unpaired codes =>
      rw [key] at isName
      cases isName

theorem exact_map {α : Type} {toRecord : α → Json} {depth : Nat}
    (each : ∀ value, Exact depth (toRecord value)) (items : List α) :
    Exact (depth + 1) (.array (items.map toRecord)) :=
  .array fun _ member => by
    obtain ⟨value, -, rfl⟩ := List.mem_map.mp member
    exact each value

theorem exact_textsRecord (depth : Nat) (texts : List Text) : Exact (depth + 1) (textsRecord texts) :=
  exact_map Exact.string texts

theorem FunctionDoc.exact_toRecord (depth : Nat) (function : FunctionDoc) :
    Exact (depth + 2) function.toRecord := by
  refine exact_object rfl ?_
  simp only [List.forall_mem_cons]
  exact ⟨.string _, .string _, exact_textsRecord _ _, exact_textsRecord _ _, .int _, .bool _,
    fun _ member => nomatch member⟩

theorem FieldDoc.exact_toRecord (depth : Nat) (field : FieldDoc) : Exact (depth + 2) field.toRecord := by
  refine exact_object rfl ?_
  simp only [List.forall_mem_cons]
  exact ⟨.string _, exact_textsRecord _ _, .int _, .bool _, fun _ member => nomatch member⟩

theorem AggregateDoc.exact_toRecord (depth : Nat) (aggregate : AggregateDoc) :
    Exact (depth + 4) aggregate.toRecord := by
  refine exact_object rfl ?_
  simp only [List.forall_mem_cons]
  exact ⟨.string _, .string _, exact_textsRecord _ _, exact_map (FunctionDoc.exact_toRecord depth) _,
    exact_map (FieldDoc.exact_toRecord depth) _, .int _, fun _ member => nomatch member⟩

theorem EnumMemberDoc.exact_toRecord (depth : Nat) (member : EnumMemberDoc) :
    Exact (depth + 2) member.toRecord := by
  refine exact_object rfl ?_
  simp only [List.forall_mem_cons]
  exact ⟨.string _, .string _, exact_textsRecord _ _, .int _, fun _ member => nomatch member⟩

theorem EnumDoc.exact_toRecord (depth : Nat) (enum : EnumDoc) : Exact (depth + 4) enum.toRecord := by
  refine exact_object rfl ?_
  simp only [List.forall_mem_cons]
  exact ⟨.string _, exact_textsRecord _ _, exact_map (EnumMemberDoc.exact_toRecord depth) _, .int _,
    fun _ member => nomatch member⟩

theorem ModuleDoc.exact_toRecord (depth : Nat) (module : ModuleDoc) :
    Exact (depth + 6) module.toRecord := by
  refine exact_object rfl ?_
  simp only [List.forall_mem_cons]
  exact ⟨.string _, .string _, exact_textsRecord _ _, exact_textsRecord _ _,
    exact_map (FunctionDoc.exact_toRecord (depth + 2)) _, exact_map (AggregateDoc.exact_toRecord depth) _,
    exact_map (EnumDoc.exact_toRecord depth) _, fun _ member => nomatch member⟩

/-! ### Line numbers in records -/

def AggregateDoc.writtenLines (aggregate : AggregateDoc) : List Int :=
  aggregate.methods.map FunctionDoc.line ++ aggregate.fields.map FieldDoc.line ++ [aggregate.line]

def EnumDoc.writtenLines (enum : EnumDoc) : List Int :=
  enum.members.map EnumMemberDoc.line ++ [enum.line]

def ModuleDoc.writtenLines (module : ModuleDoc) : List Int :=
  module.functions.map FunctionDoc.line ++ module.aggregates.flatMap AggregateDoc.writtenLines ++
    module.enums.flatMap EnumDoc.writtenLines

theorem overlongIn?_string (text : Text) : overlongIn? (.string text) = none := rfl

theorem overlongIn?_bool (value : Bool) : overlongIn? (.bool value) = none := rfl

theorem overlongIn?_textsRecord (texts : List Text) : overlongIn? (textsRecord texts) = none := by
  unfold textsRecord
  rw [overlongIn?_array, List.findSome?_map, List.findSome?_eq_none_iff]
  exact fun text _ => overlongIn?_string text

/-- The numbers of a list of records are those of its items. -/
theorem overlongIn?_map {α : Type} {toRecord : α → Json} {number : α → Int}
    (each : ∀ value, overlongIn? (toRecord value) = overlong? (number value)) (items : List α) :
    overlongIn? (.array (items.map toRecord)) = (items.map number).findSome? overlong? := by
  rw [overlongIn?_array, List.findSome?_map, List.findSome?_map]
  exact congrArg (fun found => items.findSome? found) (funext each)

theorem overlongIn?_flatMap {α : Type} {toRecord : α → Json} {numbers : α → List Int}
    (each : ∀ value, overlongIn? (toRecord value) = (numbers value).findSome? overlong?) (items : List α) :
    overlongIn? (.array (items.map toRecord)) = (items.flatMap numbers).findSome? overlong? := by
  rw [overlongIn?_array, List.findSome?_map]
  induction items with
  | nil => rfl
  | cons value items ih =>
      rw [Json.findSome?_cons_or, List.flatMap_cons, List.findSome?_append, ih, ← each]
      rfl

/-- What the fields of a record contribute. -/
theorem overlongIn?_fields (fields : List (JsonKey × Json)) : overlongIn? (.object fields) =
    fields.foldr (fun field further => (overlongIn? field.2).or further) none := by
  rw [overlongIn?_object]
  induction fields with
  | nil => rfl
  | cons field fields ih => rw [Json.findSome?_cons_or, ih, List.foldr_cons]

theorem FunctionDoc.overlongIn?_toRecord (function : FunctionDoc) :
    overlongIn? function.toRecord = overlong? function.line := by
  unfold toRecord
  simp only [overlongIn?_fields, List.foldr_cons, List.foldr_nil, overlongIn?_string,
    overlongIn?_textsRecord, overlongIn?_int, overlongIn?_bool, Option.none_or, Option.or_none]

theorem FieldDoc.overlongIn?_toRecord (field : FieldDoc) :
    overlongIn? field.toRecord = overlong? field.line := by
  unfold toRecord
  simp only [overlongIn?_fields, List.foldr_cons, List.foldr_nil, overlongIn?_string,
    overlongIn?_textsRecord, overlongIn?_int, overlongIn?_bool, Option.none_or, Option.or_none]

theorem AggregateDoc.overlongIn?_toRecord (aggregate : AggregateDoc) :
    overlongIn? aggregate.toRecord = aggregate.writtenLines.findSome? overlong? := by
  unfold toRecord writtenLines
  simp only [overlongIn?_fields, List.foldr_cons, List.foldr_nil, overlongIn?_string,
    overlongIn?_textsRecord, overlongIn?_int, overlongIn?_map FunctionDoc.overlongIn?_toRecord,
    overlongIn?_map FieldDoc.overlongIn?_toRecord, Option.none_or, Option.or_none, List.findSome?_append,
    Option.or_assoc, Json.findSome?_cons_or, List.findSome?_nil]

theorem EnumMemberDoc.overlongIn?_toRecord (member : EnumMemberDoc) :
    overlongIn? member.toRecord = overlong? member.line := by
  unfold toRecord
  simp only [overlongIn?_fields, List.foldr_cons, List.foldr_nil, overlongIn?_string,
    overlongIn?_textsRecord, overlongIn?_int, Option.none_or, Option.or_none]

theorem EnumDoc.overlongIn?_toRecord (enum : EnumDoc) :
    overlongIn? enum.toRecord = enum.writtenLines.findSome? overlong? := by
  unfold toRecord writtenLines
  simp only [overlongIn?_fields, List.foldr_cons, List.foldr_nil, overlongIn?_string,
    overlongIn?_textsRecord, overlongIn?_int, overlongIn?_map EnumMemberDoc.overlongIn?_toRecord,
    Option.none_or, Option.or_none, List.findSome?_append, Json.findSome?_cons_or, List.findSome?_nil]

/-- The first number of a record that is too long is the first line number of its module that is. -/
theorem ModuleDoc.overlongIn?_toRecord (module : ModuleDoc) :
    overlongIn? module.toRecord = module.writtenLines.findSome? overlong? := by
  unfold toRecord writtenLines
  simp only [overlongIn?_fields, List.foldr_cons, List.foldr_nil, overlongIn?_string,
    overlongIn?_textsRecord, overlongIn?_map FunctionDoc.overlongIn?_toRecord,
    overlongIn?_flatMap AggregateDoc.overlongIn?_toRecord, overlongIn?_flatMap EnumDoc.overlongIn?_toRecord,
    Option.none_or, Option.or_none, List.findSome?_append, Option.or_assoc]

/-! ### Search entries -/

theorem SearchEntry.exists_fields (entry : SearchEntry) : ∃ fields, entry.toRecord = .object fields ∧
    areNames (fields.map Prod.fst) = true ∧ ∀ field ∈ fields, ∃ text, field.2 = .string text := by
  obtain ⟨name, kind, parent, link, module⟩ := entry
  refine ⟨_, rfl, ?_, ?_⟩
  · cases parent <;> cases module <;> rfl
  · cases parent <;> cases module <;> simp

/-- The search index is read as it is written. -/
theorem exact_searchIndex (modules : List ModuleDoc) : Exact Json.nestingLimit (searchIndex modules) := by
  have each (entry : SearchEntry) : Exact 987 entry.toRecord := by
    obtain ⟨fields, isObject, distinct, texts⟩ := entry.exists_fields
    rw [isObject]
    refine exact_object distinct fun field member => ?_
    obtain ⟨text, isText⟩ := texts field member
    rw [isText]
    exact .string text
  exact exact_map each (searchEntries modules)

theorem overlongIn?_searchIndex (modules : List ModuleDoc) : overlongIn? (searchIndex modules) = none := by
  unfold searchIndex
  rw [Json.overlongIn?_array, List.findSome?_map, List.findSome?_eq_none_iff]
  intro entry _
  obtain ⟨fields, isObject, -, texts⟩ := entry.exists_fields
  rw [Function.comp_apply, isObject, Json.overlongIn?_object, List.findSome?_eq_none_iff]
  intro field member
  obtain ⟨text, isText⟩ := texts field member
  rw [isText, overlongIn?_string]

/-- A search index can always be written. -/
theorem writeSearchScript_eq (modules : List ModuleDoc) (directory : FilePath) :
    writeSearchScript modules directory = (do
      writeText (directory.child searchScriptName) (searchScript modules)
      return directory.child searchScriptName) := by
  have complete : ((searchIndex modules).indented 0).complete = true :=
    (Json.parse_indented (exact_searchIndex modules) 0).1.mpr (overlongIn?_searchIndex modules)
  unfold writeSearchScript writeScript
  rw [complete]
  rfl

end DocSite
