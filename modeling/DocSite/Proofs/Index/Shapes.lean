/-
Shapes of index documents.

What is demanded of the values of a record is a parameter here, so that one description of the records says both
what loading looks at and what the fields are declared to be. Loading demands the required fields, a path, the
keyword of a kind and something to walk through wherever a list belongs, and takes every other value as it is. So a
document is loaded exactly if it has the shape that loading looks at, and the tree that is loaded is well-formed
exactly if the remaining values have their declared types too.
-/
import DocSite.Proofs.Index.Access
import Mathlib.Tactic.MkIffOfInductiveProp

namespace DocSite

/-! ### Demands -/

structure Demands where
  text : Json → Prop
  integer : Json → Prop
  truth : Json → Prop
  list : (Json → Prop) → Json → Prop

def IsString : Json → Prop
  | .string _ => True
  | .unpaired _ => True
  | _ => False

def IsInteger : Json → Prop
  | .int _ => True
  | _ => False

def IsTruth : Json → Prop
  | .bool _ => True
  | _ => False

def IsKeyword (value : Json) : Prop :=
  ∃ kind : AggregateKind, value = .string kind.keyword

def IsListOf (item : Json → Prop) (value : Json) : Prop :=
  ∃ items, value = .array items ∧ ∀ value ∈ items, item value

/-- Arrays can be walked through, and so can strings and objects. -/
def IsWalkOf (item : Json → Prop) (value : Json) : Prop :=
  ∃ items, walkThrough value = .ok items ∧ ∀ value ∈ items, item value

namespace Demands

def declared : Demands := ⟨IsString, IsInteger, IsTruth, IsListOf⟩

def walked : Demands := ⟨IsString, IsInteger, IsTruth, IsWalkOf⟩

/-- What loading looks at. -/
def loading : Demands := ⟨fun _ => True, fun _ => True, fun _ => True, IsWalkOf⟩

/-- Demands of which the first ones imply the second ones, place by place. -/
structure Implies (before after : Demands) : Prop where
  text : ∀ value, before.text value → after.text value
  integer : ∀ value, before.integer value → after.integer value
  truth : ∀ value, before.truth value → after.truth value
  list : ∀ {item weaker : Json → Prop}, (∀ value, item value → weaker value) →
    ∀ value, before.list item value → after.list weaker value

theorem declared_implies_walked : declared.Implies walked where
  text _ := id
  integer _ := id
  truth _ := id
  list := by
    rintro item weaker weaken _ ⟨items, rfl, all⟩
    exact ⟨items, rfl, fun value member => weaken value (all value member)⟩

theorem walked_implies_loading : walked.Implies loading where
  text _ _ := trivial
  integer _ _ := trivial
  truth _ _ := trivial
  list := by
    rintro item weaker weaken value ⟨items, met, all⟩
    exact ⟨items, met, fun value member => weaken value (all value member)⟩

end Demands

/-! ### Records -/

def Json.Has (data : Json) (key : Text) (demand : Json → Prop) : Prop :=
  ∃ value, requiredField data key = .ok value ∧ demand value

def Json.MayHave (data : Json) (key : Text) (demand : Json → Prop) : Prop :=
  ∀ value, requiredField data key = .ok value → demand value

section Records

variable (demands : Demands)

@[mk_iff]
structure IsFunctionRecord (data : Json) : Prop where
  name : data.Has "name".toList demands.text
  returnType : data.MayHave "return_type".toList demands.text
  parameters : data.MayHave "parameters".toList (demands.list demands.text)
  comments : data.MayHave "comments".toList (demands.list demands.text)
  line : data.MayHave "line_number".toList demands.integer
  isPrivate : data.MayHave "is_private".toList demands.truth

@[mk_iff]
structure IsFieldRecord (data : Json) : Prop where
  declaration : data.Has "declaration".toList demands.text
  comments : data.MayHave "comments".toList (demands.list demands.text)
  line : data.MayHave "line_number".toList demands.integer
  isPrivate : data.MayHave "is_private".toList demands.truth

@[mk_iff]
structure IsAggregateRecord (data : Json) : Prop where
  name : data.Has "name".toList demands.text
  kind : data.Has "type".toList IsKeyword
  comments : data.MayHave "comments".toList (demands.list demands.text)
  methods : data.MayHave "methods".toList (demands.list (IsFunctionRecord demands))
  fields : data.MayHave "fields".toList (demands.list (IsFieldRecord demands))
  line : data.MayHave "line_number".toList demands.integer

@[mk_iff]
structure IsEnumMemberRecord (data : Json) : Prop where
  name : data.Has "name".toList demands.text
  value : data.MayHave "value".toList demands.text
  comments : data.MayHave "comments".toList (demands.list demands.text)
  line : data.MayHave "line_number".toList demands.integer

@[mk_iff]
structure IsEnumRecord (data : Json) : Prop where
  name : data.Has "name".toList demands.text
  comments : data.MayHave "comments".toList (demands.list demands.text)
  members : data.MayHave "members".toList (demands.list (IsEnumMemberRecord demands))
  line : data.MayHave "line_number".toList demands.integer

@[mk_iff]
structure IsModuleRecord (data : Json) : Prop where
  name : data.Has "name".toList demands.text
  file : data.Has "filepath".toList IsString
  comments : data.MayHave "comments".toList (demands.list demands.text)
  imports : data.MayHave "imports".toList (demands.list demands.text)
  functions : data.MayHave "functions".toList (demands.list (IsFunctionRecord demands))
  aggregates : data.MayHave "classes".toList (demands.list (IsAggregateRecord demands))
  enums : data.MayHave "enums".toList (demands.list (IsEnumRecord demands))

@[mk_iff]
structure IsIndexDocument (document : Json) : Prop where
  version : document.Has "version".toList fun value => value = .string indexVersion
  modules : document.MayHave "modules".toList (demands.list (IsModuleRecord demands))

end Records

/-! ### Weaker demands -/

section Weaker

variable {before after : Demands} {data : Json} {key : Text} {demand weaker : Json → Prop}

theorem Json.Has.weaken (has : data.Has key demand) (weaken : ∀ value, demand value → weaker value) :
    data.Has key weaker := by
  obtain ⟨value, found, holds⟩ := has
  exact ⟨value, found, weaken value holds⟩

theorem Json.MayHave.weaken (mayHave : data.MayHave key demand) (weaken : ∀ value, demand value → weaker value) :
    data.MayHave key weaker :=
  fun value found => weaken value (mayHave value found)

variable (implies : before.Implies after)

include implies

theorem IsFunctionRecord.weaken (shape : IsFunctionRecord before data) : IsFunctionRecord after data where
  name := shape.name.weaken implies.text
  returnType := shape.returnType.weaken implies.text
  parameters := shape.parameters.weaken (implies.list implies.text)
  comments := shape.comments.weaken (implies.list implies.text)
  line := shape.line.weaken implies.integer
  isPrivate := shape.isPrivate.weaken implies.truth

theorem IsFieldRecord.weaken (shape : IsFieldRecord before data) : IsFieldRecord after data where
  declaration := shape.declaration.weaken implies.text
  comments := shape.comments.weaken (implies.list implies.text)
  line := shape.line.weaken implies.integer
  isPrivate := shape.isPrivate.weaken implies.truth

theorem IsAggregateRecord.weaken (shape : IsAggregateRecord before data) : IsAggregateRecord after data where
  name := shape.name.weaken implies.text
  kind := shape.kind
  comments := shape.comments.weaken (implies.list implies.text)
  methods := shape.methods.weaken (implies.list fun _ => IsFunctionRecord.weaken implies)
  fields := shape.fields.weaken (implies.list fun _ => IsFieldRecord.weaken implies)
  line := shape.line.weaken implies.integer

theorem IsEnumMemberRecord.weaken (shape : IsEnumMemberRecord before data) : IsEnumMemberRecord after data where
  name := shape.name.weaken implies.text
  value := shape.value.weaken implies.text
  comments := shape.comments.weaken (implies.list implies.text)
  line := shape.line.weaken implies.integer

theorem IsEnumRecord.weaken (shape : IsEnumRecord before data) : IsEnumRecord after data where
  name := shape.name.weaken implies.text
  comments := shape.comments.weaken (implies.list implies.text)
  members := shape.members.weaken (implies.list fun _ => IsEnumMemberRecord.weaken implies)
  line := shape.line.weaken implies.integer

theorem IsModuleRecord.weaken (shape : IsModuleRecord before data) : IsModuleRecord after data where
  name := shape.name.weaken implies.text
  file := shape.file
  comments := shape.comments.weaken (implies.list implies.text)
  imports := shape.imports.weaken (implies.list implies.text)
  functions := shape.functions.weaken (implies.list fun _ => IsFunctionRecord.weaken implies)
  aggregates := shape.aggregates.weaken (implies.list fun _ => IsAggregateRecord.weaken implies)
  enums := shape.enums.weaken (implies.list fun _ => IsEnumRecord.weaken implies)

theorem IsIndexDocument.weaken {document : Json} (shape : IsIndexDocument before document) :
    IsIndexDocument after document where
  version := shape.version
  modules := shape.modules.weaken (implies.list fun _ => IsModuleRecord.weaken implies)

end Weaker

/-! ### What loading looks at -/

def Reads {α Error : Type} (result : Except Error α) : Prop :=
  ∃ value, result = .ok value

section Reading

variable {α β Error : Type} {first : Except Error α} {next : α → Except Error β}

theorem reads_bind : Reads (first >>= next) ↔ ∃ value, first = .ok value ∧ Reads (next value) := by
  constructor
  · rintro ⟨result, read⟩
    obtain ⟨value, found, read⟩ := exists_of_bind_eq_ok read
    exact ⟨value, found, result, read⟩
  · rintro ⟨value, rfl, read⟩
    exact read

/-- When it does not depend on what was read whether the rest can be read. -/
theorem reads_bind_const {rest : Prop} (same : ∀ value, Reads (next value) ↔ rest) :
    Reads (first >>= next) ↔ Reads first ∧ rest := by
  rw [reads_bind]
  constructor
  · rintro ⟨value, found, read⟩
    exact ⟨⟨value, found⟩, (same value).mp read⟩
  · rintro ⟨⟨value, found⟩, read⟩
    exact ⟨value, found, (same value).mpr read⟩

theorem reads_bind_total (total : ∀ value, Reads (next value)) : Reads (first >>= next) ↔ Reads first := by
  rw [reads_bind_const fun value => iff_true_intro (total value), and_true]

theorem forall_mem_iff_of_forall₂ {relation : α → β → Prop} {before : α → Prop} {after : β → Prop}
    {entries : List α} {records : List β} (each : List.Forall₂ relation entries records)
    (same : ∀ entry record, relation entry record → (after record ↔ before entry)) :
    (∀ record ∈ records, after record) ↔ ∀ entry ∈ entries, before entry := by
  induction each with
  | nil => exact ⟨fun _ => nofun, fun _ => nofun⟩
  | cons first _ ih => rw [List.forall_mem_cons, List.forall_mem_cons, same _ _ first, ih]

theorem reads_mapM {item : α → Except Error β} {items : List α} :
    Reads (items.mapM item) ↔ ∀ value ∈ items, Reads (item value) := by
  induction items with
  | nil => exact ⟨fun _ => nofun, fun _ => ⟨[], rfl⟩⟩
  | cons value items ih =>
      rw [List.mapM_cons, List.forall_mem_cons, ← ih]
      exact reads_bind_const fun first => reads_bind_total fun others => ⟨first :: others, rfl⟩

end Reading

section Fields

variable {data : Json} {key : Text} {demand : Json → Prop}

theorem has_iff_of_found {value : Json} (found : requiredField data key = .ok value) :
    data.Has key demand ↔ demand value := by
  unfold Json.Has
  rw [found]
  exact ⟨fun ⟨_, same, holds⟩ => Except.ok.inj same ▸ holds, fun holds => ⟨value, rfl, holds⟩⟩

theorem mayHave_iff_of_found {value : Json} (found : requiredField data key = .ok value) :
    data.MayHave key demand ↔ demand value := by
  unfold Json.MayHave
  rw [found]
  exact ⟨fun holds => holds value rfl, fun holds _ same => Except.ok.inj same ▸ holds⟩

theorem has_any_iff : data.Has key (fun _ => True) ↔ Reads (requiredField data key) :=
  ⟨fun ⟨value, found, _⟩ => ⟨value, found⟩, fun ⟨value, found⟩ => ⟨value, found, trivial⟩⟩

theorem mayHave_any : data.MayHave key (fun _ => True) :=
  fun _ _ => trivial

/-- The default meets the demand, so only a field that is there can fail it. -/
theorem mayHave_iff_optionalField {absent : Json} (byDefault : demand absent) :
    data.MayHave key demand ↔ demand (optionalField data key absent) := by
  unfold Json.MayHave requiredField optionalField
  cases data with
  | object fields =>
      dsimp only
      cases Json.field? key fields with
      | none => exact ⟨fun _ => byDefault, fun _ => nofun⟩
      | some value =>
          exact ⟨fun holds => holds value rfl, fun holds _ same => Except.ok.inj same ▸ holds⟩
  | _ => exact ⟨fun _ => byDefault, fun _ => nofun⟩

/-- A required field whose value is checked before the rest is read. -/
theorem reads_field_check {check next : Json → Except RecordError Json} {rest : Prop}
    (same : ∀ value, Reads (next value) ↔ rest) :
    Reads (requiredField data key >>= fun value => check value >>= next) ↔
      data.Has key (fun value => Reads (check value)) ∧ rest := by
  rw [reads_bind]
  simp only [reads_bind_const same]
  constructor
  · rintro ⟨value, found, checked, further⟩
    exact ⟨⟨value, found, checked⟩, further⟩
  · rintro ⟨⟨value, found, checked⟩, further⟩
    exact ⟨value, found, checked, further⟩

theorem isWalkOf_nil {item : Json → Prop} : IsWalkOf item (.array []) :=
  ⟨[], rfl, nofun⟩

/-- Items that are read one by one need something to walk through in which each of them can be read. -/
theorem reads_listField {item : Json → Except RecordError Json} :
    Reads (listField data key item) ↔ data.MayHave key (IsWalkOf fun value => Reads (item value)) := by
  have items (walked : List Json) : Reads (Json.array <$> walked.mapM item) ↔ Reads (walked.mapM item) := by
    cases walked.mapM item with
    | ok records => exact ⟨fun _ => ⟨records, rfl⟩, fun _ => ⟨.array records, rfl⟩⟩
    | error error => exact ⟨nofun, nofun⟩
  rw [mayHave_iff_optionalField isWalkOf_nil]
  unfold listField IsWalkOf
  rw [reads_bind]
  simp only [items, reads_mapM]

theorem reads_listField_ok : Reads (listField data key .ok) ↔ data.MayHave key (IsWalkOf fun _ => True) := by
  rw [reads_listField]
  simp only [show ∀ value : Json, Reads (.ok value : Except RecordError Json) from fun value => ⟨value, rfl⟩]

/-- What a list field has read is a list, and the demands on its items go over to what was walked through. -/
theorem isListOf_iff_of_listField {item : Json → Except RecordError Json} {after before : Json → Prop}
    {value : Json} (read : listField data key item = .ok value)
    (same : ∀ entry record, item entry = .ok record → (after record ↔ before entry)) :
    IsListOf after value ↔ data.MayHave key (IsWalkOf before) := by
  obtain ⟨entries, walked, read⟩ := exists_of_bind_eq_ok read
  cases all : entries.mapM item with
  | error error =>
      rw [all] at read
      cases read
  | ok records =>
      rw [all] at read
      cases read
      have kept := forall_mem_iff_of_forall₂ (forall₂_of_mapM all) same
      rw [mayHave_iff_optionalField isWalkOf_nil]
      unfold IsListOf IsWalkOf
      rw [walked]
      constructor
      · rintro ⟨_, ⟨⟩, holds⟩
        exact ⟨entries, rfl, kept.mp holds⟩
      · rintro ⟨_, ⟨⟩, holds⟩
        exact ⟨records, rfl, kept.mpr holds⟩

end Fields

/-! ### Which records can be read -/

theorem reads_normalizeFunction {data : Json} :
    Reads (normalizeFunction data) ↔ IsFunctionRecord .loading data := by
  unfold normalizeFunction
  refine (reads_bind_const fun _ => reads_bind_const fun _ => reads_bind_total fun _ => ⟨_, rfl⟩).trans ?_
  rw [← has_any_iff, reads_listField_ok, reads_listField_ok]
  constructor
  · rintro ⟨name, parameters, comments⟩
    exact ⟨name, mayHave_any, parameters, comments, mayHave_any, mayHave_any⟩
  · intro shape
    exact ⟨shape.name, shape.parameters, shape.comments⟩

theorem reads_normalizeField {data : Json} : Reads (normalizeField data) ↔ IsFieldRecord .loading data := by
  unfold normalizeField
  refine (reads_bind_const fun _ => reads_bind_total fun _ => ⟨_, rfl⟩).trans ?_
  rw [← has_any_iff, reads_listField_ok]
  constructor
  · rintro ⟨declaration, comments⟩
    exact ⟨declaration, comments, mayHave_any, mayHave_any⟩
  · intro shape
    exact ⟨shape.declaration, shape.comments⟩

theorem reads_normalizeEnumMember {data : Json} :
    Reads (normalizeEnumMember data) ↔ IsEnumMemberRecord .loading data := by
  unfold normalizeEnumMember
  refine (reads_bind_const fun _ => reads_bind_total fun _ => ⟨_, rfl⟩).trans ?_
  rw [← has_any_iff, reads_listField_ok]
  constructor
  · rintro ⟨name, comments⟩
    exact ⟨name, mayHave_any, comments, mayHave_any⟩
  · intro shape
    exact ⟨shape.name, shape.comments⟩

theorem reads_normalizeEnum {data : Json} : Reads (normalizeEnum data) ↔ IsEnumRecord .loading data := by
  unfold normalizeEnum
  refine (reads_bind_const fun _ => reads_bind_const fun _ => reads_bind_total fun _ => ⟨_, rfl⟩).trans ?_
  rw [← has_any_iff, reads_listField_ok, reads_listField]
  simp only [reads_normalizeEnumMember]
  constructor
  · rintro ⟨name, comments, members⟩
    exact ⟨name, comments, members, mayHave_any⟩
  · intro shape
    exact ⟨shape.name, shape.comments, shape.members⟩

theorem keyword_of_ofKeyword? {keyword : Text} {kind : AggregateKind}
    (known : AggregateKind.ofKeyword? keyword = some kind) : keyword = kind.keyword := by
  unfold AggregateKind.ofKeyword? at known
  split_ifs at known with isClass isStruct isInterface <;> cases known <;> assumption

/-- A value is accepted as a kind exactly if it is the keyword of one, and it is kept as it is. -/
theorem checkKind_eq_ok_iff {value kept : Json} :
    checkKind value = .ok kept ↔ IsKeyword value ∧ kept = value := by
  constructor
  · intro accepted
    cases value with
    | string keyword =>
        unfold checkKind at accepted
        dsimp only at accepted
        cases known : AggregateKind.ofKeyword? keyword with
        | none =>
            rw [known] at accepted
            cases accepted
        | some kind =>
            rw [known] at accepted
            cases accepted
            exact ⟨⟨kind, congrArg Json.string (keyword_of_ofKeyword? known)⟩, rfl⟩
    | _ => cases accepted
  · rintro ⟨⟨kind, rfl⟩, rfl⟩
    exact checkKind_keyword kind

/-- A path is accepted exactly if it is a string, and stays one. -/
theorem normalizePath_of_ok {value kept : Json} (accepted : normalizePath value = .ok kept) :
    IsString value ∧ IsString kept := by
  cases value with
  | string text =>
      cases accepted
      exact ⟨trivial, trivial⟩
  | unpaired codes =>
      cases accepted
      exact ⟨trivial, trivial⟩
  | _ => cases accepted

theorem reads_checkKind {value : Json} : Reads (checkKind value) ↔ IsKeyword value :=
  ⟨fun ⟨_, accepted⟩ => (checkKind_eq_ok_iff.mp accepted).1,
    fun isKeyword => ⟨value, checkKind_eq_ok_iff.mpr ⟨isKeyword, rfl⟩⟩⟩

theorem reads_normalizePath {value : Json} : Reads (normalizePath value) ↔ IsString value := by
  refine ⟨fun ⟨_, accepted⟩ => (normalizePath_of_ok accepted).1, fun isString => ?_⟩
  cases value with
  | string text => exact ⟨_, rfl⟩
  | unpaired codes => exact ⟨_, rfl⟩
  | _ => exact isString.elim

theorem reads_normalizeAggregate {data : Json} :
    Reads (normalizeAggregate data) ↔ IsAggregateRecord .loading data := by
  unfold normalizeAggregate
  refine (reads_bind_const fun _ => reads_field_check fun _ => reads_bind_const fun _ => reads_bind_const fun _ =>
    reads_bind_total fun _ => ⟨_, rfl⟩).trans ?_
  rw [← has_any_iff, reads_listField_ok, reads_listField, reads_listField]
  simp only [reads_checkKind, reads_normalizeFunction, reads_normalizeField]
  constructor
  · rintro ⟨name, kind, comments, methods, fields⟩
    exact ⟨name, kind, comments, methods, fields, mayHave_any⟩
  · intro shape
    exact ⟨shape.name, shape.kind, shape.comments, shape.methods, shape.fields⟩

theorem reads_normalizeModule {data : Json} :
    Reads (normalizeModule data) ↔ IsModuleRecord .loading data := by
  unfold normalizeModule
  refine (reads_bind_const fun _ => reads_field_check fun _ => reads_bind_const fun _ => reads_bind_const fun _ =>
    reads_bind_const fun _ => reads_bind_const fun _ => reads_bind_total fun _ => ⟨_, rfl⟩).trans ?_
  rw [← has_any_iff, reads_listField_ok, reads_listField_ok, reads_listField, reads_listField, reads_listField]
  simp only [reads_normalizePath, reads_normalizeFunction, reads_normalizeAggregate, reads_normalizeEnum]
  exact (isModuleRecord_iff .loading data).symm

end DocSite
