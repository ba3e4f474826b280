/-
Well-formed index documents.

Loading copies the values of a record and turns what it walks through into lists. So the modules that are loaded
have values of the declared types exactly if the document has them, apart from the strings and objects that serve
as lists. A document of the declared shape is loaded, one without the shape that loading looks at is refused, and
what lies between the two is loaded with whatever it holds.
-/
import DocSite.Proofs.Index.Shapes

namespace DocSite

/-! ### Copied fields -/

section Copies

variable {data record value : Json} {key : Text} {demand : Json → Prop}

/-- A required field is copied. -/
theorem has_of_requiredField (found : requiredField record key = .ok value) (read : requiredField data key = .ok value) :
    record.Has key demand ↔ data.Has key demand := by
  rw [has_iff_of_found found, has_iff_of_found read]

/-- A field that may be left out is copied, or gets a default that meets the demand. -/
theorem mayHave_of_optionalField {absent : Json}
    (found : requiredField record key = .ok (optionalField data key absent)) (byDefault : demand absent) :
    record.MayHave key demand ↔ data.MayHave key demand := by
  rw [mayHave_iff_of_found found, mayHave_iff_optionalField byDefault]

theorem mayHave_of_listField {item : Json → Except RecordError Json} {after before : Json → Prop}
    (found : requiredField record key = .ok value) (read : listField data key item = .ok value)
    (same : ∀ entry record, item entry = .ok record → (after record ↔ before entry)) :
    record.MayHave key (IsListOf after) ↔ data.MayHave key (IsWalkOf before) := by
  rw [mayHave_iff_of_found found, isListOf_iff_of_listField read same]

/-- What is walked through without a look at the items is copied into a list. -/
theorem mayHave_of_listField_ok (found : requiredField record key = .ok value)
    (read : listField data key .ok = .ok value) :
    record.MayHave key (IsListOf demand) ↔ data.MayHave key (IsWalkOf demand) :=
  mayHave_of_listField found read fun _ _ same => Except.ok.inj same ▸ Iff.rfl

end Copies

/-! ### Records -/

theorem isFunctionRecord_of_normalizeFunction {data record : Json} (read : normalizeFunction data = .ok record) :
    IsFunctionRecord .declared record ↔ IsFunctionRecord .walked data := by
  obtain ⟨name, named, read⟩ := exists_of_bind_eq_ok read
  obtain ⟨parameters, listed, read⟩ := exists_of_bind_eq_ok read
  obtain ⟨comments, commented, read⟩ := exists_of_bind_eq_ok read
  cases read
  rw [isFunctionRecord_iff, isFunctionRecord_iff]
  exact and_congr (has_of_requiredField rfl named) (and_congr (mayHave_of_optionalField rfl trivial)
    (and_congr (mayHave_of_listField_ok rfl listed) (and_congr (mayHave_of_listField_ok rfl commented)
      (and_congr (mayHave_of_optionalField rfl trivial) (mayHave_of_optionalField rfl trivial)))))

theorem isFieldRecord_of_normalizeField {data record : Json} (read : normalizeField data = .ok record) :
    IsFieldRecord .declared record ↔ IsFieldRecord .walked data := by
  obtain ⟨declaration, declared, read⟩ := exists_of_bind_eq_ok read
  obtain ⟨comments, commented, read⟩ := exists_of_bind_eq_ok read
  cases read
  rw [isFieldRecord_iff, isFieldRecord_iff]
  exact and_congr (has_of_requiredField rfl declared) (and_congr (mayHave_of_listField_ok rfl commented)
    (and_congr (mayHave_of_optionalField rfl trivial) (mayHave_of_optionalField rfl trivial)))

theorem isEnumMemberRecord_of_normalizeEnumMember {data record : Json}
    (read : normalizeEnumMember data = .ok record) :
    IsEnumMemberRecord .declared record ↔ IsEnumMemberRecord .walked data := by
  obtain ⟨name, named, read⟩ := exists_of_bind_eq_ok read
  obtain ⟨comments, commented, read⟩ := exists_of_bind_eq_ok read
  cases read
  rw [isEnumMemberRecord_iff, isEnumMemberRecord_iff]
  exact and_congr (has_of_requiredField rfl named) (and_congr (mayHave_of_optionalField rfl trivial)
    (and_congr (mayHave_of_listField_ok rfl commented) (mayHave_of_optionalField rfl trivial)))

theorem isEnumRecord_of_normalizeEnum {data record : Json} (read : normalizeEnum data = .ok record) :
    IsEnumRecord .declared record ↔ IsEnumRecord .walked data := by
  obtain ⟨name, named, read⟩ := exists_of_bind_eq_ok read
  obtain ⟨comments, commented, read⟩ := exists_of_bind_eq_ok read
  obtain ⟨members, listed, read⟩ := exists_of_bind_eq_ok read
  cases read
  rw [isEnumRecord_iff, isEnumRecord_iff]
  exact and_congr (has_of_requiredField rfl named) (and_congr (mayHave_of_listField_ok rfl commented)
    (and_congr (mayHave_of_listField rfl listed fun _ _ => isEnumMemberRecord_of_normalizeEnumMember)
      (mayHave_of_optionalField rfl trivial)))

theorem isAggregateRecord_of_normalizeAggregate {data record : Json}
    (read : normalizeAggregate data = .ok record) :
    IsAggregateRecord .declared record ↔ IsAggregateRecord .walked data := by
  obtain ⟨name, named, read⟩ := exists_of_bind_eq_ok read
  obtain ⟨value, kindRead, read⟩ := exists_of_bind_eq_ok read
  obtain ⟨kind, checked, read⟩ := exists_of_bind_eq_ok read
  obtain ⟨comments, commented, read⟩ := exists_of_bind_eq_ok read
  obtain ⟨methods, methodsRead, read⟩ := exists_of_bind_eq_ok read
  obtain ⟨fields, fieldsRead, read⟩ := exists_of_bind_eq_ok read
  cases read
  obtain ⟨-, rfl⟩ := checkKind_eq_ok_iff.mp checked
  rw [isAggregateRecord_iff, isAggregateRecord_iff]
  exact and_congr (has_of_requiredField rfl named) (and_congr (has_of_requiredField rfl kindRead)
    (and_congr (mayHave_of_listField_ok rfl commented)
      (and_congr (mayHave_of_listField rfl methodsRead fun _ _ => isFunctionRecord_of_normalizeFunction)
        (and_congr (mayHave_of_listField rfl fieldsRead fun _ _ => isFieldRecord_of_normalizeField)
          (mayHave_of_optionalField rfl trivial)))))

theorem isModuleRecord_of_normalizeModule {data record : Json} (read : normalizeModule data = .ok record) :
    IsModuleRecord .declared record ↔ IsModuleRecord .walked data := by
  obtain ⟨name, named, read⟩ := exists_of_bind_eq_ok read
  obtain ⟨value, fileRead, read⟩ := exists_of_bind_eq_ok read
  obtain ⟨file, checked, read⟩ := exists_of_bind_eq_ok read
  obtain ⟨comments, commented, read⟩ := exists_of_bind_eq_ok read
  obtain ⟨imports, imported, read⟩ := exists_of_bind_eq_ok read
  obtain ⟨functions, functionsRead, read⟩ := exists_of_bind_eq_ok read
  obtain ⟨aggregates, aggregatesRead, read⟩ := exists_of_bind_eq_ok read
  obtain ⟨enums, enumsRead, read⟩ := exists_of_bind_eq_ok read
  obtain ⟨before, after⟩ := normalizePath_of_ok checked
  cases read
  rw [isModuleRecord_iff, isModuleRecord_iff]
  -- A path is not copied but brought into its written form. It is a string before and after.
  exact and_congr (has_of_requiredField rfl named) (and_congr
    (iff_of_true ⟨file, rfl, after⟩ ⟨value, fileRead, before⟩)
    (and_congr (mayHave_of_listField_ok rfl commented) (and_congr (mayHave_of_listField_ok rfl imported)
      (and_congr (mayHave_of_listField rfl functionsRead fun _ _ => isFunctionRecord_of_normalizeFunction)
        (and_congr (mayHave_of_listField rfl aggregatesRead fun _ _ => isAggregateRecord_of_normalizeAggregate)
          (mayHave_of_listField rfl enumsRead fun _ _ => isEnumRecord_of_normalizeEnum))))))

/-! ### Documents -/

theorem requiredField_object_eq_ok_iff {fields : List (JsonKey × Json)} {key : Text} {value : Json} :
    requiredField (.object fields) key = .ok value ↔ Json.field? key fields = some value := by
  unfold requiredField
  dsimp only
  cases Json.field? key fields with
  | none => exact ⟨nofun, nofun⟩
  | some found => exact ⟨fun same => congrArg some (Except.ok.inj same), fun same => congrArg _ (Option.some.inj same)⟩

/-- The entries of a document with the version that is read are normalised one by one. -/
theorem indexEntries_eq_ok_iff {document : Json} {records : List Json} :
    indexEntries document = .ok records ↔
      document.Has "version".toList (fun value => value = .string indexVersion) ∧
        ∃ entries, walkThrough (optionalField document "modules".toList (.array [])) = .ok entries ∧
          List.Forall₂ (fun entry record => normalizeModule entry = .ok record) entries records := by
  constructor
  · intro loaded
    obtain ⟨fields, entries, rfl, version, met, each⟩ := exists_entries_of_indexEntries loaded
    exact ⟨⟨_, requiredField_object_eq_ok_iff.mpr version, rfl⟩, entries, met, each⟩
  · rintro ⟨⟨_, found, rfl⟩, entries, met, each⟩
    cases document with
    | object fields =>
        have accepted : isIndexVersion ((Json.field? "version".toList fields).getD .null) = true := by
          rw [requiredField_object_eq_ok_iff.mp found]
          exact beq_self_eq_true indexVersion
        unfold indexEntries
        dsimp only
        rw [if_pos accepted, met]
        change (entries.mapM normalizeModule).mapError _ = _
        rw [mapM_of_forall₂ each]
        rfl
    | _ => cases found

theorem isIndexDocument_iff_walkThrough {demands : Demands} (walks : demands.list = IsWalkOf) {document : Json} :
    IsIndexDocument demands document ↔
      document.Has "version".toList (fun value => value = .string indexVersion) ∧
        ∃ entries, walkThrough (optionalField document "modules".toList (.array [])) = .ok entries ∧
          ∀ entry ∈ entries, IsModuleRecord demands entry := by
  rw [isIndexDocument_iff, walks, mayHave_iff_optionalField isWalkOf_nil]
  rfl

theorem reads_indexEntries {document : Json} :
    Reads (indexEntries document) ↔ IsIndexDocument .loading document := by
  have entries (walked : List Json) :
      (∃ records, List.Forall₂ (fun entry record => normalizeModule entry = .ok record) walked records) ↔
        ∀ entry ∈ walked, IsModuleRecord .loading entry := by
    simp only [← reads_normalizeModule, ← reads_mapM]
    exact exists_congr fun records => ⟨mapM_of_forall₂, forall₂_of_mapM⟩
  rw [isIndexDocument_iff_walkThrough rfl]
  unfold Reads
  simp only [indexEntries_eq_ok_iff, ← entries]
  constructor
  · rintro ⟨records, version, walked, met, each⟩
    exact ⟨version, walked, met, records, each⟩
  · rintro ⟨version, walked, met, records, each⟩
    exact ⟨records, version, walked, met, each⟩

/-- The modules that are loaded are well-formed exactly if the document is, with whatever can be walked through in
the place of lists. -/
theorem isModuleRecord_of_indexEntries {document : Json} {records : List Json}
    (loaded : indexEntries document = .ok records) :
    (∀ record ∈ records, IsModuleRecord .declared record) ↔ IsIndexDocument .walked document := by
  obtain ⟨version, entries, met, each⟩ := indexEntries_eq_ok_iff.mp loaded
  rw [isIndexDocument_iff_walkThrough rfl, and_iff_right version]
  refine (forall_mem_iff_of_forall₂ each fun _ _ => isModuleRecord_of_normalizeModule).trans ?_
  constructor
  · intro all
    exact ⟨entries, met, all⟩
  · rintro ⟨_, same, all⟩
    cases met.symm.trans same
    exact all

structure LoadsByShape (workspace : Workspace) (path : FilePath) (document : Json) : Prop where
  loads : (∃ records, loadIndex workspace path = .ok records) ↔ IsIndexDocument .loading document
  refuses : ¬IsIndexDocument .loading document → ∃ error, loadIndex workspace path = .error (.index error)
  wellFormed : ∀ records, loadIndex workspace path = .ok records →
    ((∀ record ∈ records, IsModuleRecord .declared record) ↔ IsIndexDocument .walked document)
  declared : IsIndexDocument .declared document →
    ∃ records, loadIndex workspace path = .ok records ∧ ∀ record ∈ records, IsModuleRecord .declared record

/-- A document is loaded exactly if it has the shape that loading looks at, and refused with an error of the index
otherwise. The modules that are loaded are well-formed exactly if the rest of the document is, which loading does
not look at. -/
theorem loadIndex_byShape {workspace : Workspace} {path : FilePath} {document : Json}
    (holds : workspace.HoldsDocument path document) : LoadsByShape workspace path document := by
  have ends := holds.loadIndex
  have readable := @reads_indexEntries document
  cases read : indexEntries document with
  | ok records =>
      rw [read] at ends readable
      have loading : IsIndexDocument .loading document := readable.mp ⟨records, rfl⟩
      have shapes := isModuleRecord_of_indexEntries read
      exact {
        loads := iff_of_true ⟨records, ends⟩ loading
        refuses := fun other => absurd loading other
        wellFormed := fun others same => by
          cases ends.symm.trans same
          exact shapes
        declared := fun shape => ⟨records, ends, shapes.mpr (shape.weaken Demands.declared_implies_walked)⟩ }
  | error error =>
      rw [read] at ends readable
      have refused : ¬IsIndexDocument .loading document := fun shape => nomatch readable.mpr shape
      have unread (records : List Json) : loadIndex workspace path ≠ .ok records := by
        rw [ends]
        nofun
      exact {
        loads := iff_of_false (fun ⟨records, same⟩ => unread records same) refused
        refuses := fun _ => ⟨error, ends⟩
        wellFormed := fun records same => absurd same (unread records)
        declared := fun shape => absurd
          ((shape.weaken Demands.declared_implies_walked).weaken Demands.walked_implies_loading) refused }

def misnamedDocument : Json :=
  .object [("version".toList, .string indexVersion),
    ("modules".toList, .array
      [.object [("name".toList, .int 5), ("filepath".toList, .string "m.d".toList),
        ("comments".toList, .string "ab".toList)]])]

theorem exact_misnamedDocument : Json.Exact Json.nestingLimit misnamedDocument := by
  refine exact_object rfl (List.forall_mem_cons.mpr ⟨.string _, List.forall_mem_singleton.mpr ?_⟩)
  refine .array (List.forall_mem_singleton.mpr ?_)
  refine exact_object rfl (List.forall_mem_cons.mpr ⟨.int _, List.forall_mem_cons.mpr ⟨.string _, ?_⟩⟩)
  exact List.forall_mem_singleton.mpr (.string _)

theorem not_isIndexDocument_misnamedDocument : ¬IsIndexDocument .declared misnamedDocument := by
  intro shape
  obtain ⟨entries, same, all⟩ := shape.modules _ rfl
  cases same
  obtain ⟨name, found, isString⟩ := (all _ List.mem_cons_self).name
  cases found
  exact isString

theorem loadIndex_byShape_misnamed :
    (indexWorkspace misnamedDocument).HoldsDocument indexPath misnamedDocument ∧
      LoadsByShape (indexWorkspace misnamedDocument) indexPath misnamedDocument := by
  have holds := holdsDocument_indexWorkspace exact_misnamedDocument rfl
  exact ⟨holds, loadIndex_byShape holds⟩

/-- The module is loaded, under a number for a name and with a comment for each character. -/
theorem loadIndex_misnamed :
    (indexWorkspace misnamedDocument).HoldsDocument indexPath misnamedDocument ∧
      ¬IsIndexDocument .declared misnamedDocument ∧
      ∃ record, loadIndex (indexWorkspace misnamedDocument) indexPath = .ok [record] ∧
        requiredField record "name".toList = .ok (.int 5) ∧
        requiredField record "comments".toList = .ok (.array [.string ['a'], .string ['b']]) ∧
        ¬IsModuleRecord .declared record := by
  have holds := holdsDocument_indexWorkspace exact_misnamedDocument rfl
  refine ⟨holds, not_isIndexDocument_misnamedDocument, _, holds.loadIndex, rfl, rfl, fun shape => ?_⟩
  obtain ⟨name, found, isString⟩ := shape.name
  cases found
  exact isString

end DocSite
