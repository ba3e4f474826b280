/-
Reading index documents with open faults.

The readers of records look fields up with and without a default, walk through values and turn values into kinds
and paths, on whatever value a document has in that place. Here each of these accesses goes wrong openly, also in
the way that no handler expects: a look-up with a default in a value that has no fields. A handler turns the
expected faults into errors of the index and lets the others through. The main statement says that on every
document this reading ends as the program does, so no fault gets past the handler: in each record a field without
default is looked up first, and everything but an object stops there.
-/
import DocSite.Index.Files
import DocSite.Proofs.Files.Encoding
import DocSite.Proofs.Index.Records
import Mathlib.Data.List.Forall2

namespace DocSite

/-! ### Accesses -/

/-- What can go wrong in an access to a value of any shape. -/
inductive AccessFault where
  | missingKey (key : Text)
  | wrongType
  | wrongValue (value : Json)
  /-- A look-up with a default in a value that has no fields. -/
  | noFields
  deriving Repr

def AccessFault.ofRecordError : RecordError → AccessFault
  | .missingField key => .missingKey key
  | .wrongType => .wrongType
  | .unknownKind value => .wrongValue value

def AccessFault.expected? : AccessFault → Option RecordError
  | .missingKey key => some (.missingField key)
  | .wrongType => some .wrongType
  | .wrongValue value => some (.unknownKind value)
  | .noFields => none

abbrev Access := Except AccessFault

/-- The value of a key. Only objects are looked up by keys. -/
def fieldAt (data : Json) (key : Text) : Access Json :=
  match data with
  | .object fields =>
      match Json.field? key fields with
      | some value => .ok value
      | none => .error (.missingKey key)
  | _ => .error .wrongType

/-- The value of a key or a default. Only objects have such a look-up. -/
def fieldOr (data : Json) (key : Text) (absent : Json) : Access Json :=
  match data with
  | .object fields => .ok ((Json.field? key fields).getD absent)
  | _ => .error .noFields

def itemsOf (value : Json) : Access (List Json) :=
  (walkThrough value).mapError .ofRecordError

def itemsAt (data : Json) (key : Text) (item : Json → Access Json) : Access Json := do
  let items ← itemsOf (← fieldOr data key (.array []))
  .array <$> items.mapM item

def kindOf (value : Json) : Access Json :=
  (checkKind value).mapError .ofRecordError

def pathOf (value : Json) : Access Json :=
  (normalizePath value).mapError .ofRecordError

/-! ### Records, one access after the other -/

def functionOf (data : Json) : Access Json := do
  let name ← fieldAt data "name".toList
  let returnType ← fieldOr data "return_type".toList (.string [])
  let parameters ← itemsAt data "parameters".toList .ok
  let comments ← itemsAt data "comments".toList .ok
  let line ← fieldOr data "line_number".toList (.int 0)
  let isPrivate ← fieldOr data "is_private".toList (.bool false)
  return .object
    [("name".toList, name), ("return_type".toList, returnType), ("parameters".toList, parameters),
      ("comments".toList, comments), ("line_number".toList, line), ("is_private".toList, isPrivate)]

def fieldOf (data : Json) : Access Json := do
  let declaration ← fieldAt data "declaration".toList
  let comments ← itemsAt data "comments".toList .ok
  let line ← fieldOr data "line_number".toList (.int 0)
  let isPrivate ← fieldOr data "is_private".toList (.bool false)
  return .object
    [("declaration".toList, declaration), ("comments".toList, comments), ("line_number".toList, line),
      ("is_private".toList, isPrivate)]

def aggregateOf (data : Json) : Access Json := do
  let name ← fieldAt data "name".toList
  let kind ← kindOf (← fieldAt data "type".toList)
  let comments ← itemsAt data "comments".toList .ok
  let methods ← itemsAt data "methods".toList functionOf
  let fields ← itemsAt data "fields".toList fieldOf
  let line ← fieldOr data "line_number".toList (.int 0)
  return .object
    [("name".toList, name), ("type".toList, kind), ("comments".toList, comments),
      ("methods".toList, methods), ("fields".toList, fields), ("line_number".toList, line)]

def enumMemberOf (data : Json) : Access Json := do
  let name ← fieldAt data "name".toList
  let value ← fieldOr data "value".toList (.string [])
  let comments ← itemsAt data "comments".toList .ok
  let line ← fieldOr data "line_number".toList (.int 0)
  return .object
    [("name".toList, name), ("value".toList, value), ("comments".toList, comments),
      ("line_number".toList, line)]

def enumOf (data : Json) : Access Json := do
  let name ← fieldAt data "name".toList
  let comments ← itemsAt data "comments".toList .ok
  let members ← itemsAt data "members".toList enumMemberOf
  let line ← fieldOr data "line_number".toList (.int 0)
  return .object
    [("name".toList, name), ("comments".toList, comments), ("members".toList, members),
      ("line_number".toList, line)]

def moduleOf (data : Json) : Access Json := do
  let name ← fieldAt data "name".toList
  let file ← pathOf (← fieldAt data "filepath".toList)
  let comments ← itemsAt data "comments".toList .ok
  let imports ← itemsAt data "imports".toList .ok
  let functions ← itemsAt data "functions".toList functionOf
  let aggregates ← itemsAt data "classes".toList aggregateOf
  let enums ← itemsAt data "enums".toList enumOf
  return .object
    [("name".toList, name), ("filepath".toList, file), ("comments".toList, comments),
      ("imports".toList, imports), ("functions".toList, functions), ("classes".toList, aggregates),
      ("enums".toList, enums)]

/-! ### Documents -/

inductive LoadFault where
  | index (error : IndexError)
  | escaped (fault : AccessFault)

def handled (entries : Access (List Json)) : Except LoadFault (List Json) :=
  entries.mapError fun fault =>
    match fault.expected? with
    | some error => .index (.malformedEntry error)
    | none => .escaped fault

/-- The entries of a document. The look-up of the version stands outside the handler. -/
def documentEntries (document : Json) : Except LoadFault (List Json) :=
  match document with
  | .object _ => do
      let version ← (fieldOr document "version".toList .null).mapError .escaped
      if isIndexVersion version then
        handled do
          let entries ← itemsOf (← fieldOr document "modules".toList (.array []))
          entries.mapM moduleOf
      else .error (.index (.unsupportedVersion version))
  | _ => .error (.index .notAnObject)

/-! ### Lists of entries -/

theorem exists_of_bind_eq_ok {α β Error : Type} {first : Except Error α} {next : α → Except Error β} {result : β}
    (read : first >>= next = .ok result) : ∃ value, first = .ok value ∧ next value = .ok result := by
  cases first with
  | ok value => exact ⟨value, rfl, read⟩
  | error error => cases read

theorem eq_ok_of_mapError {α Before After : Type} {turn : Before → After} {first : Except Before α} {value : α}
    (read : first.mapError turn = .ok value) : first = .ok value := by
  cases first with
  | ok found => exact congrArg Except.ok (Except.ok.inj read)
  | error error => cases read

section Entries

variable {Item Error : Type} {read : Item → Except Error Json}

/-- A list is read one item after the other. -/
theorem forall₂_of_mapM {items : List Item} {records : List Json} (all : items.mapM read = .ok records) :
    List.Forall₂ (fun item record => read item = .ok record) items records := by
  induction items generalizing records with
  | nil =>
      cases all
      exact .nil
  | cons item items ih =>
      rw [List.mapM_cons] at all
      obtain ⟨record, first, all⟩ := exists_of_bind_eq_ok all
      obtain ⟨others, later, all⟩ := exists_of_bind_eq_ok all
      cases all
      exact .cons first (ih later)

theorem mapM_of_forall₂ {items : List Item} {records : List Json}
    (each : List.Forall₂ (fun item record => read item = .ok record) items records) :
    items.mapM read = .ok records := by
  induction each with
  | nil => rfl
  | cons first later ih =>
      rw [List.mapM_cons, first, ih]
      rfl

end Entries

/-! ### Agreement -/

theorem mapError_bind {α β Before After : Type} (turn : Before → After) (first : Except Before α)
    (next : α → Except Before β) :
    (first >>= next).mapError turn = first.mapError turn >>= fun value => (next value).mapError turn := by
  cases first <;> rfl

theorem mapError_mapM {Before After : Type} {turn : Before → After} {item : Json → Except Before Json}
    {openItem : Json → Except After Json} (same : ∀ value, openItem value = (item value).mapError turn)
    (items : List Json) : items.mapM openItem = (items.mapM item).mapError turn := by
  induction items with
  | nil => rfl
  | cons value items ih =>
      rw [List.mapM_cons, List.mapM_cons, mapError_bind, same, ih]
      refine congrArg _ (funext fun first => ?_)
      rw [mapError_bind]
      rfl

theorem fieldAt_eq (data : Json) (key : Text) :
    fieldAt data key = (requiredField data key).mapError .ofRecordError := by
  cases data with
  | object fields =>
      unfold fieldAt requiredField
      dsimp only
      cases Json.field? key fields <;> rfl
  | _ => rfl

section Objects

variable {fields : List (JsonKey × Json)}

theorem fieldOr_object (key : Text) (absent : Json) :
    fieldOr (.object fields) key absent = .ok (optionalField (.object fields) key absent) := rfl

theorem itemsAt_object {item : Json → Except RecordError Json} {openItem : Json → Access Json}
    (same : ∀ value, openItem value = (item value).mapError .ofRecordError) (key : Text) :
    itemsAt (.object fields) key openItem =
      (listField (.object fields) key item).mapError .ofRecordError := by
  unfold itemsAt listField itemsOf
  rw [mapError_bind, fieldOr_object]
  change (walkThrough _).mapError _ >>= _ = _
  refine congrArg _ (funext fun items => ?_)
  rw [mapError_mapM same]
  cases items.mapM item <;> rfl

end Objects

theorem itemsAt_object_ok (fields : List (JsonKey × Json)) (key : Text) :
    itemsAt (.object fields) key .ok = (listField (.object fields) key .ok).mapError .ofRecordError :=
  @itemsAt_object fields .ok .ok (fun _ => rfl) key

theorem functionOf_eq (data : Json) :
    functionOf data = (normalizeFunction data).mapError .ofRecordError := by
  cases data with
  | object fields =>
      unfold functionOf normalizeFunction
      simp only [mapError_bind, fieldAt_eq, fieldOr_object, itemsAt_object_ok]
      rfl
  | _ => rfl

theorem fieldOf_eq (data : Json) : fieldOf data = (normalizeField data).mapError .ofRecordError := by
  cases data with
  | object fields =>
      unfold fieldOf normalizeField
      simp only [mapError_bind, fieldAt_eq, fieldOr_object, itemsAt_object_ok]
      rfl
  | _ => rfl

theorem aggregateOf_eq (data : Json) :
    aggregateOf data = (normalizeAggregate data).mapError .ofRecordError := by
  cases data with
  | object fields =>
      unfold aggregateOf normalizeAggregate kindOf
      simp only [mapError_bind, fieldAt_eq, fieldOr_object, itemsAt_object_ok,
        itemsAt_object functionOf_eq, itemsAt_object fieldOf_eq]
      rfl
  | _ => rfl

theorem enumMemberOf_eq (data : Json) :
    enumMemberOf data = (normalizeEnumMember data).mapError .ofRecordError := by
  cases data with
  | object fields =>
      unfold enumMemberOf normalizeEnumMember
      simp only [mapError_bind, fieldAt_eq, fieldOr_object, itemsAt_object_ok]
      rfl
  | _ => rfl

theorem enumOf_eq (data : Json) : enumOf data = (normalizeEnum data).mapError .ofRecordError := by
  cases data with
  | object fields =>
      unfold enumOf normalizeEnum
      simp only [mapError_bind, fieldAt_eq, fieldOr_object, itemsAt_object_ok,
        itemsAt_object enumMemberOf_eq]
      rfl
  | _ => rfl

theorem moduleOf_eq (data : Json) : moduleOf data = (normalizeModule data).mapError .ofRecordError := by
  cases data with
  | object fields =>
      unfold moduleOf normalizeModule pathOf
      simp only [mapError_bind, fieldAt_eq, itemsAt_object_ok, itemsAt_object functionOf_eq,
        itemsAt_object aggregateOf_eq, itemsAt_object enumOf_eq]
      rfl
  | _ => rfl

theorem handled_mapError (entries : Except RecordError (List Json)) :
    handled (entries.mapError .ofRecordError) =
      (entries.mapError IndexError.malformedEntry).mapError LoadFault.index := by
  cases entries with
  | ok records => rfl
  | error error => cases error <;> rfl

/-- No fault gets past the handler. -/
theorem documentEntries_eq (document : Json) :
    documentEntries document = (indexEntries document).mapError .index := by
  cases document with
  | object fields =>
      unfold documentEntries indexEntries itemsOf
      dsimp only
      rw [fieldOr_object]
      change (if isIndexVersion ((Json.field? "version".toList fields).getD .null) = true then _ else _) = _
      split
      · rw [← handled_mapError, mapError_bind]
        refine congrArg handled ?_
        change (walkThrough _).mapError _ >>= _ = _
        exact congrArg _ (funext fun items => mapError_mapM moduleOf_eq items)
      · rfl
  | _ => rfl

/-! ### Files -/

def Workspace.HoldsDocument (workspace : Workspace) (path : FilePath) (document : Json) : Prop :=
  ∃ content text, workspace.read path = .ok content ∧ decodeUtf8? content = some text ∧
    Json.parse text = .ok document

theorem Workspace.HoldsDocument.loadIndex {workspace : Workspace} {path : FilePath} {document : Json}
    (holds : workspace.HoldsDocument path document) :
    DocSite.loadIndex workspace path = (indexEntries document).mapError .index := by
  obtain ⟨content, text, read, decoded, parsed⟩ := holds
  unfold DocSite.loadIndex
  rw [read]
  dsimp only
  rw [decoded]
  dsimp only
  rw [parsed]

/-- The two ways in which loading a document ends, with open faults and in the program alike. -/
inductive LoadsConfined (workspace : Workspace) (path : FilePath) (document : Json) : Prop where
  /-- Every entry of an object with the version that is read has become one record, in order. The entries are the
  items of the array of modules. -/
  | loaded {fields : List (JsonKey × Json)} {entries records : List Json} (isObject : document = .object fields)
      (version : Json.field? "version".toList fields = some (.string indexVersion))
      (met : walkThrough (optionalField document "modules".toList (.array [])) = .ok entries)
      (items : ∀ modules, Json.field? "modules".toList fields = some (.array modules) → entries = modules)
      (each : List.Forall₂ (fun entry record => normalizeModule entry = .ok record) entries records)
      (openly : documentEntries document = .ok records)
      (ends : loadIndex workspace path = .ok records) : LoadsConfined workspace path document
  | refused {error : IndexError} (openly : documentEntries document = .error (.index error))
      (ends : loadIndex workspace path = .error (.index error)) : LoadsConfined workspace path document

theorem field?_of_isIndexVersion {fields : List (JsonKey × Json)}
    (accepted : isIndexVersion ((Json.field? "version".toList fields).getD .null) = true) :
    Json.field? "version".toList fields = some (.string indexVersion) := by
  cases found : Json.field? "version".toList fields with
  | none =>
      rw [found] at accepted
      cases accepted
  | some version =>
      rw [found] at accepted
      cases version with
      | string version => rw [beq_iff_eq.mp (accepted : (version == indexVersion) = true)]
      | _ => cases accepted

/-- What an index that is loaded looks like. -/
theorem exists_entries_of_indexEntries {document : Json} {records : List Json}
    (loaded : indexEntries document = .ok records) :
    ∃ fields entries, document = .object fields ∧
      Json.field? "version".toList fields = some (.string indexVersion) ∧
      walkThrough (optionalField document "modules".toList (.array [])) = .ok entries ∧
      List.Forall₂ (fun entry record => normalizeModule entry = .ok record) entries records := by
  cases document with
  | object fields =>
      unfold indexEntries at loaded
      dsimp only at loaded
      split at loaded
      · rename_i accepted
        obtain ⟨entries, met, all⟩ := exists_of_bind_eq_ok (eq_ok_of_mapError loaded)
        exact ⟨fields, entries, rfl, field?_of_isIndexVersion accepted, met, forall₂_of_mapM all⟩
      · cases loaded
  | _ => cases loaded

/-- Loading a document of any shape gives the list of its modules or an error of the index, and with open faults
it ends in the same way: no fault of an access escapes. -/
theorem loadIndex_confined {workspace : Workspace} {path : FilePath} {document : Json}
    (holds : workspace.HoldsDocument path document) : LoadsConfined workspace path document := by
  have openly := documentEntries_eq document
  have ends := holds.loadIndex
  cases read : indexEntries document with
  | ok records =>
      rw [read] at openly ends
      obtain ⟨fields, entries, isObject, version, met, each⟩ := exists_entries_of_indexEntries read
      refine .loaded isObject version met (fun modules array => ?_) each openly ends
      rw [isObject, optionalField, array] at met
      exact (Except.ok.inj met).symm
  | error error =>
      rw [read] at openly ends
      exact .refused openly ends

def indexWorkspace (document : Json) : Workspace :=
  ⟨.directory [("m.json".toList, .file (encodeUtf8 document.compact))], []⟩

def indexPath : FilePath := ⟨.here, ["m.json".toList]⟩

theorem holdsDocument_indexWorkspace {document : Json} (exact : Json.Exact Json.nestingLimit document)
    (short : Json.overlongIn? document = none) :
    (indexWorkspace document).HoldsDocument indexPath document := by
  refine ⟨encodeUtf8 document.compact, document.compact, rfl, decodeUtf8?_encodeUtf8 document.compact, ?_⟩
  rw [Json.parse_compact exact, short]
  rfl

def misplacedTextDocument : Json :=
  .object [("version".toList, .string indexVersion),
    ("modules".toList, .array
      [.object [("name".toList, .string "a".toList), ("filepath".toList, .string "a.d".toList)],
        .object [("name".toList, .string "m".toList), ("filepath".toList, .string "m.d".toList),
          ("classes".toList, .string "C".toList)]])]

theorem exact_misplacedTextDocument : Json.Exact Json.nestingLimit misplacedTextDocument := by
  refine exact_object rfl (List.forall_mem_cons.mpr ⟨.string _, List.forall_mem_singleton.mpr ?_⟩)
  refine .array (List.forall_mem_cons.mpr ⟨?_, List.forall_mem_singleton.mpr ?_⟩)
  · exact exact_object rfl (List.forall_mem_cons.mpr ⟨.string _, List.forall_mem_singleton.mpr (.string _)⟩)
  · refine exact_object rfl (List.forall_mem_cons.mpr ⟨.string _, List.forall_mem_cons.mpr ⟨.string _, ?_⟩⟩)
    exact List.forall_mem_singleton.mpr (.string _)

def twoModulesDocument : Json :=
  .object [("version".toList, .string indexVersion),
    ("modules".toList, .array
      [.object [("name".toList, .string "a".toList), ("filepath".toList, .string "x/./a.d".toList)],
        .object [("name".toList, .string "m".toList), ("filepath".toList, .string "m.d".toList),
          ("functions".toList, .array [.object [("name".toList, .string "run".toList)]])]])]

theorem exact_twoModulesDocument : Json.Exact Json.nestingLimit twoModulesDocument := by
  refine exact_object rfl (List.forall_mem_cons.mpr ⟨.string _, List.forall_mem_singleton.mpr ?_⟩)
  refine .array (List.forall_mem_cons.mpr ⟨?_, List.forall_mem_singleton.mpr ?_⟩)
  · exact exact_object rfl (List.forall_mem_cons.mpr ⟨.string _, List.forall_mem_singleton.mpr (.string _)⟩)
  · refine exact_object rfl (List.forall_mem_cons.mpr ⟨.string _, List.forall_mem_cons.mpr ⟨.string _, ?_⟩⟩)
    refine List.forall_mem_singleton.mpr (.array (List.forall_mem_singleton.mpr ?_))
    exact exact_object rfl (List.forall_mem_singleton.mpr (.string _))

/-- One of two documents is refused, the other one is loaded. -/
theorem loadIndex_confined_documents :
    ((indexWorkspace misplacedTextDocument).HoldsDocument indexPath misplacedTextDocument ∧
      LoadsConfined (indexWorkspace misplacedTextDocument) indexPath misplacedTextDocument ∧
      loadIndex (indexWorkspace misplacedTextDocument) indexPath =
        .error (.index (.malformedEntry .wrongType))) ∧
    (indexWorkspace twoModulesDocument).HoldsDocument indexPath twoModulesDocument ∧
      LoadsConfined (indexWorkspace twoModulesDocument) indexPath twoModulesDocument ∧
      (loadIndex (indexWorkspace twoModulesDocument) indexPath).map
          (List.map fun record => optionalField record "filepath".toList .null) =
        .ok [.string "x/a.d".toList, .string "m.d".toList] := by
  have holds := holdsDocument_indexWorkspace exact_misplacedTextDocument rfl
  have holdsToo := holdsDocument_indexWorkspace exact_twoModulesDocument rfl
  refine ⟨⟨holds, loadIndex_confined holds, ?_⟩, holdsToo, loadIndex_confined holdsToo, ?_⟩
  · rw [holds.loadIndex]
    rfl
  · rw [holdsToo.loadIndex]
    rfl

end DocSite
