/-
Reading canonical sources back.

The walk over a module reads the declarations of a canonical source one by one and in order. What it extracts
is the documentation of the tree that was printed, whatever the file is called and however far the bodies of
containers are indented.
-/
import DocSite.Proofs.Canonical.Bodies
import DocSite.Proofs.Canonical.Preamble

namespace DocSite.Canonical

/-! ### Heights -/

theorem height_declaration (comments : Prose) (code : Text) :
    (comments.print ++ [code]).length = comments.height := by
  rw [List.length_append, print_length]
  rfl

theorem length_flatMap {Item : Type} {print : Item → List Text} {height : Item → Nat}
    (heights : ∀ item, (print item).length = height item) (items : List Item) :
    (items.flatMap print).length = (items.map height).sum := by
  rw [List.length_flatMap]
  exact congrArg List.sum (List.map_congr_left fun item _ => heights item)

theorem height_container (indentation : Nat) (comments : Prose) (kind : ContainerKind)
    (name : Identifier) (body : List Text) :
    (printContainer indentation comments kind name body).length =
      comments.height + body.length + 1 := by
  unfold printContainer Prose.height
  simp only [List.length_append, List.length_cons, List.length_map, List.length_nil, print_length]
  omega

theorem height_member (member : Member) : member.print.length = member.height :=
  height_declaration _ _

theorem height_enumMember (member : EnumMember) : member.print.length = member.height :=
  height_declaration _ _

theorem height_function (function : Function) : function.print.length = function.height :=
  height_declaration _ _

theorem height_aggregate (indentation : Nat) (aggregate : Aggregate) :
    (aggregate.print indentation).length = aggregate.height := by
  unfold Aggregate.print Aggregate.height
  rw [height_container, length_flatMap height_member]

theorem height_enum (indentation : Nat) (enum : Enum) :
    (enum.print indentation).length = enum.height := by
  unfold Enum.print Enum.height
  rw [height_container, length_flatMap height_enumMember]

/-! ### Containers -/

theorem numberedLines_container (number indentation : Nat) (comments : Prose) (kind : ContainerKind)
    (name : Identifier) (body : List Text) :
    numberedLines number (printContainer indentation comments kind name body) =
      numberedLines number comments.print ++
        ⟨number + comments.lines.length, headerCode kind name⟩ ::
          (numberedLines (number + comments.height) body ++
            [⟨number + comments.height + body.length, ['\x7d']⟩]) := by
  unfold printContainer
  rw [List.append_assoc, numberedLines_append, print_length, List.cons_append, numberedLines,
    (isCode_header kind name).trimmed, numberedLines_append, numberedLines_indented, List.length_map]
  rfl

theorem bodySegment_header (kind : ContainerKind) (name : Identifier) :
    bodySegment (headerCode kind name) true false = [] := by
  have cut : Text.cutAt? '\x7b' (headerCode kind name) =
      some (kind.keyword ++ ' ' :: name.text ++ [' '], []) := by
    rw [headerCode_eq]
    exact Text.cutAt?_append ((soft_header kind name).not_mem rfl) []
  unfold bodySegment
  rw [cut]
  rfl

theorem scanAggregate_members (aggregate : Aggregate) (comments : List Text)
    (number body closer : Nat) (rest : List Line) :
    scanAggregate aggregate.kind aggregate.name.text comments
        ⟨number, headerCode (.aggregate aggregate.kind) aggregate.name⟩
        (numberedLines body (aggregate.members.flatMap Member.print) ++ ⟨closer, ['\x7d']⟩ :: rest) =
      (some { name := aggregate.name.text
              kind := aggregate.kind
              comments := comments
              methods := (documentAll Member.height Member.document body
                aggregate.members).filterMap AggregateMember.method?
              fields := (documentAll Member.height Member.document body
                aggregate.members).filterMap AggregateMember.field?
              line := number }, rest) := by
  have isCode := isCode_header (.aggregate aggregate.kind) aggregate.name
  obtain ⟨next, _, reads⟩ := reads_all addMembers_nil addMembers_cons height_member reads_member
    aggregate.members body .empty rfl
  have members := reads (⟨closer, ['\x7d']⟩ :: rest)
  rw [openAggregateBody_closer] at members
  have filled : aggregate.name.text.isEmpty = false := aggregate.name.leading.isWord.isEmpty
  have body_ : aggregateBody ⟨number, headerCode (.aggregate aggregate.kind) aggregate.name⟩
      (numberedLines body (aggregate.members.flatMap Member.print) ++ ⟨closer, ['\x7d']⟩ :: rest) =
        (documentAll Member.height Member.document body aggregate.members, rest) := by
    unfold aggregateBody pendingAggregateBody
    dsimp only
    rw [isCode.codeOf, opensBrace_header, braceDelta_header, if_pos rfl]
    unfold aggregateBodyFrom
    rw [show decide ((0 : Int) + 1 ≤ 0) = false from rfl, show (0 : Int) + 1 = 1 from rfl]
    dsimp only
    rw [bodySegment_header, members]
    dsimp only [addMembers]
    rw [List.append_nil]
    rfl
  unfold scanAggregate
  rw [body_]
  dsimp only
  rw [filled]
  rfl

theorem scanEnum_members (enum : Enum) (comments : List Text) (number body closer : Nat)
    (rest : List Line) :
    scanEnum enum.name.text comments ⟨number, headerCode .enum enum.name⟩
        (numberedLines body (enum.members.flatMap EnumMember.print) ++ ⟨closer, ['\x7d']⟩ :: rest) =
      (some { name := enum.name.text
              comments := comments
              members := documentAll EnumMember.height EnumMember.document body enum.members
              line := number }, rest) := by
  have isCode := isCode_header .enum enum.name
  obtain ⟨next, _, reads⟩ := reads_all addMembers_nil addMembers_cons height_enumMember
    reads_enumMember enum.members body .empty rfl
  have members := reads (⟨closer, ['\x7d']⟩ :: rest)
  rw [openEnumBody_closer] at members
  have filled : enum.name.text.isEmpty = false := enum.name.leading.isWord.isEmpty
  have body_ : enumBody ⟨number, headerCode .enum enum.name⟩
      (numberedLines body (enum.members.flatMap EnumMember.print) ++ ⟨closer, ['\x7d']⟩ :: rest) =
        (documentAll EnumMember.height EnumMember.document body enum.members, rest) := by
    unfold enumBody
    rw [isCode.splitLineComment]
    dsimp only
    rw [opensBrace_header, braceDelta_header, if_pos rfl]
    rw [show decide ((1 : Int) ≤ 0) = false from rfl, bodySegment_header]
    dsimp only [List.isEmpty_nil]
    rw [if_pos rfl, members]
    dsimp only [addMembers]
    rw [List.append_nil]
    rfl
  unfold scanEnum
  rw [body_]
  dsimp only
  rw [filled]
  rfl

/-! ### Lines at module scope -/

theorem consumes_moduleEntries : ConsumesComments moduleEntries :=
  fun consumed => moduleEntries_consumed consumed

/-- A line of code is one step of the walk. -/
theorem moduleEntries_code {code : Text} (isCode : IsCode code) {register next : CommentRegister}
    {number : Nat} {rest remaining : List Line} {entries : List ModuleEntry}
    (step : stepCode register ⟨number, code⟩ rest = ⟨entries, next, remaining⟩) :
    moduleEntries register (⟨number, code⟩ :: rest) = entries ++ moduleEntries next remaining := by
  rw [moduleEntries_ignored (isCode.consume? _ _ _), step]

theorem reads_module (declared : ModuleName) (number : Nat) :
    Reads moduleEntries (· ++ ·) (numberedLines number declared.print)
      [.moduleName declared.name.text declared.comments.lines] := by
  intro register clear
  obtain ⟨next, nextClear, attached⟩ := attach_prose clear declared.comments
  refine ⟨next, nextClear, ?_⟩
  intro rest
  have isCode := isCode_module declared
  have filler : isFiller declared.code = false := by
    rw [moduleCode_eq]
    exact isFiller_word isWord_module _
  unfold ModuleName.print
  rw [numberedLines_declaration isCode, List.append_assoc, run_prose consumes_moduleEntries,
    List.singleton_append]
  apply moduleEntries_code isCode
  unfold stepCode
  rw [isCode.splitLineComment]
  dsimp only
  rw [filler, moduleName?_module, attachWith_nil, attached]
  rfl

theorem reads_import (declared : Import) (number : Nat) :
    Reads moduleEntries (· ++ ·) (numberedLines number declared.print)
      [.importLine declared.code] := by
  intro register _
  refine ⟨register.discard, rfl, ?_⟩
  intro rest
  have isCode := isCode_import declared
  obtain ⟨first, behind, equal, isWord, either⟩ := modified_eq_word declared.known isWord_import
    (declared.clause ++ [';'])
  rw [← importCode_eq] at equal
  have noModule : first ≠ "module".toList := by
    rcases either with same | modifier
    · rw [same]
      decide
    · exact ne_of_mem_of_not_mem modifier (by decide)
  have filler : isFiller declared.code = false := by
    rw [equal]
    exact isFiller_word isWord _
  have noName : moduleName? declared.code = none := by
    rw [equal]
    exact moduleName?_word isWord noModule behind
  have imports : isImport declared.code = true := by
    rw [importCode_eq]
    exact isImport_modified declared.known _
  have line : numberedLines number declared.print = [⟨number, declared.code⟩] := by
    unfold Import.print numberedLines numberedLines
    rw [isCode.trimmed]
  rw [line, List.singleton_append]
  apply moduleEntries_code isCode
  unfold stepCode
  rw [isCode.splitLineComment]
  dsimp only
  rw [filler, noName, imports]
  rfl

theorem reads_function (function : Function) (number : Nat) :
    Reads moduleEntries (· ++ ·) (numberedLines number function.print)
      [.function (function.document false number)] := by
  intro register clear
  obtain ⟨next, nextClear, attached⟩ := attach_prose clear function.comments
  refine ⟨next, nextClear, ?_⟩
  intro rest
  have isCode : IsCode function.code := isCode_signature false function
  have leading := function.result.type.leading
  obtain ⟨behind, equal⟩ := code_eq_firstWord false function
  change function.code = function.result.type.text ++ ' ' :: behind at equal
  have filler : isFiller function.code = false := isFiller_signature false function
  have noName : moduleName? function.code = none := by
    rw [equal]
    exact moduleName?_word leading.isWord (leading.ne (by decide)) behind
  have noImport : isImport function.code = false := by
    rw [equal]
    exact isImport_word leading.isWord (leading.not_mem (by decide)) (leading.ne (by decide)) behind
  have noHeader : matchHeader? function.code = none := matchHeader?_signature false function
  have noBlock : opensSkippedBlock function.code = false := by
    rw [equal]
    exact opensSkippedBlock_word leading.isWord (leading.not_mem (by decide)) behind
  have isSignature : isFunction function.code = true := isFunction_signature false function
  have parsed : parseFunction? function.code function.comments.lines
      (number + function.comments.lines.length : Nat) = some (function.document false number) :=
    parseFunction?_signature false function number
  have skipped (line : Nat) : skipBody ⟨line, function.code⟩ rest = rest :=
    skipBody_signature false function line rest
  unfold Function.print
  rw [numberedLines_declaration isCode, List.append_assoc, run_prose consumes_moduleEntries,
    List.singleton_append]
  apply moduleEntries_code isCode
  unfold stepCode
  rw [isCode.splitLineComment]
  dsimp only
  rw [filler, noName, noImport, noHeader, noBlock, isSignature, attachWith_nil, attached, skipped]
  dsimp only
  rw [parsed]
  rfl

/-- The line of a header starts the scan of its container. -/
theorem stepCode_header (kind : ContainerKind) (name : Identifier) (number : Nat)
    (register : CommentRegister) (rest : List Line) :
    stepCode register ⟨number, headerCode kind name⟩ rest =
      stepContainer ⟨kind, ' ' :: (name.text ++ [' ', '\x7b'])⟩ register
        ⟨number, headerCode kind name⟩ rest := by
  have isCode := isCode_header kind name
  have isWord := isWord_keyword kind
  have equal : headerCode kind name = kind.keyword ++ ' ' :: (name.text ++ [' ', '\x7b']) := by
    unfold headerCode
    rw [List.append_assoc, List.cons_append]
  have other : kind.keyword ∉ "module".toList :: "import".toList :: importModifiers := by
    cases kind with
    | enum => decide
    | aggregate kind => cases kind <;> decide
  simp only [List.mem_cons, not_or] at other
  have filler : isFiller (headerCode kind name) = false := by
    rw [equal]
    exact isFiller_word isWord _
  have noName : moduleName? (headerCode kind name) = none := by
    rw [equal]
    exact moduleName?_word isWord other.1 _
  have noImport : isImport (headerCode kind name) = false := by
    rw [equal]
    exact isImport_word isWord other.2.2 other.2.1 _
  unfold stepCode
  rw [isCode.splitLineComment]
  dsimp only
  rw [filler, noName, noImport, matchHeader?_header]
  rfl

theorem reads_aggregate (indentation : Nat) (aggregate : Aggregate) (number : Nat) :
    Reads moduleEntries (· ++ ·) (numberedLines number (aggregate.print indentation))
      [.aggregate (aggregate.document number)] := by
  intro register clear
  obtain ⟨next, nextClear, attached⟩ := attach_prose clear aggregate.comments
  refine ⟨next, nextClear, ?_⟩
  intro rest
  unfold Aggregate.print
  rw [numberedLines_container, List.append_assoc, run_prose consumes_moduleEntries,
    List.cons_append, List.append_assoc, List.singleton_append]
  apply moduleEntries_code (isCode_header _ _)
  rw [stepCode_header]
  unfold stepContainer
  dsimp only
  rw [name_header, pending_prose clear, attached, scanAggregate_members]
  rfl

theorem reads_enum (indentation : Nat) (enum : Enum) (number : Nat) :
    Reads moduleEntries (· ++ ·) (numberedLines number (enum.print indentation))
      [.enum (enum.document number)] := by
  intro register clear
  obtain ⟨next, nextClear, attached⟩ := attach_prose clear enum.comments
  refine ⟨next, nextClear, ?_⟩
  intro rest
  unfold Enum.print
  rw [numberedLines_container, List.append_assoc, run_prose consumes_moduleEntries,
    List.cons_append, List.append_assoc, List.singleton_append]
  apply moduleEntries_code (isCode_header _ _)
  rw [stepCode_header]
  unfold stepContainer
  dsimp only
  rw [name_header, pending_prose clear, attached, scanEnum_members]
  rfl

/-! ### One declaration to a line -/

theorem oneLine_declaration {comments : Prose} {code : Text} (oneLine : Text.OneLine code) :
    ∀ text ∈ comments.print ++ [code], Text.OneLine text := by
  intro text member
  rcases List.mem_append.mp member with inComment | isCode
  · obtain ⟨line, inside, equal⟩ := List.mem_map.mp inComment
    rw [← equal]
    exact .cons rfl (.cons rfl (.cons rfl (.cons rfl (comments.oneLine line inside))))
  · rw [List.mem_singleton.mp isCode]
    exact oneLine

theorem oneLine_signature (isPrivate : Bool) (function : Function) :
    Text.OneLine (privacy isPrivate ++ function.code) := by
  have front : Soft (function.front isPrivate) :=
    (soft_privacy isPrivate).append function.result.soft
  have closer : Text.OneLine [')', ';'] := .cons rfl (.cons rfl Text.oneLine_nil)
  rw [privacy_append_code]
  exact front.oneLine.append (.cons rfl ((soft_inside function).oneLine.append closer))

theorem oneLine_member (member : Member) : Text.OneLine member.code := by
  cases member with
  | field isPrivate comments declared =>
      have soft : Soft (privacy isPrivate ++ declared.text ++ [';']) :=
        ((soft_privacy isPrivate).append declared.soft).append (.cons rfl soft_nil)
      exact soft.oneLine
  | method isPrivate function => exact oneLine_signature isPrivate function

theorem oneLine_enumMember (member : EnumMember) : Text.OneLine member.code := by
  have soft : Soft (member.piece ++ [',']) := (soft_piece member).append (.cons rfl soft_nil)
  rw [enumCode_eq]
  exact soft.oneLine

theorem oneLine_container {indentation : Nat} {comments : Prose} {kind : ContainerKind}
    {name : Identifier} {body : List Text} (oneLine : ∀ text ∈ body, Text.OneLine text) :
    ∀ text ∈ printContainer indentation comments kind name body, Text.OneLine text := by
  have header : Text.OneLine (headerCode kind name) := by
    rw [headerCode_eq]
    exact (soft_header kind name).oneLine.append (.cons rfl Text.oneLine_nil)
  intro text member
  unfold printContainer at member
  rw [List.append_assoc] at member
  rcases List.mem_append.mp member with inComment | behind
  · exact oneLine_declaration header text (List.mem_append_left _ inComment)
  · rcases List.mem_cons.mp behind with isHeader | further
    · rw [isHeader]
      exact header
    · rcases List.mem_append.mp further with inBody | closer
      · obtain ⟨line, inside, equal⟩ := List.mem_map.mp inBody
        have spaces : Text.OneLine (List.replicate indentation ' ') := by
          intro character blank
          rw [List.eq_of_mem_replicate blank]
          rfl
        rw [← equal]
        exact spaces.append (oneLine line inside)
      · rw [List.mem_singleton.mp closer]
        exact .cons rfl Text.oneLine_nil

theorem oneLine_flatMap {Item : Type} {print : Item → List Text}
    (oneLine : ∀ item, ∀ text ∈ print item, Text.OneLine text) (items : List Item) :
    ∀ text ∈ items.flatMap print, Text.OneLine text := by
  intro text member
  obtain ⟨item, _, inside⟩ := List.mem_flatMap.mp member
  exact oneLine item text inside

theorem oneLine_tree (indentation : Nat) (tree : Tree) :
    ∀ text ∈ tree.lines indentation, Text.OneLine text := by
  have modules : ∀ declared : ModuleName, ∀ text ∈ declared.print, Text.OneLine text := by
    intro declared
    apply oneLine_declaration
    have soft : Soft ("module".toList ++ ' ' :: (declared.name.text ++ [';'])) :=
      (soft_of_names isWord_module.names).append
        (.cons rfl ((soft_dotted declared.name).append (.cons rfl soft_nil)))
    rw [moduleCode_eq]
    exact soft.oneLine
  have imports : ∀ declared : Import, ∀ text ∈ declared.print, Text.OneLine text := by
    intro declared text member
    rw [List.mem_singleton.mp member]
    exact (soft_import declared).oneLine
  have aggregates : ∀ aggregate : Aggregate, ∀ text ∈ aggregate.print indentation,
      Text.OneLine text := fun aggregate =>
    oneLine_container (oneLine_flatMap (fun member => oneLine_declaration (oneLine_member member)) _)
  have enums : ∀ enum : Enum, ∀ text ∈ enum.print indentation, Text.OneLine text := fun enum =>
    oneLine_container
      (oneLine_flatMap (fun member => oneLine_declaration (oneLine_enumMember member)) _)
  have functions : ∀ function : Function, ∀ text ∈ function.print, Text.OneLine text :=
    fun function => oneLine_declaration (oneLine_signature false function)
  intro text member
  unfold Tree.lines at member
  simp only [List.mem_append] at member
  rcases member with (((declared | imported) | aggregate) | enum) | function
  · exact oneLine_flatMap modules _ text declared
  · exact oneLine_flatMap imports _ text imported
  · exact oneLine_flatMap aggregates _ text aggregate
  · exact oneLine_flatMap enums _ text enum
  · exact oneLine_flatMap functions _ text function

/-! ### Whole sources -/

theorem documentAll_map {Item Document Entry : Type} {height : Item → Nat}
    (document : Nat → Item → Document) (entry : Document → Entry) (number : Nat)
    (items : List Item) :
    documentAll height (fun number item => entry (document number item)) number items =
      (documentAll height document number items).map entry := by
  induction items generalizing number with
  | nil => rfl
  | cons item items ih =>
      unfold documentAll
      rw [ih, List.map_cons]

theorem documentAll_const {Item Document : Type} {height : Item → Nat} (document : Item → Document)
    (number : Nat) (items : List Item) :
    documentAll height (fun _ => document) number items = items.map document := by
  induction items generalizing number with
  | nil => rfl
  | cons item items ih =>
      unfold documentAll
      rw [ih, List.map_cons]

def Tree.entries (tree : Tree) : List ModuleEntry :=
  let imports := 1 + (tree.declared.map fun declared => declared.comments.height).getD 0
  let aggregates := imports + tree.imports.length
  let enums := aggregates + (tree.aggregates.map Aggregate.height).sum
  let functions := enums + (tree.enums.map Enum.height).sum
  tree.declared.toList.map (fun declared =>
      ModuleEntry.moduleName declared.name.text declared.comments.lines) ++
    tree.imports.map (fun declared => ModuleEntry.importLine declared.code) ++
    (documentAll Aggregate.height Aggregate.document aggregates tree.aggregates).map
      ModuleEntry.aggregate ++
    (documentAll Enum.height Enum.document enums tree.enums).map ModuleEntry.enum ++
    (documentAll Function.height (Function.document false) functions tree.functions).map
      ModuleEntry.function

/-- The documentation of the entries is the documentation of the tree. -/
theorem ofEntries_entries (file : FilePath) (tree : Tree) :
    ModuleDoc.ofEntries file tree.entries = tree.document file := by
  unfold ModuleDoc.ofEntries Tree.document Tree.entries declaredModule?
  simp only [List.filterMap_append, List.filterMap_map, Function.comp_def, List.filterMap_some,
    List.filterMap_none, List.append_nil, List.nil_append, List.filterMap_eq_map']
  cases tree.declared with
  | none => rfl
  | some declared => rfl

/-- The walk over the lines of a tree records its entries. -/
theorem moduleEntries_lines (indentation : Nat) (tree : Tree) :
    moduleEntries .empty (numberedLines 1 (tree.lines indentation)) = tree.entries := by
  have add_nil (entries : List ModuleEntry) : [] ++ entries = entries := rfl
  have add_cons (first : ModuleEntry) (further entries : List ModuleEntry) :
      [first] ++ (further ++ entries) = first :: further ++ entries := rfl
  have heights (declared : ModuleName) : declared.print.length = declared.comments.height :=
    height_declaration _ _
  have modules : (tree.declared.toList.flatMap ModuleName.print).length =
      (tree.declared.map fun declared => declared.comments.height).getD 0 := by
    rw [length_flatMap heights]
    cases tree.declared <;> rfl
  have imports : (tree.imports.flatMap Import.print).length = tree.imports.length := by
    induction tree.imports with
    | nil => rfl
    | cons declared rest ih =>
        rw [List.flatMap_cons, List.length_append, ih, List.length_cons]
        exact Nat.add_comm 1 rest.length
  unfold Tree.lines Tree.entries
  rw [List.append_assoc, List.append_assoc, List.append_assoc, numberedLines_append,
    numberedLines_append, numberedLines_append, numberedLines_append, modules, imports,
    length_flatMap (height_aggregate indentation), length_flatMap (height_enum indentation)]
  dsimp only
  generalize 1 + (tree.declared.map fun declared => declared.comments.height).getD 0 = behindModule
  generalize behindModule + tree.imports.length = behindImports
  generalize behindImports + (tree.aggregates.map Aggregate.height).sum = behindAggregates
  generalize behindAggregates + (tree.enums.map Enum.height).sum = behindEnums
  obtain ⟨first, firstClear, readModule⟩ := reads_all add_nil add_cons heights reads_module
    tree.declared.toList 1 .empty rfl
  obtain ⟨second, secondClear, readImports⟩ := reads_all add_nil add_cons (fun _ => rfl)
    reads_import tree.imports behindModule first firstClear
  obtain ⟨third, thirdClear, readAggregates⟩ := reads_all add_nil add_cons
    (height_aggregate indentation) (reads_aggregate indentation) tree.aggregates behindImports
    second secondClear
  obtain ⟨fourth, fourthClear, readEnums⟩ := reads_all add_nil add_cons (height_enum indentation)
    (reads_enum indentation) tree.enums behindAggregates third thirdClear
  obtain ⟨fifth, _, readFunctions⟩ := reads_all add_nil add_cons height_function reads_function
    tree.functions behindEnums fourth fourthClear
  have last := readFunctions []
  have finished : moduleEntries fifth [] = [] := by
    rw [moduleEntries]
  rw [List.append_nil] at last
  rw [readModule, readImports, readAggregates, readEnums, last, finished, documentAll_const,
    documentAll_const, documentAll_map Aggregate.document, documentAll_map Enum.document,
    documentAll_map (Function.document false), List.append_nil, List.append_assoc,
    List.append_assoc, List.append_assoc]

/-- The documentation extracted from a canonical source is that of the tree that was printed. -/
theorem extractModule_print (indentation : Nat) (file : FilePath) (tree : Tree) :
    extractModule file (tree.print indentation) = tree.document file := by
  unfold extractModule extractLines Tree.print
  rw [sourceLines_unlines (oneLine_tree indentation tree), moduleEntries_lines, ofEntries_entries]

/-- A module with a declaration of every kind. -/
def shopTree : Tree :=
  let shelf : Identifier := ⟨"Shelf".toList, by decide, by decide, by decide⟩
  let count : Identifier := ⟨"count".toList, by decide, by decide, by decide⟩
  let brief : Prose := ⟨["Brief.".toList], by decide, by decide, by decide, by decide, by decide⟩
  let prose : Prose := ⟨["What fits.".toList, [], "And more.".toList], by decide, by decide, by decide, by decide,
    by decide⟩
  let long : TypeName := .primitive "long".toList (by decide)
  { declared := some ⟨prose, shelf, [count]⟩
    imports := [⟨["public".toList], by decide, "std.conv : to".toList, List.all_eq_true.mp rfl⟩]
    aggregates := [⟨brief, .structType, shelf, [.field true brief ⟨long, count⟩,
      .method false ⟨prose, ⟨.named shelf, count⟩, [⟨long, count⟩, ⟨.named shelf, shelf⟩]⟩]⟩]
    enums := [⟨brief, count, [⟨prose, shelf, some (.number "-2".toList (by decide))⟩, ⟨brief, count, none⟩]⟩]
    functions := [⟨brief, ⟨long, count⟩, []⟩] }

theorem extractModule_print_shopTree :
    extractModule ⟨.here, ["shop.d".toList]⟩ (Text.unlines
      (["/// What fits.", "/// ", "/// And more.", "module Shelf.count;", "public import std.conv : to;",
        "/// Brief.", "struct Shelf \x7b", "  /// Brief.", "  private long count;",
        "  /// What fits.", "  /// ", "  /// And more.", "  Shelf count(long count, Shelf Shelf);", "\x7d",
        "/// Brief.", "enum count \x7b", "  /// What fits.", "  /// ", "  /// And more.", "  Shelf = -2,",
        "  /// Brief.", "  count,", "\x7d", "/// Brief.", "long count();"].map String.toList)) =
      shopTree.document ⟨.here, ["shop.d".toList]⟩ := by
  have printed : shopTree.lines 2 =
      ["/// What fits.", "/// ", "/// And more.", "module Shelf.count;", "public import std.conv : to;",
        "/// Brief.", "struct Shelf \x7b", "  /// Brief.", "  private long count;",
        "  /// What fits.", "  /// ", "  /// And more.", "  Shelf count(long count, Shelf Shelf);", "\x7d",
        "/// Brief.", "enum count \x7b", "  /// What fits.", "  /// ", "  /// And more.", "  Shelf = -2,",
        "  /// Brief.", "  count,", "\x7d", "/// Brief.", "long count();"].map String.toList := by
    decide
  rw [← printed]
  exact extractModule_print 2 _ shopTree

end DocSite.Canonical
