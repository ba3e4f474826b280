/-
The markup of declarations.

Every part of a page closes the elements that it opens, whatever the documented texts are, and it shows the
identifiers of its anchors: a function the anchor it is given, an aggregate its name and the anchors of its
methods, an enum its name, and everything else nothing.
-/
import DocSite.Page.Render
import DocSite.Proofs.Page.Comments

namespace DocSite

/-! ### Code -/

/-- A tag with one attribute is written around the value. -/
theorem startTag_eq {front behind : Text} (tag : Tag) (name : AttributeName) (value : Text)
    (opening : front = '<' :: tag.name ++ (' ' :: name.text ++ ['=', '"'])) (ending : behind = ['"', '>']) :
    front ++ value ++ behind = startTag tag [(name, value)] := by
  rw [opening, ending, startTag, writeAttributes, List.flatMap_cons, List.flatMap_nil]
  simp only [List.append_assoc, List.cons_append, List.nil_append]

section Parts

variable {opened : List Tag}

theorem shows_link (address text : Text) : Shows opened
    ("<a href=\"".toList ++ escape address ++ "\">".toList ++ escape text ++ "</a>".toList) opened [] := by
  have written : "<a href=\"".toList ++ escape address ++ "\">".toList =
      startTag .anchor [(.href, escape address)] := startTag_eq .anchor .href _ (by decide) (by decide)
  have plain : ∀ assigned ∈ [(AttributeName.href, escape address)], IsPlain assigned.2 :=
    List.forall_mem_singleton.mpr (isPlain_escape address)
  have closes : Shows (.anchor :: opened) "</a>".toList opened [] :=
    .fixed [.stop .anchor] (by decide) (by decide) rfl
  rw [written]
  exact ((Shows.start .anchor plain).andThen (.escape text)).andThen closes

theorem shows_linkify (links : TypeLinks) (code : Text) : Shows opened (linkify links code) opened [] := by
  have each : ∀ run ∈ wordRuns code, Shows opened (linkRun links run) opened [] := by
    intro run _
    unfold linkRun
    cases linkOf? links run with
    | none => exact .escape run
    | some address => exact shows_link address run
  exact (Shows.flatMap each).telling (List.flatMap_eq_nil_iff.mpr fun _ _ => rfl)

theorem shows_join {parts : List Text} (each : ∀ part ∈ parts, Shows opened part opened []) :
    Shows opened (Text.join ", ".toList parts) opened [] := by
  have comma : Shows opened ", ".toList opened [] := .text ⟨by decide, by decide⟩
  induction parts with
  | nil => exact .nil
  | cons part parts ih =>
      obtain ⟨own, others⟩ := List.forall_mem_cons.mp each
      cases parts with
      | nil => exact own
      | cons next parts => exact (own.andThen comma).andThen (ih others)

/-! ### Functions and fields -/

theorem shows_divisionEnd : Shows (.division :: opened) "</div>\n".toList opened [] :=
  .fixed [.stop .division, .text ['\n']] (by decide) (by decide) rfl

theorem shows_spanEnd : Shows (.span :: opened) "</span>".toList opened [] :=
  .fixed [.stop .span] (by decide) (by decide) rfl

theorem shows_docPart (comments : List Text) : Shows opened (docPart comments) opened [] := by
  unfold docPart
  cases comments.isEmpty with
  | true => exact .nil
  | false =>
      have opens : Shows opened "<div class=\"doc\">\n".toList (.division :: opened) [] :=
        .fixed [.start .division "doc".toList, .text ['\n']] (by decide) (by decide) rfl
      exact (opens.andThen (shows_formatComment comments)).andThen shows_divisionEnd

theorem shows_returnTypePart (links : TypeLinks) (returnType : Text) :
    Shows opened (returnTypePart links returnType) opened [] := by
  unfold returnTypePart
  cases returnType.isEmpty with
  | true => exact .nil
  | false =>
      have opens : Shows opened "<span class=\"return-type\">".toList (.span :: opened) [] :=
        .fixed [.start .span "return-type".toList] (by decide) (by decide) rfl
      have closes : Shows (.span :: opened) "</span> ".toList opened [] :=
        .fixed [.stop .span, .text [' ']] (by decide) (by decide) rfl
      exact (opens.andThen (shows_linkify links returnType)).andThen closes

theorem shows_signaturePart (links : TypeLinks) (function : FunctionDoc) :
    Shows opened (signaturePart links function) opened [] := by
  have opens : Shows opened "<div class=\"signature\">".toList (.division :: opened) [] :=
    .fixed [.start .division "signature".toList] (by decide) (by decide) rfl
  have name : Shows (.division :: opened) "<span class=\"name\">".toList (.span :: .division :: opened) [] :=
    .fixed [.start .span "name".toList] (by decide) (by decide) rfl
  have list : Shows (.division :: opened) "<span class=\"params\">(".toList (.span :: .division :: opened) [] :=
    .fixed [.start .span "params".toList, .text ['(']] (by decide) (by decide) rfl
  have closes : Shows (.span :: .division :: opened) ")</span></div>\n".toList opened [] :=
    .fixed [.text [')'], .stop .span, .stop .division, .text ['\n']] (by decide) (by decide) rfl
  have parameters : ∀ part ∈ function.parameters.map (linkify links),
      Shows (.span :: .division :: opened) part (.span :: .division :: opened) [] := by
    intro part member
    obtain ⟨parameter, -, rfl⟩ := List.mem_map.mp member
    exact shows_linkify links parameter
  exact ((((((opens.andThen (shows_returnTypePart links _)).andThen name).andThen (.escape _)).andThen
    shows_spanEnd).andThen list).andThen (shows_join parameters)).andThen closes

theorem isPlain_privateClass (isPrivate : Bool) : IsPlain (privateClass isPrivate) := by
  cases isPrivate <;> decide

theorem shows_functionPart (links : TypeLinks) (anchor : Text) (function : FunctionDoc) :
    Shows opened (functionPart links anchor function) opened [escape anchor] := by
  have written : "<div id=\"".toList ++ escape anchor ++ "\" class=\"entry function".toList ++
      privateClass function.isPrivate ++ "\">\n".toList =
        startTag .division [(.id, escape anchor),
          (.className, "entry function".toList ++ privateClass function.isPrivate)] ++ ['\n'] := by
    have opening : "<div id=\"".toList = '<' :: Tag.division.name ++ (' ' :: AttributeName.id.text ++ ['=', '"']) := by
      decide
    have between : "\" class=\"entry function".toList =
        '"' :: ' ' :: AttributeName.className.text ++ '=' :: '"' :: "entry function".toList := by decide
    have ending : "\">\n".toList = ['"', '>', '\n'] := by decide
    rw [opening, between, ending, startTag, writeAttributes, List.flatMap_cons, List.flatMap_cons,
      List.flatMap_nil]
    simp only [List.append_assoc, List.cons_append, List.nil_append]
  have plain : ∀ assigned ∈ [(AttributeName.id, escape anchor),
      (.className, "entry function".toList ++ privateClass function.isPrivate)], IsPlain assigned.2 := by
    simp only [List.forall_mem_cons]
    exact ⟨isPlain_escape anchor, IsPlain.append (by decide) (isPlain_privateClass _), nofun⟩
  have lineBreak : Shows (.division :: opened) ['\n'] (.division :: opened) [] :=
    .text ⟨by decide, by decide⟩
  unfold functionPart
  rw [written]
  exact ((((Shows.start .division plain).append lineBreak).append (shows_signaturePart links function)).append
    (shows_docPart function.comments)).append shows_divisionEnd

theorem shows_fieldPart (links : TypeLinks) (field : FieldDoc) :
    Shows opened (fieldPart links field) opened [] := by
  have written : "<div class=\"field".toList ++ privateClass field.isPrivate ++ "\">\n".toList =
      startTag .division [(.className, "field".toList ++ privateClass field.isPrivate)] ++ ['\n'] := by
    have opening : "<div class=\"field".toList = "<div class=\"".toList ++ "field".toList := by decide
    have ending : "\">\n".toList = "\">".toList ++ ['\n'] := by decide
    have tag := @startTag_eq "<div class=\"".toList "\">".toList .division .className
      ("field".toList ++ privateClass field.isPrivate) (by decide) (by decide)
    rw [opening, ending, ← tag]
    simp only [List.append_assoc]
  have plain : ∀ assigned ∈ [(AttributeName.className, "field".toList ++ privateClass field.isPrivate)],
      IsPlain assigned.2 :=
    List.forall_mem_singleton.mpr (IsPlain.append (by decide) (isPlain_privateClass _))
  have lineBreak : Shows (.division :: opened) ['\n'] (.division :: opened) [] :=
    .text ⟨by decide, by decide⟩
  have declares : Shows (.division :: opened) "<div class=\"declaration\">".toList
      (.division :: .division :: opened) [] :=
    .fixed [.start .division "declaration".toList] (by decide) (by decide) rfl
  unfold fieldPart
  rw [written]
  exact ((((((Shows.start .division plain).andThen lineBreak).andThen declares).andThen
    (shows_linkify links _)).andThen shows_divisionEnd).andThen (shows_docPart field.comments)).andThen
      shows_divisionEnd

/-- Parts under a heading show what the parts show. -/
theorem shows_group {heading : String} {Item : Type} {items : List Item} {write : Item → Text}
    {ids : Item → List Text} (plain : '<' ∉ heading.toList ∧ '>' ∉ heading.toList)
    (each : ∀ item ∈ items, Shows opened (write item) opened (ids item)) :
    Shows opened (group heading (items.map write)) opened (items.flatMap ids) := by
  unfold group
  cases items with
  | nil => exact .nil
  | cons item items =>
      have opens : Shows opened "<h4>".toList (.heading4 :: opened) [] :=
        .fixed [.bare .heading4] (by decide) (by decide) rfl
      have closes : Shows (.heading4 :: opened) "</h4>\n".toList opened [] :=
        .fixed [.stop .heading4, .text ['\n']] (by decide) (by decide) rfl
      rw [List.map_cons, List.isEmpty_cons, if_neg Bool.false_ne_true, ← List.map_cons, ← List.flatMap_def]
      exact ((opens.andThen (.text plain)).andThen closes).andThen (.flatMap each)

/-! ### Aggregates and enums -/

/-- The heading of a type, which bears its anchor. -/
theorem shows_typeHeading {front kind : Text} (name : Text) (className : Text) (plainClass : IsPlain className)
    (kindShown : ∀ {opened}, Shows opened kind opened [])
    (written : front = startTag .division [(.className, className)] ++ '\n' ::
      '<' :: (Tag.heading3.name ++ ' ' :: (AttributeName.id.text ++ ['=', '"']))) :
    Shows opened (front ++ escape name ++ "\"><span class=\"kind\">".toList ++ kind ++ "</span>".toList ++
      escape name ++ "</h3>\n".toList) (.division :: opened) [escape name] := by
  have whole : front ++ escape name ++ "\"><span class=\"kind\">".toList =
      startTag .division [(.className, className)] ++ ['\n'] ++
        startTag .heading3 [(.id, escape name)] ++ "<span class=\"kind\">".toList := by
    have named : ('<' :: (Tag.heading3.name ++ ' ' :: (AttributeName.id.text ++ ['=', '"']))) ++ escape name ++
        "\">".toList = startTag .heading3 [(.id, escape name)] := startTag_eq _ _ _ rfl (by decide)
    have kind : "\"><span class=\"kind\">".toList = "\">".toList ++ "<span class=\"kind\">".toList := by decide
    rw [written, kind, ← named]
    simp only [List.append_assoc, List.cons_append, List.nil_append]
  have plain : ∀ assigned ∈ [(AttributeName.className, className)], IsPlain assigned.2 :=
    List.forall_mem_singleton.mpr plainClass
  have lineBreak : Shows (.division :: opened) ['\n'] (.division :: opened) [] :=
    .text ⟨by decide, by decide⟩
  have named : ∀ assigned ∈ [(AttributeName.id, escape name)], IsPlain assigned.2 :=
    List.forall_mem_singleton.mpr (isPlain_escape name)
  have span : Shows (.heading3 :: .division :: opened) "<span class=\"kind\">".toList
      (.span :: .heading3 :: .division :: opened) [] :=
    .fixed [.start .span "kind".toList] (by decide) (by decide) rfl
  have closes : Shows (.heading3 :: .division :: opened) "</h3>\n".toList (.division :: opened) [] :=
    .fixed [.stop .heading3, .text ['\n']] (by decide) (by decide) rfl
  rw [whole]
  exact (((((((Shows.start .division plain).andThen lineBreak).andThen
    (Shows.start .heading3 named)).append span).append kindShown).append shows_spanEnd).append
      (.escape name)).append closes

def AggregateDoc.shownAnchors (aggregate : AggregateDoc) : List Text :=
  aggregate.name :: ((aggregate.methods.filter (·.isConstructor)) ++
    aggregate.methods.filter fun method => !method.isConstructor).map fun method =>
      methodAnchor aggregate.name method.name

theorem shows_aggregatePart (links : TypeLinks) (aggregate : AggregateDoc) :
    Shows opened (aggregatePart links aggregate) opened (aggregate.shownAnchors.map escape) := by
  have heading := @shows_typeHeading opened "<div class=\"entry class\">\n<h3 id=\"".toList
    (escape aggregate.kind.keyword) aggregate.name "entry class".toList (by decide) (.escape _) (by decide)
  have fields : Shows (.division :: opened) (group "Fields" (aggregate.fields.map (fieldPart links)))
      (.division :: opened) [] := by
    have each : ∀ field ∈ aggregate.fields, Shows (.division :: opened) (fieldPart links field)
        (.division :: opened) [] := fun field _ => shows_fieldPart links field
    exact (shows_group (by decide) each).telling (List.flatMap_eq_nil_iff.mpr fun _ _ => rfl)
  have methods (heading : String) (plain : '<' ∉ heading.toList ∧ '>' ∉ heading.toList)
      (items : List FunctionDoc) : Shows (.division :: opened) (group heading (items.map fun method =>
        functionPart links (methodAnchor aggregate.name method.name) method)) (.division :: opened)
          (items.map fun method => escape (methodAnchor aggregate.name method.name)) :=
    (shows_group plain fun method _ => shows_functionPart links _ method).telling List.map_eq_flatMap.symm
  have whole := ((((heading.append (shows_docPart aggregate.comments)).append fields).append
    (methods "Constructors" (by decide) (aggregate.methods.filter (·.isConstructor)))).append
      (methods "Methods" (by decide) (aggregate.methods.filter fun method => !method.isConstructor))).append
        shows_divisionEnd
  refine whole.telling ?_
  simp only [AggregateDoc.shownAnchors, List.map_cons, List.map_append, List.map_map, List.append_nil,
    List.cons_append, List.nil_append]
  rfl

theorem shows_enumMemberPart (member : EnumMemberDoc) : Shows opened (enumMemberPart member) opened [] := by
  have opens : Shows opened "<div class=\"declaration\"><span class=\"name\">".toList
      (.span :: .division :: opened) [] :=
    .fixed [.start .division "declaration".toList, .start .span "name".toList] (by decide) (by decide) rfl
  have value : Shows (.division :: opened) (valuePart member.value) (.division :: opened) [] := by
    unfold valuePart
    cases member.value.isEmpty with
    | true => exact .nil
    | false =>
        have begins : Shows (.division :: opened) " = <span class=\"value\">".toList
            (.span :: .division :: opened) [] :=
          .fixed [.text " = ".toList, .start .span "value".toList] (by decide) (by decide) rfl
        exact (begins.andThen (.escape _)).andThen shows_spanEnd
  exact ((((opens.andThen (.escape member.name)).andThen shows_spanEnd).andThen value).andThen
    shows_divisionEnd).andThen (shows_docPart member.comments)

theorem shows_enumPart (enum : EnumDoc) : Shows opened (enumPart enum) opened [escape enum.name] := by
  have heading := @shows_typeHeading opened "<div class=\"entry enum\">\n<h3 id=\"".toList "enum".toList enum.name
    "entry enum".toList (by decide) (.text ⟨by decide, by decide⟩) (by decide)
  have members : Shows (.division :: opened) (group "Members" (enum.members.map enumMemberPart))
      (.division :: opened) [] := by
    have each : ∀ member ∈ enum.members, Shows (.division :: opened) (enumMemberPart member)
        (.division :: opened) [] := fun member _ => shows_enumMemberPart member
    exact (shows_group (by decide) each).telling (List.flatMap_eq_nil_iff.mpr fun _ _ => rfl)
  have kind : "\"><span class=\"kind\">enum</span>".toList =
      "\"><span class=\"kind\">".toList ++ "enum".toList ++ "</span>".toList := by decide
  unfold enumPart
  rw [kind, ← List.append_assoc, ← List.append_assoc]
  exact ((heading.append (shows_docPart enum.comments)).append members).append shows_divisionEnd

/-! ### Pages -/

/-- A section shows what the parts in it show. -/
theorem shows_sectionOf {heading : String} {Item : Type} {items : List Item} {write : Item → Text}
    {ids : Item → List Text} (plain : '<' ∉ heading.toList ∧ '>' ∉ heading.toList)
    (each : ∀ item ∈ items, ∀ opened, Shows opened (write item) opened (ids item)) :
    Shows opened (sectionOf heading (items.map write)) opened (items.flatMap ids) := by
  unfold sectionOf
  cases items with
  | nil => exact .nil
  | cons item items =>
      have opens : Shows opened "<section>\n<h2>".toList (.heading2 :: .section :: opened) [] :=
        .fixed [.bare .section, .text ['\n'], .bare .heading2] (by decide) (by decide) rfl
      have begins : Shows (.heading2 :: .section :: opened) "</h2>\n".toList (.section :: opened) [] :=
        .fixed [.stop .heading2, .text ['\n']] (by decide) (by decide) rfl
      have closes : Shows (.section :: opened) "</section>\n".toList opened [] :=
        .fixed [.stop .section, .text ['\n']] (by decide) (by decide) rfl
      rw [List.map_cons, List.isEmpty_cons, if_neg Bool.false_ne_true, ← List.map_cons, ← List.flatMap_def]
      have inside := Shows.flatMap fun inner member => each inner member (.section :: opened)
      exact ((((opens.andThen (.text plain)).andThen begins).andThen inside).append closes).telling
        (List.append_nil _)

theorem shows_moduleDocPart (comments : List Text) : Shows opened (moduleDocPart comments) opened [] := by
  unfold moduleDocPart
  cases comments.isEmpty with
  | true => exact .nil
  | false =>
      have opens : Shows opened "<section class=\"module-doc\">\n".toList (.section :: opened) [] :=
        .fixed [.start .section "module-doc".toList, .text ['\n']] (by decide) (by decide) rfl
      have closes : Shows (.section :: opened) "</section>\n".toList opened [] :=
        .fixed [.stop .section, .text ['\n']] (by decide) (by decide) rfl
      exact (opens.andThen (shows_formatComment comments)).andThen closes

def ModuleDoc.shownAnchors (module : ModuleDoc) : List Text :=
  module.aggregates.flatMap AggregateDoc.shownAnchors ++ module.enums.map (·.name) ++
    module.functions.map (·.name)

theorem shows_moduleContent (links : TypeLinks) (module : ModuleDoc) :
    Shows opened (moduleContent links module) opened (module.shownAnchors.map escape) := by
  have aggregates : Shows opened (sectionOf "Classes" (module.aggregates.map (aggregatePart links))) opened
      (module.aggregates.flatMap fun aggregate => aggregate.shownAnchors.map escape) :=
    shows_sectionOf (by decide) fun aggregate _ _ => shows_aggregatePart links aggregate
  have enums : Shows opened (sectionOf "Enums" (module.enums.map enumPart)) opened
      (module.enums.flatMap fun enum => [escape enum.name]) :=
    shows_sectionOf (by decide) fun enum _ _ => shows_enumPart enum
  have functions : Shows opened (sectionOf "Functions" (module.functions.map fun function =>
      functionPart links function.name function)) opened
        (module.functions.flatMap fun function => [escape function.name]) :=
    shows_sectionOf (by decide) fun function _ _ => shows_functionPart links _ function
  refine ((((shows_moduleDocPart module.comments).andThen aggregates).append enums).append functions).telling ?_
  simp only [ModuleDoc.shownAnchors, List.map_append, List.map_flatMap, List.map_map, ← List.map_eq_flatMap]
  rfl

theorem shows_moduleItem (module : ModuleDoc) : Shows opened (moduleItem module) opened [] := by
  have written : "<li><a href=\"".toList ++ escape (pageName module.name) ++ "\">".toList =
      startTag .item [] ++ startTag .anchor [(.href, escape (pageName module.name))] := by
    have opening : "<li><a href=\"".toList = startTag .item [] ++ "<a href=\"".toList := by decide
    rw [opening, List.append_assoc, List.append_assoc, ← List.append_assoc "<a href=\"".toList,
      startTag_eq .anchor .href _ (by decide) (by decide)]
  have plain : ∀ assigned ∈ [(AttributeName.href, escape (pageName module.name))], IsPlain assigned.2 :=
    List.forall_mem_singleton.mpr (isPlain_escape _)
  have closes : Shows (.anchor :: .item :: opened) "</a></li>\n".toList opened [] :=
    .fixed [.stop .anchor, .stop .item, .text ['\n']] (by decide) (by decide) rfl
  unfold moduleItem
  rw [written]
  exact (((Shows.start .item (List.forall_mem_nil _)).andThen (Shows.start .anchor plain)).andThen
    (.escape module.name)).andThen closes

end Parts

end DocSite
