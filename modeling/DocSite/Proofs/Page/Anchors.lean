/-
The anchors of pages and the links to them.

Three readings of a module name its anchors: the page that shows it, the search entries that link to the
page, and the links from type names. The anchors of a module are defined here once, in the order of its
search entries. The page shows the same ones, constructors before the other methods, and the type links
point to some of them.
-/
import Mathlib.Data.List.Perm.Basic
import DocSite.Proofs.Page.Parts

namespace DocSite

/-! ### The anchors of a module -/

def AggregateDoc.anchors (aggregate : AggregateDoc) : List Text :=
  aggregate.name :: aggregate.methods.map fun method => methodAnchor aggregate.name method.name

def ModuleDoc.anchors (module : ModuleDoc) : List Text :=
  module.aggregates.flatMap AggregateDoc.anchors ++ module.enums.map (·.name) ++
    module.functions.map (·.name)

/-- On its page an aggregate has its constructors before its other methods. -/
theorem AggregateDoc.shownAnchors_perm (aggregate : AggregateDoc) :
    aggregate.shownAnchors.Perm aggregate.anchors := by
  have methods := List.filter_append_perm (fun method => method.isConstructor) aggregate.methods
  exact (methods.map _).cons _

theorem ModuleDoc.shownAnchors_perm (module : ModuleDoc) : module.shownAnchors.Perm module.anchors := by
  have aggregates := List.Perm.flatMap_left module.aggregates fun aggregate _ => aggregate.shownAnchors_perm
  exact (aggregates.append_right _).append_right _

/-! ### The page around the content -/

theorem hasIds_closedLines (lines : List Text) (silent : ∀ line ∈ lines, HasIds line []) :
    HasIds (closedLines lines) [] := by
  induction lines with
  | nil => exact .nil
  | cons line lines ih =>
      have lineBreak : HasIds ['\n'] [] := .of_plain _ (by decide)
      have first := (silent line List.mem_cons_self).append lineBreak
      exact first.append (ih fun other found => silent other (List.mem_cons_of_mem _ found))

/-- A fixed opening and a fixed closing around a text without tags. -/
theorem hasIds_around (opening closing text : Text) (silent : HasIds opening [])
    (plain : '<' ∉ text) (ends : HasIds closing []) : HasIds (opening ++ text ++ closing) [] :=
  (silent.append (.of_plain text plain)).append ends

theorem plain_stylesheet : '<' ∉ stylesheet := by decide +kernel

instance (text : Text) (ids : List Text) : Decidable (HasIds text ids) :=
  decidable_of_iff (idValues text = ids ∧ MarkupState.content.behind text = .content)
    ⟨fun both => ⟨both.1, both.2⟩, fun read => ⟨read.values, read.closed⟩⟩

theorem hasIds_headLines (title : Text) (plain : '<' ∉ title) :
    ∀ line ∈ headLines title, HasIds line [] := by
  have titled := hasIds_around "<title>".toList "</title>".toList title (by decide) plain (by decide)
  have styled := hasIds_around "<style>".toList "</style>".toList stylesheet (by decide)
    plain_stylesheet (by decide)
  unfold headLines
  simp only [List.forall_mem_cons]
  exact ⟨by decide, by decide, by decide, by decide, by decide, titled, styled, by simp⟩

/-- The frame of a module's page identifies nothing. -/
theorem hasIds_moduleFrame (moduleName projectName content : Text) (ids : List Text)
    (inner : HasIds content ids) :
    HasIds (moduleFrame (escape moduleName) (escape projectName) content) ids := by
  have plainModule := not_mem_escape moduleName '<' (by decide)
  have plainProject := not_mem_escape projectName '<' (by decide)
  have plainTitle : '<' ∉ escape moduleName ++ " - ".toList ++ escape projectName := by
    simp only [List.mem_append, not_or]
    exact ⟨⟨plainModule, by decide⟩, plainProject⟩
  have project := hasIds_around "<a href=\"index.html\">".toList "</a>".toList _ (by decide)
    plainProject (by decide)
  have heading := hasIds_around "<h1>".toList "</h1>".toList _ (by decide) plainModule (by decide)
  have before : ∀ line ∈ ["</head>".toList, "<body>".toList, "<header>".toList,
      "<a href=\"index.html\">".toList ++ escape projectName ++ "</a>".toList,
      "<h1>".toList ++ escape moduleName ++ "</h1>".toList, "</header>".toList,
      "<main>".toList], HasIds line [] := by
    simp only [List.forall_mem_cons]
    exact ⟨by decide, by decide, by decide, project, heading, by decide, by decide, by simp⟩
  have opening := hasIds_closedLines _
    (List.forall_mem_append.mpr ⟨hasIds_headLines _ plainTitle, before⟩)
  have closing := hasIds_closedLines ["</main>".toList, "</body>".toList, "</html>".toList] (by decide)
  have page := (opening.append inner).append closing
  rwa [List.nil_append, List.append_nil] at page

/-- The identifiers on a module's page are the escaped anchors of the module. -/
theorem idValues_modulePage (site : Site) (module : ModuleDoc) :
    (idValues (site.modulePage module)).Perm (module.anchors.map escape) := by
  have content : HasIds (moduleContent site.links module) (module.shownAnchors.map escape) :=
    (@shows_moduleContent [] site.links module).hasIds
  rw [Site.modulePage, (hasIds_moduleFrame module.name site.projectName _ _ content).values]
  exact module.shownAnchors_perm.map escape

/-! ### Links -/

/-- The first entry of a module links to its page, the others to its anchors on the page. -/
theorem links_ofModule (module : ModuleDoc) :
    (SearchEntry.ofModule module).map (·.link) =
      pageName module.name :: module.anchors.map (anchorLink (pageName module.name)) := by
  have aggregate (declared : AggregateDoc) :
      (SearchEntry.ofAggregate module.name declared).map (·.link) =
        declared.anchors.map (anchorLink (pageName module.name)) := by
    simp [SearchEntry.ofAggregate, AggregateDoc.anchors, Function.comp_def]
  simp [SearchEntry.ofModule, ModuleDoc.anchors, SearchEntry.ofItem, List.map_flatMap, aggregate,
    Function.comp_def]

/-- Of equal neighbours one is kept. -/
theorem mem_keepOne (names : List Text) (name : Text) :
    name ∈ names.foldr
        (fun name kept => if kept.head? = some name then kept else name :: kept) [] ↔
      name ∈ names := by
  induction names with
  | nil => exact Iff.rfl
  | cons first later ih =>
      rw [List.foldr_cons, List.mem_cons, ← ih]
      by_cases repeated : (later.foldr
          (fun name kept => if kept.head? = some name then kept else name :: kept) []).head? = some first
      · rw [if_pos repeated]
        refine ⟨.inr, fun held => held.elim (fun same => ?_) id⟩
        rw [same]
        exact List.mem_of_mem_head? repeated
      · rw [if_neg repeated, List.mem_cons]

theorem mem_sortedDistinct (names : List Text) (name : Text) :
    name ∈ sortedDistinct names ↔ name ∈ names :=
  (mem_keepOne _ name).trans List.mem_mergeSort

theorem mem_anchors_of_typeName (module : ModuleDoc) (name : Text) (named : name ∈ module.typeNames) :
    name ∈ module.anchors := by
  have declared : name ∈ module.aggregates.map (·.name) ++ module.enums.map (·.name) :=
    (mem_sortedDistinct _ name).mp named
  unfold ModuleDoc.anchors
  rcases List.mem_append.mp declared with ofAggregate | ofEnum
  · obtain ⟨aggregate, found, rfl⟩ := List.mem_map.mp ofAggregate
    exact List.mem_append_left _ (List.mem_append_left _
      (List.mem_flatMap.mpr ⟨aggregate, found, List.mem_cons_self⟩))
  · exact List.mem_append_left _ (List.mem_append_right _ ofEnum)

/-- A link from a type name is a built-in one or one of a module. -/
theorem mem_typeLinks (modules : List ModuleDoc) (link : Text × Text) :
    link ∈ typeLinks modules ↔
      link ∈ builtinTypeLinks ∨ ∃ module ∈ modules, link ∈ moduleTypeLinks module := by
  unfold typeLinks
  generalize builtinTypeLinks = links
  induction modules generalizing links with
  | nil => simp
  | cons module modules ih =>
      rw [List.foldl_cons, ih, List.mem_append]
      simp only [List.mem_cons, exists_eq_or_imp]
      tauto

/-- On the page of every module the identifiers are, as often as they occur, the escaped fragments of the
module's links in the search index, all of which lead to that page. A link from a type name that is not
built in leads to the page of one of the modules, to an element that bears the name. -/
theorem anchors_agree (modules : List ModuleDoc) (projectName license : Text) :
    (∀ module : ModuleDoc, ∃ fragments : List Text,
      (searchEntries [module]).map (·.link) =
          pageName module.name :: fragments.map (anchorLink (pageName module.name)) ∧
        (idValues ((Site.ofModules modules projectName license).modulePage module)).Perm
          (fragments.map escape)) ∧
      ∀ name address, (name, address) ∈ typeLinks modules →
        (name, address) ∈ builtinTypeLinks ∨
          ∃ module ∈ modules, address = anchorLink (pageName module.name) name ∧
            name ∈ (idValues ((Site.ofModules modules projectName license).modulePage module)).map
              unescape := by
  constructor
  · intro module
    refine ⟨module.anchors, ?_, idValues_modulePage _ module⟩
    rw [searchEntries, List.flatMap_singleton]
    exact links_ofModule module
  · intro name address linked
    rcases (mem_typeLinks modules (name, address)).mp linked with builtin | ⟨module, found, own⟩
    · exact .inl builtin
    · obtain ⟨declared, named, same⟩ := List.mem_map.mp own
      obtain ⟨rfl, rfl⟩ := Prod.mk.inj same
      have shown : escape declared ∈
          idValues ((Site.ofModules modules projectName license).modulePage module) :=
        (idValues_modulePage _ module).mem_iff.mpr
          (List.mem_map_of_mem (mem_anchors_of_typeName module declared named))
      exact .inr ⟨module, found, rfl, List.mem_map.mpr ⟨_, shown, unescape_escape declared⟩⟩

def twoBoxes : ModuleDoc where
  name := "ui.box".toList
  file := ⟨.here, ["box.d".toList]⟩
  aggregates :=
    [{ name := "Box".toList, kind := .structType
       methods := [{ name := "\" id=\"Box".toList }, { name := "this".toList }] },
      { name := "Box".toList, kind := .structType }]

/-- The name that both structs bear is linked to the page of their module, and the page shows it. -/
theorem anchors_agree_twoBoxes :
    ("Box".toList, "ui_box.html#Box".toList) ∈ typeLinks [twoBoxes] ∧
      (("Box".toList, "ui_box.html#Box".toList) ∈ builtinTypeLinks ∨
        ∃ module ∈ [twoBoxes], "ui_box.html#Box".toList =
            anchorLink (pageName module.name) "Box".toList ∧
          "Box".toList ∈ (idValues ((Site.ofModules [twoBoxes] [] []).modulePage module)).map
            unescape) := by
  have named : "Box".toList ∈ twoBoxes.typeNames := (mem_sortedDistinct _ _).mpr (by decide)
  have linked : ("Box".toList, "ui_box.html#Box".toList) ∈ typeLinks [twoBoxes] :=
    (mem_typeLinks _ _).mpr (.inr ⟨twoBoxes, by simp, List.mem_map.mpr ⟨_, named, by decide⟩⟩)
  exact ⟨linked, (anchors_agree [twoBoxes] [] []).2 _ _ linked⟩

end DocSite
