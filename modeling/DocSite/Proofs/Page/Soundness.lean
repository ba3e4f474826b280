/-
Pages that no text can break.

Names, licenses and the stylesheet are put into the frames of pages as they are escaped or fixed, so they show no
character that bounds tags or values. What else is put into a frame is sound markup, piece by piece as the pieces
are written one after the other.
-/
import DocSite.Page.Render
import DocSite.Proofs.Page.Parts

namespace DocSite

theorem isPlain_join {separator : Text} {pieces : List Text} (plainSeparator : IsPlain separator)
    (plain : ∀ piece ∈ pieces, IsPlain piece) : IsPlain (Text.join separator pieces) := by
  induction pieces with
  | nil => exact fun mark special found => absurd found List.not_mem_nil
  | cons piece pieces ih =>
      have here := plain piece List.mem_cons_self
      cases pieces with
      | nil => exact here
      | cons next pieces =>
          have further := ih fun other member => plain other (List.mem_cons_of_mem _ member)
          exact (here.append plainSeparator).append further

theorem isPlain_stylesheet : IsPlain stylesheet := by
  have rules : ∀ rule ∈ stylesheetRules,
      IsPlain rule.1.toList ∧ ∀ declaration ∈ rule.2, IsPlain declaration.toList := by
    decide +kernel
  have written : IsPlain (stylesheetRules.flatMap fun rule =>
      "    ".toList ++ rule.1.toList ++ [' ', '\x7b', ' '] ++
        Text.join [' '] (rule.2.map String.toList) ++ [' ', '\x7d', '\n']) := by
    intro mark special found
    obtain ⟨rule, member, found⟩ := List.mem_flatMap.mp found
    obtain ⟨selector, declarations⟩ := rules rule member
    have joined : IsPlain (Text.join [' '] (rule.2.map String.toList)) := by
      refine isPlain_join (by decide) fun piece isPiece => ?_
      obtain ⟨declaration, declared, rfl⟩ := List.mem_map.mp isPiece
      exact declarations declaration declared
    have opening : IsPlain ("    ".toList ++ rule.1.toList ++ [' ', '\x7b', ' ']) :=
      (IsPlain.append (by decide) selector).append (by decide)
    have closing : IsPlain [' ', '\x7d', '\n'] := by decide
    exact (opening.append joined).append closing mark special found
  have begins : IsPlain ['\n'] := by decide
  exact begins.append written

theorem isSound_moduleItems (modules : List ModuleDoc) : IsSound (modules.flatMap moduleItem) := by
  have each : ∀ module ∈ modules, Shows [] (moduleItem module) [] [] := fun module _ => shows_moduleItem module
  exact (Shows.flatMap each).isSound

/-- The texts that the frames of pages are filled with cannot break a page. Names, licenses and the stylesheet
show no character of markup, and the entries of the index page, the content of a module's page and every
comment are sound markup, whatever the documented texts hold. -/
theorem pages_sound (modules : List ModuleDoc) (projectName license : Text) :
    let site := Site.ofModules modules projectName license
    let name := escape site.projectName
    (site.indexPage modules = indexFrame name (escape site.license) (modules.flatMap moduleItem) ∧
      IsPlain name ∧ IsPlain (escape site.license) ∧ IsSound (modules.flatMap moduleItem)) ∧
      (∀ module, site.modulePage module =
          moduleFrame (escape module.name) name (moduleContent site.links module) ∧
        IsPlain (escape module.name) ∧ IsSound (moduleContent site.links module)) ∧
      IsPlain stylesheet ∧ ∀ comments, IsSound (formatComment comments) := by
  intro site name
  refine ⟨⟨rfl, isPlain_escape _, isPlain_escape _, isSound_moduleItems modules⟩, fun module => ?_,
    isPlain_stylesheet, fun comments => (shows_formatComment comments).isSound⟩
  exact ⟨rfl, isPlain_escape _, (shows_moduleContent site.links module).isSound⟩

end DocSite
