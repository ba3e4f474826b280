/-
Repeated runs.

A run that has ended with an exit code comes to the same when it is repeated on the workspace that it has left.
What it has written is not seen again: no file of a site is a source, a manifest or a license, so the same modules
are found, and the same texts are written to files that hold them already. Only the lengths of paths are in the
way, since the search for sources looks at every file, whatever its name.
-/
import DocSite.Proofs.Command.Frame
import DocSite.Proofs.Project.Detection

namespace DocSite

/-! ### Logs -/

section Settings

variable {rendering : Rendering} {settings : Settings} {before after : Workspace} {found : Findings}

/-- What a run finds, it finds again when a site has been written, and it logs the same on the way, apart from
what is for debugging. -/
theorem Settings.Finds.changed (finds : settings.Finds before found) (proper : before.root.Proper)
    (changes : before.ChangesTo IsSitePlace after) (down : settings.path.GoesDown)
    (plain : HasPlainDirectories before settings.path) (within : HasWalksWithinLimits after settings.path) :
    settings.Finds after found ∧ (found.log settings after).loud = (found.log settings before).loud := by
  have below : ∀ path ∈ found.files, IsSourceBelow before path := fun path member =>
    mem_collectSources proper down plain finds.collected member
  have collected := collectSources_changed proper changes down plain within finds.collected
  have documented := documentFiles_changed found.jobs changes below
  constructor
  · exact
      { given := finds.given
        positive := finds.positive
        collected := collected.value.trans finds.collected
        documented := documented.value.trans finds.documented
        filled := finds.filled }
  · have first := collected.log
    have last := documented.log
    unfold Log.loud at first last ⊢
    unfold Findings.log
    rw [List.filter_append, List.filter_append, first, last]

end Settings

/-! ### The program -/

def Workspace.isFlat (workspace : Workspace) : Bool :=
  match workspace.node? .here with
  | .ok (some (.directory entries _)) => entries.all fun entry =>
      match entry.2 with
      | .file _ => decide (FilePath.here.child entry.1).Fits
      | .directory _ _ => false
  | _ => true

end DocSite
