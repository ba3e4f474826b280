/-
Projects in a changed workspace.

Manifests and licenses are seen by names that no file of a site has. So a project is the same after its site has
been written, the same sources are collected for it, and they are documented in the same way.
-/
import DocSite.Project.Modules
import DocSite.Proofs.Project.Sources

namespace DocSite

open Reading (Agree agree_bind agree_look agree_mapM agree_of_eq bind_eq_ok_iff value_bind value_look)

structure IsPlainDirectory (directory : Text) : Prop where
  down : (FilePath.ofText directory).GoesDown
  short : (FilePath.ofText directory).HasShortParts

theorem IsInputName.ordinary {name : Text} (isInput : IsInputName name) : name ≠ ['.', '.'] := by
  rintro rfl
  rcases isInput with source | other
  · exact absurd source (by decide)
  · exact absurd other (by decide)

theorem IsInputName.spared {name : Text} (isInput : IsInputName name) (workspace : Workspace)
    (path : FilePath) : ¬IsSitePlace (workspace.place (path.child name)) := by
  rw [Workspace.place, FilePath.child, ← List.append_assoc, isSitePlace_concat]
  exact fun named => named.not_isInputName isInput

theorem look_eq_ok {Value : Type} {answer : Except FileError Value} {value : Value} :
    (Reading.look answer).run.value = .ok value ↔ answer = .ok value := by
  rw [value_look]
  cases answer with
  | error error => exact iff_of_false nofun nofun
  | ok found => exact ⟨fun same => congrArg Except.ok (Except.ok.inj same), fun same => congrArg Except.ok (Except.ok.inj same)⟩

section Changed

variable {before after : Workspace} {target : FilePath} (changes : before.ChangesTo IsSitePlace after)
  (down : target.GoesDown) (short : target.HasShortParts)
include changes down

theorem readSource_input_changed {name : Text} (isInput : IsInputName name)
    (isFile : before.isFile (target.child name) = .ok true) :
    readSource after (target.child name) = readSource before (target.child name) :=
  readSource_changed changes (down.child isInput.ordinary) (isInput.spared before target) isFile

include short

theorem isFile_input_changed {name : Text} (isInput : IsInputName name)
    (fits : (encodeUtf8 name).length ≤ nameLimit) :
    after.isFile (target.child name) = before.isFile (target.child name) :=
  Workspace.isFile_changed changes (down.child isInput.ordinary) (short.child fits)
    (isInput.spared before target)

theorem readLicense_changed : (readLicense after target).Agree (readLicense before target) := by
  have shortNames : ∀ name ∈ licenseFiles, (encodeUtf8 name).length ≤ nameLimit := by decide
  have sameTest : ∀ path ∈ licenseFiles.map target.child, after.isFile path = before.isFile path := by
    intro path member
    obtain ⟨name, listed, rfl⟩ := List.mem_map.mp member
    exact isFile_input_changed changes down short (.inr (.inr (.inr listed))) (shortNames name listed)
  unfold readLicense
  refine agree_bind (Reading.agree_findM? fun path member => agree_look (sameTest path member)) fun found looked => ?_
  cases found with
  | none => exact agree_of_eq rfl
  | some path =>
      obtain ⟨member, isFile⟩ := Reading.mem_of_findM? looked
      rw [sameTest path member] at isFile
      obtain ⟨name, listed, rfl⟩ := List.mem_map.mp member
      dsimp only
      rw [readSource_input_changed changes down (.inr (.inr (.inr listed))) (look_eq_ok.mp isFile)]
      exact agree_of_eq rfl

theorem readManifest_changed : (readManifest after target).Agree (readManifest before target) := by
  have isJson : IsInputName jsonManifestName := .inr (.inl rfl)
  have isDirective : IsInputName directiveManifestName := .inr (.inr (.inl rfl))
  have sameJson := isFile_input_changed changes down short isJson (by decide)
  have sameDirectives := isFile_input_changed changes down short isDirective (by decide)
  unfold readManifest
  refine agree_bind (agree_look sameJson) fun found looked => ?_
  rw [sameJson, look_eq_ok] at looked
  cases found with
  | true =>
      unfold readJsonManifest
      rw [readSource_input_changed changes down isJson looked]
      exact agree_of_eq rfl
  | false =>
      refine agree_bind (agree_look sameDirectives) fun found looked => ?_
      rw [sameDirectives, look_eq_ok] at looked
      cases found with
      | true =>
          unfold readDirectiveManifest
          rw [readSource_input_changed changes down isDirective looked]
          exact agree_of_eq rfl
      | false => exact agree_of_eq rfl

theorem detectProject_changed : (detectProject after target).Agree (detectProject before target) := by
  unfold detectProject
  refine agree_bind (readLicense_changed changes down short) fun license _ => ?_
  exact agree_bind (readManifest_changed changes down short) fun manifest _ => agree_of_eq rfl

end Changed

/-! ### Sources of a project -/

/-- A source directory that is not there has no sources, which is noted for debugging only. -/
theorem sourcesOfDirectory_agree (workspace : Workspace) (target : FilePath) (directory : Text) :
    (sourcesOfDirectory workspace target directory).Agree
      (findSources workspace defaultIgnored (target.join (.ofText directory))) := by
  unfold sourcesOfDirectory Workspace.pathExists
  dsimp only
  cases looked : workspace.node? (target.join (.ofText directory)) with
  | error error =>
      rw [findSources_of_error looked]
      exact ⟨rfl, rfl⟩
  | ok node =>
      cases node with
      | none =>
          rw [findSources_of_none looked]
          exact ⟨rfl, rfl⟩
      | some node => exact agree_of_eq rfl

theorem mem_withoutRepeats {found : FilePath} {paths : List FilePath} :
    found ∈ withoutRepeats paths ↔ found ∈ paths := by
  have kept (start : List FilePath) : found ∈ paths.foldl (fun kept path =>
      if kept.contains path then kept else kept ++ [path]) start ↔ found ∈ start ∨ found ∈ paths := by
    induction paths generalizing start with
    | nil => rw [List.foldl_nil, or_iff_left List.not_mem_nil]
    | cons path paths ih =>
        rw [List.foldl_cons, ih, List.mem_cons, ← or_assoc]
        refine or_congr_left ?_
        split
        · rename_i present
          constructor
          · exact .inl
          · rintro (earlier | rfl)
            · exact earlier
            · exact List.contains_iff_mem.mp present
        · rw [List.mem_append, List.mem_singleton]
  rw [withoutRepeats, kept, or_iff_right List.not_mem_nil]

def Project.walkRoots (project : Project) (target : FilePath) : List FilePath :=
  if project.hasManifest then project.sourceDirectories.map fun directory => target.join (.ofText directory)
  else [target]

section Projects

variable {workspace before after : Workspace} {target : FilePath} {project : Project}

theorem mem_sourcesOfProject (proper : workspace.root.Proper) {files : List FilePath} {found : FilePath}
    (down : target.GoesDown) (plain : ∀ directory ∈ project.sourceDirectories, IsPlainDirectory directory)
    (done : (sourcesOfProject workspace target project).run.value = .ok files) (member : found ∈ files) :
    IsSourceBelow workspace found := by
  unfold sourcesOfProject at done
  cases manifest : project.hasManifest with
  | true =>
      rw [manifest, if_pos rfl, bind_eq_ok_iff] at done
      obtain ⟨lists, collected, rest⟩ := done
      cases rest
      obtain ⟨sources, isList, isMember⟩ := List.mem_flatten.mp (mem_withoutRepeats.mp member)
      obtain ⟨directory, declared, looked⟩ := Reading.exists_of_mem_mapM collected isList
      rw [(sourcesOfDirectory_agree workspace target directory).value] at looked
      exact mem_findSources proper (down.join (plain directory declared).down) looked isMember
  | false =>
      rw [manifest, if_neg Bool.false_ne_true, bind_eq_ok_iff] at done
      obtain ⟨-, -, walked⟩ := done
      exact mem_findSources proper down walked member

theorem sourcesOfProject_changed (proper : before.root.Proper) (changes : before.ChangesTo IsSitePlace after)
    (down : target.GoesDown) (short : target.HasShortParts)
    (plain : ∀ directory ∈ project.sourceDirectories, IsPlainDirectory directory)
    (within : ∀ root ∈ project.walkRoots target, after.WithinLimits defaultIgnored root) :
    (sourcesOfProject after target project).Agree (sourcesOfProject before target project) := by
  unfold Project.walkRoots at within
  unfold sourcesOfProject
  cases manifest : project.hasManifest with
  | true =>
      rw [manifest, if_pos rfl] at within
      rw [if_pos rfl, if_pos rfl]
      refine agree_bind (agree_mapM fun directory declared => ?_) fun lists _ => agree_of_eq rfl
      have isPlain := plain directory declared
      have same := findSources_changed proper changes (down.join isPlain.down) (short.join isPlain.short)
        (within _ (List.mem_map_of_mem declared))
      refine (sourcesOfDirectory_agree after target directory).trans ?_
      rw [same]
      exact (sourcesOfDirectory_agree before target directory).symm
  | false =>
      rw [manifest, if_neg Bool.false_ne_true] at within
      rw [if_neg Bool.false_ne_true, if_neg Bool.false_ne_true,
        findSources_changed proper changes down short (within _ List.mem_cons_self)]
      exact agree_of_eq rfl

/-! ### Collected sources -/

theorem collectSources_file {content : Bytes} (looked : workspace.node? target = .ok (some (.file content))) :
    collectSources workspace target = do
      let files ← findSources workspace defaultIgnored target
      return if files.isEmpty then .error (.noSources target) else .ok (none, files) := by
  unfold collectSources
  rw [looked]
  rfl

theorem collectSources_directory {entries : List (Text × FileNode)} {rights : Rights}
    (looked : workspace.node? target = .ok (some (.directory entries rights))) :
    collectSources workspace target = do
      let project ← detectProject workspace target
      let files ← sourcesOfProject workspace target project
      return if files.isEmpty then .error (.noSources target) else .ok (some project, files) := by
  unfold collectSources
  rw [looked]
  rfl

theorem exists_node_of_collectSources {found : Option Project × List FilePath}
    (done : (collectSources workspace target).run.value = .ok (.ok found)) :
    ∃ node, workspace.node? target = .ok (some node) := by
  unfold collectSources at done
  rw [value_bind, value_look] at done
  cases looked : workspace.node? target with
  | error error =>
      rw [looked] at done
      cases done
  | ok node =>
      rw [looked] at done
      cases node with
      | none => cases done
      | some node => exact ⟨node, rfl⟩

def HasPlainDirectories (workspace : Workspace) (target : FilePath) : Prop :=
  ∀ project, (detectProject workspace target).run.value = .ok project →
    ∀ directory ∈ project.sourceDirectories, IsPlainDirectory directory

def HasWalksWithinLimits (workspace : Workspace) (target : FilePath) : Prop :=
  ∀ project, (detectProject workspace target).run.value = .ok project →
    ∀ root ∈ project.walkRoots target, workspace.WithinLimits defaultIgnored root

theorem mem_collectSources (proper : workspace.root.Proper) {files : List FilePath} {found : FilePath}
    {project : Option Project} (down : target.GoesDown) (plain : HasPlainDirectories workspace target)
    (done : (collectSources workspace target).run.value = .ok (.ok (project, files)))
    (member : found ∈ files) : IsSourceBelow workspace found := by
  have listed {sources : List FilePath} {owner : Option Project}
      (same : (if sources.isEmpty then .error (.noSources target) else .ok (owner, sources) :
        Except SourcesError (Option Project × List FilePath)) = .ok (project, files)) : sources = files := by
    split at same
    · cases same
    · exact (Prod.mk.inj (Except.ok.inj same)).2
  obtain ⟨node, looked⟩ := exists_node_of_collectSources done
  cases node with
  | file content =>
      rw [collectSources_file looked, bind_eq_ok_iff] at done
      obtain ⟨sources, walked, rest⟩ := done
      obtain rfl := listed (Except.ok.inj rest)
      exact mem_findSources proper down walked member
  | directory entries rights =>
      rw [collectSources_directory looked, bind_eq_ok_iff] at done
      obtain ⟨known, detected, rest⟩ := done
      obtain ⟨sources, collected, last⟩ := bind_eq_ok_iff.mp rest
      obtain rfl := listed (Except.ok.inj last)
      exact mem_sourcesOfProject proper down (plain known detected) collected member

/-- The same sources are collected after a site has been written. -/
theorem collectSources_changed {found : Option Project × List FilePath} (proper : before.root.Proper)
    (changes : before.ChangesTo IsSitePlace after) (down : target.GoesDown)
    (plain : HasPlainDirectories before target) (within : HasWalksWithinLimits after target)
    (done : (collectSources before target).run.value = .ok (.ok found)) :
    (collectSources after target).Agree (collectSources before target) := by
  obtain ⟨node, looked⟩ := exists_node_of_collectSources done
  obtain ⟨names, resolved, present⟩ := Workspace.node?_eq_some.mp looked
  obtain ⟨-, short⟩ := Workspace.resolve_down down resolved
  have resolvedAfter := changes.resolve resolved
  cases node with
  | file content =>
      obtain ⟨later, kept, -⟩ := changes.root.file present
      have lookedAfter : after.node? target = .ok (some (.file later)) :=
        Workspace.node?_eq_some.mpr ⟨names, resolvedAfter, kept⟩
      have isFile (node : FileNode) (found : after.node? target = .ok (some node)) :
          ∀ names, node.Visits defaultIgnored names → (target.below names).Fits := by
        intro names visits
        cases found.symm.trans lookedAfter
        cases visits
      rw [collectSources_file looked, collectSources_file lookedAfter,
        findSources_changed proper changes down short isFile]
      exact agree_of_eq rfl
  | directory entries rights =>
      obtain ⟨later, kept⟩ := changes.root.hasRightsAt ⟨entries, present⟩
      have sameProject := detectProject_changed changes down short
      rw [collectSources_directory looked,
        collectSources_directory (Workspace.node?_eq_some.mpr ⟨names, resolvedAfter, kept⟩)]
      refine agree_bind sameProject fun project detected => ?_
      have limits := within project detected
      rw [sameProject.value] at detected
      exact agree_bind (sourcesOfProject_changed proper changes down short (plain project detected) limits)
        fun files _ => agree_of_eq rfl

/-! ### Documentation -/

theorem documentFile_changed {path : FilePath} (changes : before.ChangesTo IsSitePlace after)
    (below : IsSourceBelow before path) : documentFile after path = documentFile before path := by
  unfold documentFile
  rw [readSource_changed changes below.down (not_isSitePlace_place before below.source) below.isFile]

/-- The same documentation comes of sources after a site has been written. -/
theorem documentFiles_changed {files : List FilePath} (jobs : Int)
    (changes : before.ChangesTo IsSitePlace after) (below : ∀ path ∈ files, IsSourceBelow before path) :
    (documentFiles after files jobs).Agree (documentFiles before files jobs) := by
  have results : Agree (files.mapM (documentFile after)) (files.mapM (documentFile before)) :=
    agree_mapM fun path member => agree_of_eq (documentFile_changed changes (below path member))
  unfold documentFiles
  dsimp only
  by_cases shared : jobs > 1 ∧ files.length > 1
  · rw [if_pos shared, if_pos shared]
    refine agree_bind ?_ fun documents _ => agree_of_eq rfl
    unfold sharedOut
    split_ifs
    · exact agree_of_eq rfl
    · exact Reading.agree_silently results
  · rw [if_neg shared, if_neg shared]
    exact agree_bind results fun documents _ => agree_of_eq rfl

end Projects

end DocSite
