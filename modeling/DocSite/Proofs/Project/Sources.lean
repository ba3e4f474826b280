/-
Walks in a changed tree.

A walk finds the same sources before and after a site has been written, wherever the site lies: its files have
no names of sources, and the directories that are made for it are open and hold nothing else. All that a walk may
meet with afterwards is a path that is too long, since there are more paths to look at.
-/
import DocSite.Proofs.Project.Listing

namespace DocSite

open FileNode (Changes Becomes)

variable {ignored : List Text}

/-! ### Places of a site -/

def IsSitePlace (names : List Text) : Prop :=
  ∃ above name, names = above ++ [name] ∧ IsSiteName name

theorem isSitePlace_concat {above : List Text} {name : Text} :
    IsSitePlace (above ++ [name]) ↔ IsSiteName name := by
  constructor
  · rintro ⟨others, other, equal, named⟩
    obtain ⟨-, single⟩ := List.append_inj' equal rfl
    rwa [List.singleton_inj.mp single]
  · intro named
    exact ⟨above, name, rfl, named⟩

theorem not_isSitePlace_place {path : FilePath} (workspace : Workspace) (source : isSourceFile path = true) :
    ¬IsSitePlace (workspace.place path) := by
  rcases List.eq_nil_or_concat' path.parts with empty | ⟨front, name, shape⟩
  · have noSource : isSourceFile path = false := by
      unfold isSourceFile FilePath.extension FilePath.name
      rw [empty]
      decide
    rw [noSource] at source
    cases source
  · rw [Workspace.place, shape, ← List.append_assoc, isSitePlace_concat]
    intro named
    have child : path = FilePath.child ⟨path.anchor, front⟩ name := by
      rw [FilePath.child, ← shape]
    rw [child, isSourceFile_of_isSiteName named] at source
    cases source

/-- An entry is new only in a directory that may be searched. -/
theorem FileNode.Changes.searches {writable : List Text → Prop} {before after node : FileNode}
    (changes : Changes writable before after) {above : List Text} {name : Text} {rights : Rights}
    (directory : before.HasRightsAt above rights) (absent : before.descend? (above ++ [name]) = none)
    (present : after.descend? (above ++ [name]) = some node) : rights.searches = true := by
  have opened {tree : FileNode} {target : List Text} (earlier : Changes writable before tree)
      (receives : tree.Receives target) (same : above ++ [name] = target) : rights.searches = true := by
    obtain ⟨other, last, rfl, ⟨own, ⟨_, found⟩, searches⟩, -⟩ := receives
    obtain ⟨rfl, -⟩ := List.append_inj' same rfl
    obtain ⟨_, kept⟩ := earlier.hasRightsAt directory
    cases found.symm.trans kept
    exact searches
  induction changes generalizing node with
  | refl =>
      rw [absent] at present
      cases present
  | @tail tree _ earlier last ih =>
      cases there : tree.descend? (above ++ [name]) with
      | some old => exact ih there
      | none =>
          cases last with
          | write content permitted receives free =>
              rcases FileNode.descend?_put_cases free (FileNode.descend?_file_cons content) (above ++ [name]) with
                same | ⟨same, -⟩ | ⟨_, _, _, _, found, -⟩
              · rw [same, there] at present
                cases present
              · exact opened earlier receives same
              · rw [there] at found
                cases found
          | make receives missing =>
              rcases FileNode.descend?_put_cases (FileNode.free_of_absent missing)
                FileNode.descend?_empty_cons (above ++ [name]) with same | ⟨same, -⟩ | ⟨_, _, _, _, found, -⟩
              · rw [same, there] at present
                cases present
              · exact opened earlier receives same
              · rw [there] at found
                cases found

/-! ### Limits -/

def Workspace.WithinLimits (workspace : Workspace) (ignored : List Text) (path : FilePath) : Prop :=
  ∀ node, workspace.node? path = .ok (some node) → ∀ names, node.Visits ignored names → (path.below names).Fits

section Limits

variable {workspace : Workspace} {directory : FilePath} {entries : List (Text × FileNode)} {rights : Rights}
  {name : Text} {node : FileNode}

theorem Workspace.WithinLimits.fits_child (within : workspace.WithinLimits ignored directory)
    (found : workspace.node? directory = .ok (some (.directory entries rights))) (lists : rights.lists = true)
    (present : entries.lookup name = some node) : (directory.child name).Fits :=
  within _ found [name] (.entry lists present)

theorem Workspace.WithinLimits.child (within : workspace.WithinLimits ignored directory)
    (found : workspace.node? directory = .ok (some (.directory entries rights))) (lists : rights.lists = true)
    (searches : rights.searches = true) (present : entries.lookup name = some node)
    (named : FileNode.IsEntryName name) (visible : FileNode.IsVisible ignored name) :
    workspace.WithinLimits ignored (directory.child name) := by
  intro inner looked names visits
  rw [Workspace.node?_child found named, if_neg (not_not_intro (within.fits_child found lists present)),
    if_pos searches, present] at looked
  cases looked
  rw [FilePath.below_child]
  exact within _ found _ (.within lists searches present visible visits)

end Limits

/-! ### Walks through new directories -/

theorem visit_directory_idle {workspace : Workspace} {directory : FilePath} {name : Text}
    {inner : List (Text × FileNode)} {own : Rights}
    (looked : workspace.node? (directory.child name) = .ok (some (.directory inner own)))
    (idle : FileNode.IsVisible ignored name → sourcesBelow workspace ignored (directory.child name) = pure []) :
    visit workspace ignored directory name = pure [] := by
  rw [visit_directory looked]
  cases skipped : isIgnored ignored name with
  | true => rw [if_pos rfl]
  | false => rw [if_neg Bool.false_ne_true, idle (isIgnored_eq_false_iff.mp skipped)]

section Added

variable {before after : Workspace} {path : FilePath}

theorem Workspace.place_child (workspace : Workspace) (path : FilePath) (name : Text) :
    workspace.place (path.child name) = workspace.place path ++ [name] :=
  (List.append_assoc ..).symm

theorem Workspace.descend?_of_node? {workspace : Workspace} {node : FileNode} (down : path.GoesDown)
    (found : workspace.node? path = .ok (some node)) :
    workspace.root.descend? (workspace.place path) = some node := by
  obtain ⟨names, resolved, reached⟩ := node?_eq_some.mp found
  rwa [(resolve_down down resolved).1] at reached

/-- In directories that have been made there are no sources. -/
theorem sourcesBelow_added (proper : after.root.Proper) (changes : before.ChangesTo IsSitePlace after)
    (down : path.GoesDown) (absent : before.root.descend? (before.place path) = none)
    {entries : List (Text × FileNode)} {rights : Rights}
    (found : after.node? path = .ok (some (.directory entries rights)))
    (within : after.WithinLimits ignored path) : sourcesBelow after ignored path = pure [] := by
  induction path using walk_induction after generalizing entries rights with
  | step path ih =>
      have reached := Workspace.descend?_of_node? down found
      have properDirectory := proper.descend? reached
      obtain rfl : rights = {} := by
        have becomes := changes.root.becomes (before.place path)
        rw [← Workspace.place_changed changes, reached, Workspace.place_changed changes, absent] at becomes
        cases becomes
        rfl
      rw [sourcesBelow_eq found, if_pos rfl]
      refine gather_idle fun name listed => ?_
      obtain ⟨node, present⟩ :=
        FileNode.exists_lookup_of_mem_names properDirectory.nodup (mem_visitOrder.mp listed)
      have named := properDirectory.isEntryName present
      have downChild := down.child named.ordinary
      have looked : after.node? (path.child name) = .ok (some node) := by
        rw [Workspace.node?_child found named, if_neg (not_not_intro (within.fits_child found rfl present)),
          if_pos rfl, present]
      have absentChild : before.root.descend? (before.place (path.child name)) = none := by
        rw [Workspace.place_child, FileNode.descend?_append, absent]
        rfl
      have becomes := changes.root.becomes (before.place (path.child name))
      rw [absentChild, ← Workspace.place_changed changes, Workspace.descend?_of_node? downChild looked,
        Workspace.place_changed changes] at becomes
      cases becomes with
      | written content permitted =>
          rw [Workspace.place_child, isSitePlace_concat] at permitted
          rw [visit, visitEntry_file looked, isSourceFile_of_isSiteName permitted, if_neg Bool.false_ne_true]
      | made inner =>
          have isThere : after.isDirectory (path.child name) = .ok true := by
            rw [Workspace.isDirectory, looked]
            rfl
          exact visit_directory_idle looked fun visible => ih name isThere downChild absentChild looked
            (within.child found rfl rfl present named visible)

/-- The names that were there before are visited in the order in which they were visited. -/
theorem filter_visitOrder {names later : List Text} {isOld : Text → Bool} (distinct : names.Nodup)
    (distinctLater : later.Nodup) (old : ∀ name, name ∈ later ∧ isOld name = true ↔ name ∈ names) :
    (visitOrder later).filter isOld = visitOrder names := by
  have sorted (names : List Text) :
      (visitOrder names).Pairwise fun left right => decide (¬ right < left) = true := by
    refine List.pairwise_mergeSort (fun first second third before behind => ?_) (fun first second => ?_) names
    · rw [decide_eq_true_iff] at before behind ⊢
      exact List.le_trans before behind
    · rw [Bool.or_eq_true, decide_eq_true_iff, decide_eq_true_iff]
      exact List.le_total first second
  refine List.Perm.eq_of_pairwise (fun first second _ _ before behind => ?_) ((sorted later).filter isOld)
    (sorted names) ?_
  · rw [decide_eq_true_iff] at before behind
    exact List.le_antisymm before behind
  · refine (List.perm_ext_iff_of_nodup ((nodup_visitOrder.mpr distinctLater).filter isOld)
      (nodup_visitOrder.mpr distinct)).mpr fun name => ?_
    rw [List.mem_filter, mem_visitOrder, mem_visitOrder, old]

end Added

/-! ### Walks through old directories -/

section Changed

variable {before after : Workspace} {path : FilePath} {entries later : List (Text × FileNode)} {rights : Rights}
  {name : Text} (proper : before.root.Proper) (changes : before.ChangesTo IsSitePlace after)
  (down : path.GoesDown) (foundBefore : before.node? path = .ok (some (.directory entries rights)))
  (found : after.node? path = .ok (some (.directory later rights)))
include changes down foundBefore found

theorem descend?_entry (name : Text) : before.root.descend? (before.place path ++ [name]) = entries.lookup name ∧
    after.root.descend? (before.place path ++ [name]) = later.lookup name := by
  have single (entries : List (Text × FileNode)) :
      (FileNode.directory entries rights).descend? [name] = entries.lookup name := by
    rw [FileNode.descend?]
    cases entries.lookup name <;> rfl
  have reached := Workspace.descend?_of_node? down found
  rw [Workspace.place_changed changes] at reached
  rw [FileNode.descend?_append, FileNode.descend?_append, reached, Workspace.descend?_of_node? down foundBefore]
  exact ⟨single entries, single later⟩

theorem entry_becomes : Becomes (IsSiteName name) (entries.lookup name) (later.lookup name) := by
  have becomes := changes.root.becomes (before.place path ++ [name])
  obtain ⟨isBefore, isAfter⟩ := descend?_entry changes down foundBefore found name
  rwa [isSitePlace_concat, isBefore, isAfter] at becomes

variable (within : after.WithinLimits ignored path) (lists : rights.lists = true)
include proper within lists

/-- New entries contribute nothing to a walk. -/
theorem visit_new (absent : entries.lookup name = none) {node : FileNode} (present : later.lookup name = some node) :
    visit after ignored path name = pure [] := by
  have properAfter := changes.root.proper proper
  have named := (properAfter.descend? (Workspace.descend?_of_node? down found)).isEntryName present
  obtain ⟨isBefore, isAfter⟩ := descend?_entry changes down foundBefore found name
  have searches : rights.searches = true :=
    changes.root.searches ⟨entries, Workspace.descend?_of_node? down foundBefore⟩ (isBefore.trans absent)
      (isAfter.trans present)
  have looked : after.node? (path.child name) = .ok (some node) := by
    rw [Workspace.node?_child found named, if_pos searches, present,
      if_neg (not_not_intro (within.fits_child found lists present))]
  have becomes : Becomes (IsSiteName name) (entries.lookup name) (later.lookup name) :=
    entry_becomes changes down foundBefore found
  rw [absent, present] at becomes
  cases becomes with
  | written content permitted =>
      rw [visit, visitEntry_file looked, isSourceFile_of_isSiteName permitted, if_neg Bool.false_ne_true]
  | made inner =>
      have absentChild : before.root.descend? (before.place (path.child name)) = none := by
        rw [Workspace.place_child, isBefore, absent]
      exact visit_directory_idle looked fun visible => sourcesBelow_added properAfter changes
        (down.child named.ordinary) absentChild looked (within.child found lists searches present named visible)

/-- Old entries contribute what they contributed before, if the directories among them do. -/
theorem visit_old {node : FileNode} (present : entries.lookup name = some node)
    (same : ∀ inner innerLater own, before.node? (path.child name) = .ok (some (.directory inner own)) →
      after.node? (path.child name) = .ok (some (.directory innerLater own)) →
        after.WithinLimits ignored (path.child name) →
          sourcesBelow after ignored (path.child name) = sourcesBelow before ignored (path.child name)) :
    visit after ignored path name = visit before ignored path name := by
  have named := (proper.descend? (Workspace.descend?_of_node? down foundBefore)).isEntryName present
  have becomes : Becomes (IsSiteName name) (entries.lookup name) (later.lookup name) :=
    entry_becomes changes down foundBefore found
  rw [present] at becomes
  obtain ⟨newer, presentLater⟩ := becomes.exists_some
  have fits := within.fits_child found lists presentLater
  have lookedBefore := Workspace.node?_child foundBefore named
  have looked := Workspace.node?_child found named
  rw [if_neg (not_not_intro fits), present] at lookedBefore
  rw [if_neg (not_not_intro fits), presentLater] at looked
  rw [presentLater] at becomes
  cases searches : rights.searches with
  | false =>
      rw [searches, if_neg Bool.false_ne_true] at looked lookedBefore
      rw [visit, visit, visitEntry_denied looked, visitEntry_denied lookedBefore]
  | true =>
      rw [searches, if_pos rfl] at looked lookedBefore
      rcases becomes.sameKind with ⟨content, newerContent, rfl, rfl⟩ | ⟨inner, innerLater, own, rfl, rfl⟩
      · rw [visit, visit, visitEntry_file looked, visitEntry_file lookedBefore]
      · rw [visit_directory looked, visit_directory lookedBefore]
        cases skipped : isIgnored ignored name with
        | true => rw [if_pos rfl, if_pos rfl]
        | false =>
            rw [if_neg Bool.false_ne_true, if_neg Bool.false_ne_true]
            exact same inner innerLater own lookedBefore looked
              (within.child found lists searches presentLater named (isIgnored_eq_false_iff.mp skipped))

end Changed

section Walks

variable {before after : Workspace} {path : FilePath}

/-- A walk through a directory that was there before finds what it found before. -/
theorem sourcesBelow_changed (proper : before.root.Proper) (changes : before.ChangesTo IsSitePlace after)
    (down : path.GoesDown) {entries later : List (Text × FileNode)} {rights : Rights}
    (foundBefore : before.node? path = .ok (some (.directory entries rights)))
    (found : after.node? path = .ok (some (.directory later rights)))
    (within : after.WithinLimits ignored path) :
    sourcesBelow after ignored path = sourcesBelow before ignored path := by
  induction path using walk_induction before generalizing entries later rights with
  | step path ih =>
      have properDirectory := proper.descend? (Workspace.descend?_of_node? down foundBefore)
      have properLater := (changes.root.proper proper).descend? (Workspace.descend?_of_node? down found)
      rw [sourcesBelow_eq found, sourcesBelow_eq foundBefore]
      cases lists : rights.lists with
      | false => rw [if_neg Bool.false_ne_true, if_neg Bool.false_ne_true]
      | true =>
          rw [if_pos rfl, if_pos rfl, gather_filter (fun name => (entries.lookup name).isSome),
            filter_visitOrder properDirectory.nodup properLater.nodup]
          · refine gather_congr fun name listed => ?_
            obtain ⟨node, present⟩ :=
              FileNode.exists_lookup_of_mem_names properDirectory.nodup (mem_visitOrder.mp listed)
            refine visit_old proper changes down foundBefore found within lists present
              fun inner innerLater own looked lookedLater => ?_
            have isThere : before.isDirectory (path.child name) = .ok true := by
              rw [Workspace.isDirectory, looked]
              rfl
            exact ih name isThere (down.child (properDirectory.isEntryName present).ordinary) looked lookedLater
          · intro name
            rw [Option.isSome_iff_exists]
            constructor
            · rintro ⟨-, node, present⟩
              exact FileNode.mem_names_of_lookup present
            · intro listed
              obtain ⟨node, present⟩ := FileNode.exists_lookup_of_mem_names properDirectory.nodup listed
              have becomes : Becomes (IsSiteName name) (entries.lookup name) (later.lookup name) :=
                entry_becomes changes down foundBefore found
              rw [present] at becomes
              obtain ⟨newer, kept⟩ := becomes.exists_some
              exact ⟨FileNode.mem_names_of_lookup kept, node, present⟩
          · intro name listed isNew
            obtain ⟨node, present⟩ :=
              FileNode.exists_lookup_of_mem_names properLater.nodup (mem_visitOrder.mp listed)
            exact visit_new proper changes down foundBefore found within lists
              (Option.isNone_iff_eq_none.mp (Option.isSome_eq_false_iff.mp isNew)) present

/-- The files of a site are none of the sources that are found. -/
theorem findSources_changed (proper : before.root.Proper) (changes : before.ChangesTo IsSitePlace after)
    (down : path.GoesDown) (short : path.HasShortParts) (within : after.WithinLimits ignored path) :
    findSources after ignored path = findSources before ignored path := by
  rcases Workspace.node?_changed changes down short with
    ⟨error, isBefore, isAfter⟩ | ⟨old, new, isBefore, isAfter, becomes, there⟩
  · rw [findSources_of_error isBefore, findSources_of_error isAfter]
  · cases becomes with
    | stays =>
        rcases old with _ | (content | ⟨entries, rights⟩)
        · rw [findSources_of_none isBefore, findSources_of_none isAfter]
        · rw [findSources_of_file isBefore, findSources_of_file isAfter]
        · rw [findSources_of_directory ignored isBefore, findSources_of_directory ignored isAfter,
            sourcesBelow_changed proper changes down isBefore isAfter within]
    | written content permitted free =>
        have noSource : isSourceFile path = false :=
          Bool.eq_false_iff.mpr fun source => not_isSitePlace_place before source permitted
        rw [findSources_of_file isAfter, noSource, if_neg Bool.false_ne_true]
        rcases old with _ | (content | ⟨entries, rights⟩)
        · rw [findSources_of_none isBefore]
        · rw [findSources_of_file isBefore, noSource, if_neg Bool.false_ne_true]
        · exact absurd rfl (free entries rights)
    | filled entries later rights =>
        rw [findSources_of_directory ignored isBefore, findSources_of_directory ignored isAfter,
          sourcesBelow_changed proper changes down isBefore isAfter within]
    | made entries =>
        have absent := there.resolve_left (Option.some_ne_none _)
        rw [findSources_of_none isBefore, findSources_of_directory ignored isAfter,
          sourcesBelow_added (changes.root.proper proper) changes down absent isAfter within, pure_bind,
          List.mergeSort_nil]

end Walks

/-! ### Sources that are found -/

def Workspace.WalksTo (workspace : Workspace) (ignored : List Text) (path found : FilePath) : Prop :=
  (∃ content, workspace.node? path = .ok (some (.file content)) ∧ HasSourceSuffix path.name ∧ found = path) ∨
    ∃ entries rights directories name, workspace.node? path = .ok (some (.directory entries rights)) ∧
      found = path.below (directories ++ [name]) ∧
      FileNode.LeadsToSource ignored (.directory entries rights) directories name

structure IsSourceBelow (workspace : Workspace) (path : FilePath) : Prop where
  source : isSourceFile path = true
  down : path.GoesDown
  isFile : workspace.isFile path = .ok true

theorem HasSourceSuffix.ordinary {name : Text} (suffix : HasSourceSuffix name) : name ≠ ['.', '.'] := by
  rintro rfl
  have source : isSourceFile (FilePath.here.child ['.', '.']) = true := isSourceFile_iff.mpr suffix
  exact absurd source (by decide)

section Found

variable {workspace : Workspace} {path found : FilePath}

/-- Sources are listed if and only if all paths can be looked at. -/
theorem exists_findSources_iff (proper : workspace.root.Proper) :
    (∃ files, (findSources workspace ignored path).run.value = .ok files) ↔
      (∃ node, workspace.node? path = .ok node) ∧ workspace.WithinLimits ignored path := by
  unfold Workspace.WithinLimits
  cases looked : workspace.node? path with
  | error error =>
      rw [findSources_of_error looked]
      exact iff_of_false nofun nofun
  | ok node =>
      rcases node with _ | (content | ⟨entries, rights⟩)
      · rw [findSources_of_none looked]
        exact iff_of_true ⟨_, rfl⟩ ⟨⟨_, rfl⟩, nofun⟩
      · rw [findSources_of_file looked]
        refine iff_of_true ⟨_, rfl⟩ ⟨⟨_, rfl⟩, fun node same names visits => ?_⟩
        cases same
        cases visits
      · rw [exists_findSources_directory_iff ignored proper looked]
        constructor
        · intro fit
          refine ⟨⟨_, rfl⟩, fun node same => ?_⟩
          cases same
          exact fit
        · exact fun fit => fit.2 _ rfl

theorem mem_findSources_iff (proper : workspace.root.Proper) {files : List FilePath}
    (done : (findSources workspace ignored path).run.value = .ok files) :
    found ∈ files ↔ workspace.WalksTo ignored path found := by
  unfold Workspace.WalksTo
  cases looked : workspace.node? path with
  | error error =>
      rw [findSources_of_error looked] at done
      cases done
  | ok node =>
      rcases node with _ | (content | ⟨entries, rights⟩)
      · rw [findSources_of_none looked] at done
        cases done
        simp
      · rw [findSources_of_file looked] at done
        cases done
        rw [← isSourceFile_iff]
        cases isSourceFile path <;> simp
      · rw [((isWalk_findSources ignored proper looked).listed done).2 found]
        simp

/-- The path along directories that a walk enters can be looked at. -/
theorem node?_of_leadsToSource (proper : workspace.root.Proper) (within : workspace.WithinLimits ignored path)
    {node : FileNode} (looked : workspace.node? path = .ok (some node)) {directories : List Text} {name : Text}
    (leads : node.LeadsToSource ignored directories name) :
    ∃ content, workspace.node? (path.below (directories ++ [name])) = .ok (some (.file content)) := by
  induction directories generalizing path node with
  | nil =>
      obtain ⟨rights, ⟨entries, same⟩, -⟩ := leads.isOpen [] List.nil_prefix
      cases same
      obtain ⟨⟨lists, searches⟩, -, content, present⟩ := FileNode.leadsToSource_nil.mp leads
      obtain ⟨names, -, reached⟩ := Workspace.node?_eq_some.mp looked
      have seen := Workspace.node?_child looked ((proper.descend? reached).isEntryName present)
      rw [if_neg (not_not_intro (within.fits_child looked lists present)), if_pos searches, present] at seen
      exact ⟨content, seen⟩
  | cons first directories ih =>
      obtain ⟨rights, ⟨entries, same⟩, -⟩ := leads.isOpen [] List.nil_prefix
      cases same
      obtain ⟨⟨lists, searches⟩, visible, node, present, further⟩ := FileNode.leadsToSource_cons.mp leads
      obtain ⟨names, -, reached⟩ := Workspace.node?_eq_some.mp looked
      have named := (proper.descend? reached).isEntryName present
      have seen := Workspace.node?_child looked named
      rw [if_neg (not_not_intro (within.fits_child looked lists present)), if_pos searches, present] at seen
      rw [List.cons_append, ← FilePath.below_child]
      exact ih (within.child looked lists searches present named visible) seen further

theorem mem_findSources (proper : workspace.root.Proper) (down : path.GoesDown) {files : List FilePath}
    (done : (findSources workspace ignored path).run.value = .ok files) (member : found ∈ files) :
    IsSourceBelow workspace found := by
  have within := ((exists_findSources_iff proper).mp ⟨files, done⟩).2
  have isFile {path : FilePath} {content : Bytes} (looked : workspace.node? path = .ok (some (.file content))) :
      workspace.isFile path = .ok true := by
    rw [Workspace.isFile, looked]
    rfl
  rcases (mem_findSources_iff proper done).mp member with
    ⟨content, looked, suffix, rfl⟩ | ⟨entries, rights, directories, name, looked, rfl, leads⟩
  · exact ⟨isSourceFile_iff.mpr suffix, down, isFile looked⟩
  · obtain ⟨content, seen⟩ := node?_of_leadsToSource proper within looked leads
    refine ⟨isSourceFile_iff.mpr ?_, fun parent => ?_, isFile seen⟩
    · rw [FilePath.name, FilePath.below, ← List.append_assoc, List.getLast?_concat]
      exact leads.source
    · rcases List.mem_append.mp parent with above | below
      · exact down above
      · rcases List.mem_append.mp below with between | last
        · exact (leads.visible _ between).2 rfl
        · exact leads.source.ordinary (List.mem_singleton.mp last).symm

end Found

end DocSite
