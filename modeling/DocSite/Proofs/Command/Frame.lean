/-
What a run leaves alone.

A run writes at most the saved index that is asked for and, right in the output directory, files that have the
names of pages or of the search script. Nothing is removed. A run that ends with an error of its own has written
nothing, since it gets to the first change only when it has found modules.
-/
import DocSite.Console.Markup
import DocSite.Proofs.Command.Steps
import DocSite.Proofs.Project.Detection

namespace DocSite

/-- Whether names lead to a file that settings ask for: to the saved index, or in the output directory to one
with the name of a file of a site. -/
inductive Settings.Writes (settings : Settings) (workspace : Workspace) : List Text → Prop where
  | index {path : FilePath} {names : List Text} (asked : settings.json = some (.given path))
      (leads : workspace.resolve path = .ok names) : Writes settings workspace names
  | site {output : FilePath} {directory : List Text} {name : Text} (wanted : settings.noHtml = false)
      (given : settings.output = .given output) (leads : workspace.resolve output = .ok directory)
      (named : IsSiteName name) : Writes settings workspace (directory ++ [name])

/-- A workspace that has been changed at most by files that settings ask for. The paths are followed in the
changed workspace, where the output directory is there. -/
abbrev Settings.Frames (settings : Settings) (before after : Workspace) : Prop :=
  before.ChangesTo (settings.Writes after) after

section Frames

variable {rendering : Rendering} {settings : Settings} {before between after : Workspace}

theorem Settings.Writes.later {writable : List Text → Prop} {names : List Text}
    (writes : settings.Writes before names) (changes : before.ChangesTo writable after) :
    settings.Writes after names := by
  cases writes with
  | index asked leads => exact .index asked (changes.resolve leads)
  | site wanted given leads named => exact .site wanted given (changes.resolve leads) named

theorem Settings.Frames.trans (earlier : settings.Frames before between)
    (later : settings.Frames between after) : settings.Frames before after :=
  Workspace.ChangesTo.trans (earlier.mono fun _ writes => writes.later later) later

/-! ### Actions -/

theorem saveIndex_changes (createdAt : Text) (modules : List ModuleDoc) (path : FilePath)
    (workspace : Workspace) :
    workspace.ChangesTo (fun names => workspace.resolve path = .ok names)
      ((saveIndex createdAt modules path).run.run workspace).2 := by
  unfold saveIndex saveRecords
  dsimp only
  generalize indexText createdAt (modules.map ModuleDoc.toRecord) = text
  rw [run_bind, writeText_run]
  cases written : workspace.write path (encodeUtf8 text.text) with
  | error error => exact .refl workspace
  | ok changed =>
      have changes := Workspace.write_changes written fun names leads => leads
      cases text.complete with
      | true => exact changes
      | false => exact changes

/-- A site changes files with its names only, right in its directory, also when its writing breaks off. -/
theorem writeSite_changes (modules : List ModuleDoc) (directory : FilePath) (projectName license : Text)
    (workspace : Workspace) :
    let after := ((writeSite modules directory projectName license).run.run workspace).2
    workspace.ChangesTo (fun names => ∃ above name, after.resolve directory = .ok above ∧
      IsSiteName name ∧ names = above ++ [name]) after := by
  rw [writeSite_eq, run_bind, makeDirectories_run]
  cases made : workspace.ensureDirectories directory with
  | mk outcome changed =>
      have opened {writable : List Text → Prop} : workspace.ChangesTo writable changed := by
        have changes : workspace.ChangesTo writable (workspace.ensureDirectories directory).2 :=
          Workspace.ensureDirectories_changes workspace directory
        rwa [made] at changes
      cases outcome with
      | error error => exact opened
      | ok _ =>
          obtain ⟨above, leads⟩ := Workspace.exists_resolve_of_ensureDirectories made
          have written := writeFiles_changes leads
            (Site.files_ordinary (Site.ofModules modules projectName license) modules)
          refine opened.trans (written.mono ?_)
          rintro names ⟨file, found, rfl⟩
          exact ⟨above, file.1, written.resolve leads, Site.isSiteName_of_mem found, rfl⟩

/-! ### Steps -/

theorem frames_bind {First Second : Type} {first : Run First} {next : First → Run Second} (session : Session)
    (firstFrames : settings.Frames session.workspace (first.run.run session).2.workspace)
    (nextFrames : ∀ value changed,
      settings.Frames changed.workspace ((next value).run.run changed).2.workspace) :
    settings.Frames session.workspace ((first >>= next).run.run session).2.workspace := by
  rw [run_bind]
  cases ran : first.run.run session with
  | mk outcome changed =>
      rw [ran] at firstFrames
      cases outcome with
      | error error => exact firstFrames
      | ok value => exact firstFrames.trans (nextFrames value changed)

theorem perform_frames {Value : Type} {action : FileAction Value} {session : Session}
    (frames : settings.Frames session.workspace (action.run.run session.workspace).2) :
    settings.Frames session.workspace ((Run.perform action).run.run session).2.workspace := by
  rw [Run.perform_run]
  exact frames

theorem publishIndex_frames (settings : Settings) (createdAt : Text) (modules : List ModuleDoc)
    (session : Session) :
    settings.Frames session.workspace
      ((publishIndex rendering settings createdAt modules).run.run session).2.workspace := by
  unfold publishIndex
  cases asked : settings.json with
  | none => exact .refl _
  | some value =>
      cases value with
      | emptied => exact .refl _
      | given path =>
          have changes := saveIndex_changes createdAt modules path session.workspace
          have frames : settings.Frames session.workspace
              ((saveIndex createdAt modules path).run.run session.workspace).2 :=
            changes.mono fun names leads => .index asked (changes.resolve leads)
          exact frames_bind session (perform_frames frames) fun _ _ => .refl _

theorem publishSite_frames (settings : Settings) (project : Option Project) (modules : List ModuleDoc)
    (session : Session) :
    settings.Frames session.workspace
      ((publishSite rendering settings project modules).run.run session).2.workspace := by
  unfold publishSite
  cases wanted : settings.noHtml with
  | true => exact .refl _
  | false =>
      rw [if_neg Bool.false_ne_true]
      refine frames_bind session (.refl _) fun _ begun => ?_
      rw [run_bind, Run.valueOf_run]
      cases given : settings.output with
      | emptied => exact .refl _
      | given output =>
          have changes := writeSite_changes modules output
            ((project.map fun project => titleCased project.name).getD [])
            ((project.map fun project => project.license).getD []) begun.workspace
          refine frames_bind begun (perform_frames (changes.mono ?_)) fun _ _ => .refl _
          rintro names ⟨above, name, leads, named, rfl⟩
          exact .site wanted given leads named

theorem publish_frames (settings : Settings) (createdAt : Text) (project : Option Project)
    (modules : List ModuleDoc) (session : Session) :
    settings.Frames session.workspace
      ((publish rendering settings createdAt project modules).run.run session).2.workspace := by
  unfold publish
  refine frames_bind session (.refl _) fun _ printed => ?_
  exact frames_bind printed (publishIndex_frames settings createdAt modules _) fun _ changed =>
    publishSite_frames settings project modules changed

/-- A run changes only what the settings ask for, and nothing unless it succeeds or breaks off. -/
theorem runSettings_frames (settings : Settings) (createdAt : Text) (session : Session) :
    let result := (runSettings rendering settings createdAt).run.run session
    settings.Frames session.workspace result.2.workspace ∧
      ∀ code, result.1 = .ok code → code ≠ 0 → result.2.workspace = session.workspace := by
  rcases @runSettings_cases rendering session createdAt settings with ⟨found, finds⟩ | ⟨same, -⟩
  · rw [runSettings_of_finds session createdAt finds]
    constructor
    · exact frames_bind ⟨session.workspace, _, _⟩
        (publish_frames settings createdAt found.project found.modules _) fun _ changed => .refl changed.workspace
    · intro code ended failed
      rw [run_bind] at ended
      generalize (publish rendering settings createdAt found.project found.modules).run.run _ = published at ended
      obtain ⟨outcome, changed⟩ := published
      cases outcome with
      | error error => cases ended
      | ok _ => exact absurd (Except.ok.inj ended).symm failed
  · dsimp only
    rw [same]
    exact ⟨.refl _, fun _ _ _ => rfl⟩

end Frames

/-! ### The program -/

/-- Whether a run with some arguments may write a file at names of the workspace that it leaves. -/
def MayWrite (arguments : List Text) (after : Workspace) (names : List Text) : Prop :=
  ∃ settings, readCommandLine arguments = .run settings ∧ settings.Writes after names

theorem runProgram_changes (rendering : Rendering) (arguments : List Text) (createdAt : Text)
    (workspace : Workspace) :
    let outcome := runProgram rendering arguments createdAt workspace
    workspace.ChangesTo (MayWrite arguments outcome.session.workspace) outcome.session.workspace ∧
      ∀ code, outcome.status = .ok code → code ≠ 0 → outcome.session.workspace = workspace := by
  unfold runProgram
  cases read : readCommandLine arguments with
  | quit code printed => exact ⟨.refl workspace, fun _ _ _ => rfl⟩
  | run settings =>
      obtain ⟨frames, unchanged⟩ := @runSettings_frames rendering settings createdAt { workspace := workspace }
      exact ⟨frames.mono fun names writes => ⟨settings, read, writes⟩, unchanged⟩

/-- A run that ends with an exit code other than zero leaves the workspace as it is. In any case every file
stays, with its content unless the run may write it, every new file is one that the run may write, and unless a
saved index is asked for, the files that are read are none of them. -/
theorem runProgram_frame (rendering : Rendering) (arguments : List Text) (createdAt : Text)
    (workspace : Workspace) :
    let outcome := runProgram rendering arguments createdAt workspace
    let after := outcome.session.workspace
    (∀ code, outcome.status = .ok code → code ≠ 0 → after = workspace) ∧
      (∀ names content, workspace.root.descend? names = some (.file content) →
        ∃ later, after.root.descend? names = some (.file later) ∧
          (¬MayWrite arguments after names → later = content)) ∧
      (∀ names content, after.root.descend? names = some (.file content) →
        workspace.root.descend? names = some (.file content) ∨ MayWrite arguments after names) ∧
      ((∀ settings, readCommandLine arguments = .run settings → settings.json = none) →
        ∀ directory name content, IsInputName name →
          workspace.root.descend? (directory ++ [name]) = some (.file content) →
            after.root.descend? (directory ++ [name]) = some (.file content)) := by
  intro outcome after
  obtain ⟨changes, unchanged⟩ := runProgram_changes rendering arguments createdAt workspace
  refine ⟨unchanged, fun names content found => changes.root.file found,
    fun names content found => changes.root.file_before found, ?_⟩
  intro noIndex directory name content isInput found
  obtain ⟨later, kept, same⟩ := changes.root.file found
  rw [kept, same]
  rintro ⟨settings, read, writes⟩
  generalize shape : directory ++ [name] = names at writes
  cases writes with
  | index asked leads =>
      rw [noIndex settings read] at asked
      cases asked
  | site wanted given leads named =>
      obtain ⟨-, single⟩ := List.append_inj' shape rfl
      rw [← List.singleton_inj.mp single] at named
      exact named.not_isInputName isInput

def smallWorkspace : Workspace := ⟨.directory [("a.d".toList, .file [])], []⟩

def smallModule : ModuleDoc where
  name := "a".toList
  file := .ofText "a.d".toList

theorem smallWorkspace_detected : (detectProject smallWorkspace .here).run.value =
    .ok ⟨false, [], defaultSourceDirectories, []⟩ := by
  decide +kernel

def smallFindings : Findings where
  jobs := 1
  project := some ⟨false, [], defaultSourceDirectories, []⟩
  files := [.ofText "a.d".toList]
  modules := [smallModule]

theorem smallWorkspace_finds {settings : Settings} (path : settings.path = .here)
    (jobs : settings.jobs = .given 1) : settings.Finds smallWorkspace smallFindings := by
  have looked : smallWorkspace.node? .here = .ok (some smallWorkspace.root) := rfl
  have sources : findSources smallWorkspace defaultIgnored .here = pure [.ofText "a.d".toList] :=
    findSources_single defaultIgnored looked (by decide) (by decide) (by decide)
  have collected : (sourcesOfProject smallWorkspace .here ⟨false, [], defaultSourceDirectories, []⟩).run.value =
      .ok [.ofText "a.d".toList] := by
    unfold sourcesOfProject
    rw [if_neg Bool.false_ne_true, sources]
    rfl
  constructor
  · exact jobs
  · decide
  · rw [path, collectSources_directory looked, Reading.value_bind, smallWorkspace_detected]
    dsimp only
    rw [Reading.value_bind, collected]
    rfl
  · decide +kernel
  · exact List.cons_ne_nil _ _

def besideArguments : List Text := [".", "-o", "."].map String.toList

theorem readCommandLine_beside : readCommandLine besideArguments = .run { output := .given .here } := by
  decide

def besideWorkspace : Workspace :=
  ((siteAction smallFindings.project smallFindings.modules .here).run.run smallWorkspace).2

theorem runProgram_beside (rendering : Rendering) (createdAt : Text) :
    let outcome := runProgram rendering besideArguments createdAt smallWorkspace
    outcome.status = .ok 0 ∧ outcome.session.workspace = besideWorkspace := by
  let settings : Settings := { output := .given .here }
  have finds : settings.Finds smallWorkspace smallFindings := smallWorkspace_finds rfl rfl
  have succeeds : ((siteAction smallFindings.project smallFindings.modules .here).run.run
      smallWorkspace).1.isOk = true := by
    decide +kernel
  obtain ⟨written, done⟩ := exists_run_eq_ok succeeds
  have equal := @runSettings_site rendering _ _ { workspace := smallWorkspace } createdAt _ _ _ finds rfl rfl rfl done
  unfold runProgram
  rw [readCommandLine_beside]
  dsimp only
  rw [equal]
  exact ⟨rfl, rfl⟩

/-- A source is kept when the site is written into its own directory, and a run without sources fails and
changes nothing. -/
theorem runProgram_frame_source :
    let beside := runProgram terminalRendering besideArguments [] smallWorkspace
    let missing := runProgram terminalRendering ["b.d".toList] [] smallWorkspace
    beside.status = .ok 0 ∧ beside.session.workspace.root.descend? ["a.d".toList] = some (.file []) ∧
      missing.status = .ok 1 ∧ missing.session.workspace = smallWorkspace := by
  intro beside missing
  have failed : missing.status = .ok 1 := by rfl
  obtain ⟨unchanged, -⟩ := runProgram_frame terminalRendering ["b.d".toList] [] smallWorkspace
  obtain ⟨-, -, -, kept⟩ := runProgram_frame terminalRendering besideArguments [] smallWorkspace
  have noIndex : ∀ settings, readCommandLine besideArguments = .run settings → settings.json = none := by
    intro settings same
    rw [readCommandLine_beside] at same
    obtain rfl := CommandLine.run.inj same
    rfl
  have isInput : IsInputName "a.d".toList := .inl (by decide)
  exact ⟨(runProgram_beside _ []).1, kept noIndex [] "a.d".toList [] isInput rfl, failed,
    unchanged 1 failed (by decide)⟩

end DocSite
