/-
The steps of a run.

Every step is told by an equation: what comes of it in a session, and the session behind it. A run as a whole
either ends without a change of the workspace or gets to the publication of modules that it has found, so what
the workspace becomes is a matter of publication alone.
-/
import DocSite.Command.Run
import DocSite.Proofs.Files.Operations

namespace DocSite

namespace Run

/-! ### Single steps -/

section Steps

variable {Value : Type} (session : Session)

theorem print_run (item : ConsoleItem) :
    (print item).run.run session = (.ok (), { session with console := session.console ++ [item] }) := rfl

theorem printLine_run (rendering : Rendering) (parts : List Text) :
    (printLine rendering parts).run.run session =
      (.ok (), { session with console := session.console ++ [.line (rendering.markup parts.flatten)] }) := rfl

theorem consult_run (reading : Workspace → Reading Value) :
    (consult reading).run.run session =
      ((reading session.workspace).run.value.mapError .reading,
        { session with log := session.log ++ (reading session.workspace).run.log }) := by
  have fetched : (get : Run Session).run.run session = (.ok session, session) := rfl
  unfold consult
  rw [run_bind, fetched]
  dsimp only
  cases (reading session.workspace).run.value with
  | ok value => rfl
  | error error => rfl

theorem perform_run (action : FileAction Value) :
    (perform action).run.run session =
      ((action.run.run session.workspace).1.mapError .writing,
        { session with workspace := (action.run.run session.workspace).2 }) := by
  have fetched : (get : Run Session).run.run session = (.ok session, session) := rfl
  unfold perform
  rw [run_bind, fetched]
  dsimp only
  cases action.run.run session.workspace with
  | mk outcome changed => cases outcome <;> rfl

theorem valueOf_run (value : OptionValue Value) :
    (valueOf value).run.run session =
      match value with
      | .given value => (.ok value, session)
      | .emptied => (.error .emptyOption, session) := by
  cases value <;> rfl

end Steps

end Run

/-! ### Publication -/

section Rendered

variable {rendering : Rendering}

variable (rendering) in
def siteBegun (output : OptionValue FilePath) : ConsoleItem :=
  .line (rendering.markup (["Generating documentation in ".toList,
    shownPath rendering "blue".toList output.pathText].flatten))

variable (rendering) in
def siteDone (output : FilePath) : List ConsoleItem :=
  [.line (rendering.markup (["[bold green]✓[/] Documentation generated successfully.".toList].flatten)),
    .line (rendering.markup (["Open ".toList,
      shownPath rendering "underline".toList (output.child indexPageName).text, " to view".toList].flatten))]

def siteAction (project : Option Project) (modules : List ModuleDoc) (output : FilePath) :
    FileAction (List FilePath) :=
  writeSite modules output ((project.map fun project => titleCased project.name).getD [])
    ((project.map fun project => project.license).getD [])

theorem publishIndex_none {settings : Settings} (noIndex : settings.json = none) (createdAt : Text)
    (modules : List ModuleDoc) : publishIndex rendering settings createdAt modules = pure () := by
  unfold publishIndex
  rw [noIndex]

theorem publishSite_run (settings : Settings) (project : Option Project) (modules : List ModuleDoc)
    (session : Session) :
    (publishSite rendering settings project modules).run.run session =
      if settings.noHtml then (.ok (), session)
      else
        let begun := { session with console := session.console ++ [siteBegun rendering settings.output] }
        match settings.output with
        | .emptied => (.error .emptyOption, begun)
        | .given output =>
            match (siteAction project modules output).run.run session.workspace with
            | (.error error, changed) => (.error (.writing error), { begun with workspace := changed })
            | (.ok written, changed) => (.ok (), ⟨changed, session.log ++ [siteNote output written],
                begun.console ++ siteDone rendering output⟩) := by
  unfold publishSite
  cases settings.noHtml with
  | true => rfl
  | false =>
      rw [if_neg Bool.false_ne_true, if_neg Bool.false_ne_true, run_bind, Run.printLine_run]
      dsimp only
      rw [run_bind, Run.valueOf_run]
      cases settings.output with
      | emptied => rfl
      | given output =>
          dsimp only
          rw [run_bind, Run.perform_run]
          unfold siteAction
          dsimp only
          generalize writeSite modules output _ _ = action
          cases action.run.run session.workspace with
          | mk outcome changed =>
              cases outcome with
              | error error => rfl
              | ok written =>
                  have joined := List.append_assoc (session.console ++ [siteBegun rendering (.given output)])
                  exact congrArg (fun console => (Except.ok (), Session.mk changed _ console)) (joined [_] [_])

/-! ### Whole runs -/

structure Findings where
  jobs : Int
  project : Option Project
  files : List FilePath
  modules : List ModuleDoc

structure Settings.Finds (settings : Settings) (workspace : Workspace) (found : Findings) : Prop where
  given : settings.jobs = .given found.jobs
  positive : ¬found.jobs < 1
  collected : (collectSources workspace settings.path).run.value = .ok (.ok (found.project, found.files))
  documented : (documentFiles workspace found.files found.jobs).run.value = .ok found.modules
  filled : found.modules ≠ []

def Findings.log (found : Findings) (settings : Settings) (workspace : Workspace) : Log :=
  (collectSources workspace settings.path).run.log ++ (documentFiles workspace found.files found.jobs).run.log

section Runs

variable {settings : Settings} {found : Findings} (session : Session) (createdAt : Text)

/-- A run that finds modules publishes them. -/
theorem runSettings_of_finds (finds : settings.Finds session.workspace found) :
    (runSettings rendering settings createdAt).run.run session =
      (do publish rendering settings createdAt found.project found.modules; return 0 : Run Nat).run.run
        ⟨session.workspace, session.log ++ found.log settings session.workspace, session.console ++
          [.panel (targetLines rendering settings.path found.project found.files.length)]⟩ := by
  have filled : found.modules.isEmpty = false := List.isEmpty_eq_false_iff.mpr finds.filled
  unfold runSettings Findings.log
  rw [run_bind, Run.valueOf_run, finds.given]
  dsimp only
  rw [if_neg finds.positive, run_bind, Run.consult_run, finds.collected]
  dsimp only [Except.mapError]
  rw [run_bind, Run.print_run]
  dsimp only
  rw [run_bind, Run.consult_run, finds.documented]
  dsimp only [Except.mapError]
  rw [filled, if_neg Bool.false_ne_true, List.append_assoc]

/-- A run that finds no modules changes nothing and does not succeed. -/
theorem runSettings_cases (settings : Settings) :
    (∃ found, settings.Finds session.workspace found) ∨
      ((runSettings rendering settings createdAt).run.run session).2.workspace = session.workspace ∧
        ((runSettings rendering settings createdAt).run.run session).1 ≠ .ok 0 := by
  have failed (parts : List Text) (session : Session) :
      ((failWith rendering parts).run.run session).2.workspace = session.workspace ∧
        ((failWith rendering parts).run.run session).1 ≠ .ok 0 :=
    ⟨rfl, fun ended => absurd (Except.ok.inj ended) (by decide)⟩
  unfold runSettings
  rw [run_bind, Run.valueOf_run]
  cases given : settings.jobs with
  | emptied => exact .inr ⟨rfl, fun ended => nomatch ended⟩
  | given jobs =>
      dsimp only
      by_cases few : jobs < 1
      · rw [if_pos few]
        exact .inr (failed _ session)
      rw [if_neg few, run_bind, Run.consult_run]
      cases collected : (collectSources session.workspace settings.path).run.value with
      | error error => exact .inr ⟨rfl, fun ended => nomatch ended⟩
      | ok sources =>
          dsimp only [Except.mapError]
          cases sources with
          | error error => exact .inr (failed _ _)
          | ok found =>
              obtain ⟨project, files⟩ := found
              dsimp only
              rw [run_bind, Run.print_run]
              dsimp only
              rw [run_bind, Run.consult_run]
              dsimp only
              cases documented : (documentFiles session.workspace files jobs).run.value with
              | error error => exact .inr ⟨rfl, fun ended => nomatch ended⟩
              | ok modules =>
                  dsimp only [Except.mapError]
                  cases modules with
                  | nil => exact .inr (failed _ _)
                  | cons module modules =>
                      exact .inl ⟨⟨jobs, project, files, module :: modules⟩, given, few, collected, documented,
                        List.cons_ne_nil _ _⟩

variable (rendering) in
def foundItems (settings : Settings) (found : Findings) : List ConsoleItem :=
  [.panel (targetLines rendering settings.path found.project found.files.length),
    .table (found.modules.map (moduleRow rendering))]

/-- A run that is asked for no saved index goes on with the site. The time plays no part in it. -/
theorem runSettings_publishSite (finds : settings.Finds session.workspace found)
    (noIndex : settings.json = none) :
    (runSettings rendering settings createdAt).run.run session =
      (do publishSite rendering settings found.project found.modules; return 0 : Run Nat).run.run
        ⟨session.workspace, session.log ++ found.log settings session.workspace,
          session.console ++ foundItems rendering settings found⟩ := by
  rw [runSettings_of_finds session createdAt finds, run_bind, publish, run_bind, Run.print_run]
  dsimp only
  rw [publishIndex_none noIndex, pure_bind, run_bind, foundItems, List.append_assoc]
  rfl

theorem runSettings_site {output : FilePath} {written : List FilePath} {changed : Workspace}
    (finds : settings.Finds session.workspace found) (noIndex : settings.json = none)
    (wanted : settings.noHtml = false) (given : settings.output = .given output)
    (done : (siteAction found.project found.modules output).run.run session.workspace = (.ok written, changed)) :
    (runSettings rendering settings createdAt).run.run session =
      (.ok 0, ⟨changed, session.log ++ found.log settings session.workspace ++ [siteNote output written],
        session.console ++ foundItems rendering settings found ++ [siteBegun rendering (.given output)] ++
          siteDone rendering output⟩) := by
  rw [runSettings_publishSite session createdAt finds noIndex, run_bind, publishSite_run, wanted,
    if_neg Bool.false_ne_true, given]
  dsimp only
  rw [done]
  rfl

end Runs

end Rendered

end DocSite
