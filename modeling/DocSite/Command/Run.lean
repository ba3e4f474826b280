/-
Running the program.

A run reads the command line, collects and documents the sources of its target, prints what it finds,
and writes the saved index and the site as far as they are asked for. It works on a workspace and gives
back the changed one with what has been printed and logged. How a markup text looks when it is printed is
left to a rendering.
-/
import DocSite.Command.Arguments
import DocSite.Page.Site
import DocSite.Project.Modules
import DocSite.Project.Sources

namespace DocSite

/-- How texts are printed. -/
structure Rendering where
  /-- A text that is meant literally, as markup. -/
  escape : Text → Text
  /-- What is printed for a markup text. -/
  markup : Text → Text
  /-- What is printed for a text without markup. -/
  plain : Text → Text

inductive ConsoleItem where
  | line (text : Text)
  /-- Lines in a frame with the name of the program. -/
  | panel (lines : List Text)
  /-- The table of modules, one row for each. -/
  | table (rows : List (List Text))
  deriving DecidableEq, Repr

inductive RunError where
  | reading (error : ReadError)
  | writing (error : FileError)
  /-- An option that is used has been given no value. -/
  | emptyOption
  deriving DecidableEq, Repr

def RunError.message : RunError → Text
  | .reading error => error.message
  | .writing error => error.message
  | .emptyOption => "an option has no value".toList

/-- What a run has done so far. -/
structure Session where
  workspace : Workspace
  log : Log := []
  console : List ConsoleItem := []

/-- A step of a run. It breaks off where reading does, where a file cannot be written, and where an
option without a value is used. -/
abbrev Run := ExceptT RunError (StateM Session)

namespace Run

def print (item : ConsoleItem) : Run Unit :=
  modify fun session => { session with console := session.console ++ [item] }

def printLine (rendering : Rendering) (parts : List Text) : Run Unit :=
  print (.line (rendering.markup parts.flatten))

def consult {α : Type} (reading : Workspace → Reading α) : Run α := do
  let result := (reading (← get).workspace).run
  modify fun session => { session with log := session.log ++ result.log }
  match result.value with
  | .ok value => return value
  | .error error => throw (.reading error)

def perform {α : Type} (action : FileAction α) : Run α := do
  let (result, changed) := action.run.run (← get).workspace
  modify fun session => { session with workspace := changed }
  match result with
  | .ok value => return value
  | .error error => throw (.writing error)

def valueOf {α : Type} : OptionValue α → Run α
  | .given value => return value
  | .emptied => throw .emptyOption

def note (entry : LogEntry) : Run Unit :=
  modify fun session => { session with log := session.log ++ [entry] }

end Run

/-- Each word of a name with its first letter as a capital, with one blank between words. -/
def titleCased (name : Text) : Text :=
  Text.join [' '] ((Text.words name).map Text.capitalize)

/-- The path that an option names, as it is shown; an option without a value shows an empty pair of
brackets. -/
def OptionValue.pathText : OptionValue FilePath → Text
  | .given path => path.text
  | .emptied => "[]".toList

def tableTitle : Text := "Modules".toList

def tableHeader : List Text :=
  ["Module", "Classes", "Enums", "Functions"].map String.toList

def programName : Text := "ceres".toList

/-- The level from which on log entries are shown. -/
def logThreshold (verbose : Nat) : LogLevel :=
  match verbose with
  | 0 => .warning
  | 1 => .info
  | _ => .debug

/-- What a run comes to: an exit code or the reason why it broke off, what the reading of the arguments has
printed, the log entries that are shown, and the session at the end. The log is shown beside what is
printed. -/
structure Outcome where
  status : Except RunError Nat
  printed : Text
  shownLog : List Text
  session : Session

section Rendered

variable (rendering : Rendering)

/-- The lines about a target with a given number of files. Line breaks in names break the lines. -/
def targetLines (target : FilePath) (project : Option Project) (count : Nat) : List Text :=
  let about : List Text :=
    match project with
    | none => ["Documenting single file: ".toList ++ target.text]
    | some project =>
        ["Documenting: ".toList ++ target.text] ++
          (if project.hasManifest then ["Detected dub project".toList] else []) ++
          (if project.name.isEmpty then [] else ["Project name: ".toList ++ project.name]) ++
          (if project.license.isEmpty then [] else ["License: ".toList ++ project.license])
  let found := "Found ".toList ++ Text.ofNat count ++ " D file(s)".toList
  Text.splitOn '\n' (rendering.plain (Text.join ['\n'] (about ++ [found])))

def moduleRow (module : ModuleDoc) : List Text :=
  [rendering.markup (rendering.escape module.name), Text.ofNat module.aggregates.length,
    Text.ofNat module.enums.length, Text.ofNat module.functions.length]

def failWith (parts : List Text) : Run Nat := do
  Run.printLine rendering ("[bold red]Error:[/] ".toList :: parts)
  return 1

/-- The parts of the line that tells why there are no sources. -/
def missingParts (error : SourcesError) : List Text :=
  match error with
  | .missing target => ["Path does not exist: ".toList, rendering.escape target.text]
  | .noSources _ => [rendering.escape error.message]

def shownPath (style : Text) (path : Text) : Text :=
  '[' :: style ++ ']' :: rendering.escape path ++ "[/]".toList

def publishIndex (settings : Settings) (createdAt : Text) (modules : List ModuleDoc) : Run Unit :=
  match settings.json with
  | some (.given path) => do
      Run.perform (saveIndex createdAt modules path)
      Run.printLine rendering ["[bold green]✓[/] Modules saved to ".toList,
        shownPath rendering "underline".toList path.text]
  | _ => return

/-- Writes the site unless it is not wanted. -/
def publishSite (settings : Settings) (project : Option Project) (modules : List ModuleDoc) :
    Run Unit := do
  if settings.noHtml then return
  Run.printLine rendering ["Generating documentation in ".toList,
    shownPath rendering "blue".toList settings.output.pathText]
  let output ← Run.valueOf settings.output
  let projectName := (project.map fun project => titleCased project.name).getD []
  let license := (project.map fun project => project.license).getD []
  let written ← Run.perform (writeSite modules output projectName license)
  Run.note (siteNote output written)
  Run.printLine rendering ["[bold green]✓[/] Documentation generated successfully.".toList]
  Run.printLine rendering ["Open ".toList,
    shownPath rendering "underline".toList (output.child indexPageName).text, " to view".toList]

def publish (settings : Settings) (createdAt : Text) (project : Option Project)
    (modules : List ModuleDoc) : Run Unit := do
  Run.print (.table (modules.map (moduleRow rendering)))
  publishIndex rendering settings createdAt modules
  publishSite rendering settings project modules

def runSettings (settings : Settings) (createdAt : Text) : Run Nat := do
  let jobs ← Run.valueOf settings.jobs
  if jobs < 1 then failWith rendering ["--jobs must be at least 1".toList]
  else
    match ← Run.consult fun workspace => collectSources workspace settings.path with
    | .error error => failWith rendering (missingParts rendering error)
    | .ok (project, files) =>
        Run.print (.panel (targetLines rendering settings.path project files.length))
        let modules ← Run.consult fun workspace => documentFiles workspace files jobs
        if modules.isEmpty then
          failWith rendering ["None of the ".toList, Text.ofNat files.length,
            " D file(s) could be read".toList]
        else
          publish rendering settings createdAt project modules
          return 0

/-- An entry of the log as it is shown. -/
def shownEntry (entry : LogEntry) : Text :=
  match entry.level with
  | .notice => rendering.markup entry.message
  | _ => entry.text

def runProgram (arguments : List Text) (createdAt : Text) (workspace : Workspace) : Outcome :=
  match readCommandLine arguments with
  | .quit code printed => ⟨.ok code, printed, [], { workspace := workspace }⟩
  | .run settings =>
      let (status, session) := (runSettings rendering settings createdAt).run.run { workspace := workspace }
      let entries := session.log.filter (·.reaches (logThreshold settings.verbose))
      ⟨status, [], entries.map (shownEntry rendering), session⟩

end Rendered

end DocSite
