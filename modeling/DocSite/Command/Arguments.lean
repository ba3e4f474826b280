/-
Command-line arguments.

An argument is an option, a plain argument, or the pair of dashes behind which every argument is plain.
Long options may be shortened as long as one option fits, and may have their value behind an equals
sign; short ones may be run together and have their value attached. All arguments are told apart before
the first of them takes effect. Then they take effect in order, and the first that ends the program or
is wrong decides; arguments that nothing takes are an error at the end.
-/
import DocSite.Files.Path
import DocSite.Text.Numeral

namespace DocSite

inductive CommandOption where
  | help
  | output
  | json
  | noHtml
  | jobs
  | verbose
  | version
  deriving DecidableEq, Repr

def CommandOption.takesValue : CommandOption → Bool
  | .output => true
  | .json => true
  | .jobs => true
  | _ => false

def optionSpellings : List (Text × CommandOption) :=
  [("-h", .help), ("--help", .help), ("-o", .output), ("--output", .output),
    ("--json", .json), ("--no-html", .noHtml), ("-j", .jobs), ("--jobs", .jobs),
    ("-v", .verbose), ("--verbose", .verbose), ("--version", .version)].map
    fun spelling => (spelling.1.toList, spelling.2)

/-- What an option has been given. The pair of dashes may be attached to an option like a value, but it
takes the place of one only: the option is given, and it has no value. -/
inductive OptionValue (α : Type) where
  | given (value : α)
  | emptied
  deriving DecidableEq, Repr

structure Settings where
  path : FilePath := .here
  output : OptionValue FilePath := .given (.ofText "docs".toList)
  json : Option (OptionValue FilePath) := none
  noHtml : Bool := false
  jobs : OptionValue Int := .given 1
  verbose : Nat := 0
  deriving DecidableEq, Repr

inductive CommandLine where
  | run (settings : Settings)
  /-- The program ends at once with a code, after a text is printed. -/
  | quit (code : Nat) (printed : Text)
  deriving DecidableEq, Repr

/-! ### Telling arguments apart -/

inductive Argument where
  | plain (text : Text)
  | dashes
  /-- An option with the text that is attached to it. -/
  | option (isLong : Bool) (option : CommandOption) (attached : Option Text)
  | unknown
  deriving DecidableEq, Repr

def isLongSpelling (spelling : Text) : Bool :=
  Text.beginsWith ['-', '-'] spelling

def optionNamed? (spelling : Text) : Option CommandOption :=
  optionSpellings.lookup spelling

def cutAssignment (text : Text) : Text × Option Text :=
  match Text.cutAt? '=' text with
  | some (spelling, value) => (spelling, some value)
  | none => (text, none)

/-- The options that a text which is no full spelling may stand for. -/
def optionCandidates (text : Text) : List Argument :=
  if isLongSpelling text then
    let (shortened, attached) := cutAssignment text
    (optionSpellings.filter fun spelling => Text.beginsWith shortened spelling.1).map fun spelling =>
      .option true spelling.2 attached
  else
    (optionSpellings.filter fun spelling => spelling.1 == text.take 2).map fun spelling =>
      .option false spelling.2 (some (text.drop 2))

/-- What an argument before any pair of dashes is; nothing when several options fit. -/
def classifyArgument (text : Text) : Option Argument :=
  if text.head? ≠ some '-' ∨ text.length = 1 then some (.plain text)
  else
    let (spelling, attached) := cutAssignment text
    match optionNamed? text, optionNamed? spelling with
    | some option, _ => some (.option (isLongSpelling text) option none)
    | none, some option => some (.option (isLongSpelling spelling) option attached)
    | none, none =>
        match optionCandidates text with
        | [] =>
            if Text.looksNegative text || text.contains ' ' then some (.plain text)
            else some .unknown
        | [candidate] => some candidate
        | _ => none

/-- What the arguments are. Behind the first pair of dashes all of them are plain. -/
def classifyArguments : List Text → Option (List Argument)
  | [] => some []
  | text :: rest =>
      if text = ['-', '-'] then some (.dashes :: rest.map Argument.plain)
      else
        match classifyArgument text with
        | none => none
        | some argument => (classifyArguments rest).map (argument :: ·)

/-! ### Taking effect -/

def versionText : Text := "ceres 0.0.1\n".toList

def usageText : Text :=
  ("usage: ceres [-h] [-o OUTPUT] [--json FILE] [--no-html] [-j JOBS] [-v] [--version] [path]\n" ++
    "\nGenerate HTML documentation from D source files\n").toList

/-- How the reading goes on behind an argument: with changed settings, or not at all. -/
abbrev Effect := Except (Nat × Text) Settings

def wrongUsage : Effect := .error (2, [])

def flagEffect (option : CommandOption) (settings : Settings) : Effect :=
  match option with
  | .help => .error (0, usageText)
  | .version => .error (0, versionText)
  | .noHtml => .ok { settings with noHtml := true }
  | .verbose => .ok { settings with verbose := settings.verbose + 1 }
  | _ => wrongUsage

def readValue {α : Type} (read? : Text → Option α) (text : Text) : Option (OptionValue α) :=
  if text = ['-', '-'] then some .emptied else (read? text).map .given

def valueEffect (option : CommandOption) (value : Text) (settings : Settings) : Effect :=
  let toPath (text : Text) : Option FilePath := some (.ofText text)
  match option with
  | .output =>
      match readValue toPath value with
      | some output => .ok { settings with output := output }
      | none => wrongUsage
  | .json => .ok { settings with json := readValue toPath value }
  | .jobs =>
      match readValue Text.toInt? value with
      | some jobs => .ok { settings with jobs := jobs }
      | none => wrongUsage
  | _ => wrongUsage

/-- What a run of short options comes to. -/
inductive Cluster where
  /-- None of the options takes a value. -/
  | complete (flags : List CommandOption)
  /-- The last option has a value attached. -/
  | withValue (flags : List CommandOption) (option : CommandOption) (value : Text)
  /-- The last option has its value in the next argument. -/
  | needsValue (flags : List CommandOption) (option : CommandOption)
  | wrong
  deriving DecidableEq, Repr

def Cluster.withFlag (flag : CommandOption) : Cluster → Cluster
  | .complete flags => .complete (flag :: flags)
  | .withValue flags option value => .withValue (flag :: flags) option value
  | .needsValue flags option => .needsValue (flag :: flags) option
  | .wrong => .wrong

/-- Reads what is attached to a short option: its value, or the letters of more short options. A letter
that is no option makes the whole run wrong. -/
def readCluster (option : CommandOption) : Text → Cluster
  | [] => if option.takesValue then .needsValue [] option else .complete [option]
  | letter :: rest =>
      if option.takesValue then .withValue [] option (letter :: rest)
      else
        match optionNamed? ['-', letter] with
        | none => .wrong
        | some next => (readCluster next rest).withFlag option

/-- What an option with the text attached to it comes to. An option that takes a value may have an empty
one attached. To one that takes none, only a short one can have something attached, namely more
options. -/
def readOption (isLong : Bool) (option : CommandOption) : Option Text → Cluster
  | none => readCluster option []
  | some attached =>
      if option.takesValue then .withValue [] option attached
      else if isLong || attached.isEmpty then .wrong
      else readCluster option attached

def flagEffects (flags : List CommandOption) (settings : Settings) : Effect :=
  flags.foldlM (fun settings flag => flagEffect flag settings) settings

/-- How far the path has been read. It takes one plain argument, with the pair of dashes that stands
directly before or behind it. -/
inductive PathState where
  | open
  /-- The pair of dashes has been met, and the path may follow at once. -/
  | dashed
  /-- The path has just been met, and a pair of dashes may follow at once. -/
  | taken
  | closed
  deriving DecidableEq, Repr

/-- Where the reading stands. -/
structure Progress where
  settings : Settings := {}
  path : PathState := .open
  /-- The flags and the option of a run that waits for its value. -/
  awaiting : Option (List CommandOption × CommandOption) := none
  /-- Whether an argument has been met that nothing takes. -/
  hasExtra : Bool := false

namespace Progress

def withExtra (progress : Progress) : Progress :=
  { progress with hasExtra := true }

def withPlain (progress : Progress) (text : Text) : Progress :=
  let settings := { progress.settings with path := .ofText text }
  match progress.path with
  | .open => { progress with settings := settings, path := .taken }
  | .dashed => { progress with settings := settings, path := .closed }
  | .taken => { progress.withExtra with path := .closed }
  | .closed => progress.withExtra

def withDashes (progress : Progress) : Progress :=
  match progress.path with
  | .open => { progress with path := .dashed }
  | .taken => { progress with path := .closed }
  | _ => progress.withExtra

/-- The reading behind an option: nothing but an untouched path can still take a pair of dashes. -/
def withOption (progress : Progress) (cluster : Cluster) : Except (Nat × Text) Progress := do
  let path : PathState := if progress.path = .taken then .closed else progress.path
  match cluster with
  | .wrong => .error (2, [])
  | .complete flags =>
      let settings ← flagEffects flags progress.settings
      return { progress with settings := settings, path := path }
  | .withValue flags option value =>
      let settings ← flagEffects flags progress.settings
      let settings ← valueEffect option value settings
      return { progress with settings := settings, path := path }
  | .needsValue flags option =>
      return { progress with path := path, awaiting := some (flags, option) }

def step (progress : Progress) (argument : Argument) : Except (Nat × Text) Progress :=
  match progress.awaiting, argument with
  | some (flags, option), .plain value => do
      let settings ← flagEffects flags progress.settings
      let settings ← valueEffect option value settings
      return { progress with settings := settings, awaiting := none }
  | some _, _ => .error (2, [])
  | none, .plain text => .ok (progress.withPlain text)
  | none, .dashes => .ok progress.withDashes
  | none, .unknown => .ok { progress.withExtra with
      path := if progress.path = .taken then .closed else progress.path }
  | none, .option isLong option attached =>
      progress.withOption (readOption isLong option attached)

def finish (progress : Progress) : CommandLine :=
  if progress.awaiting.isSome || progress.hasExtra then .quit 2 []
  else .run progress.settings

end Progress

def readCommandLine (arguments : List Text) : CommandLine :=
  match classifyArguments arguments with
  | none => .quit 2 []
  | some classified =>
      match classified.foldlM Progress.step {} with
      | .error (code, printed) => .quit code printed
      | .ok progress => progress.finish

end DocSite
