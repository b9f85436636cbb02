import KeyScript.Exit
import KeyScript.Tool.Output
import KeyScript.Tool.Watch

/-!
# Running a task

The tasks of the command line on any host, and the exit code of the program.

## Main definitions

- `ToolError` — why a task fails
- `Invocation.run` — runs a task
- `runArguments` — runs a command line
- `exitOf` — how the program ends
-/

namespace KeyScript

/-- Why a task fails. -/
inductive ToolError where
  | usage (error : UsageError)
  | file (error : FileError)
  | config (path : Bytes) (error : ConfigError)
  | settings (error : SettingsError)
  | tooManyArguments
  | noScript
  /-- A script was refused, with the number of its diagnostics. -/
  | diagnostics (name : Bytes) (count : Nat)
  /-- A script whose directory cannot be watched. -/
  | watch (script : Bytes) (problem : FileProblem)
deriving DecidableEq, Repr, Inhabited

/-- The wording of an error. -/
def ToolError.message : ToolError → Bytes
  | usage e => e.message
  | file e => e.message
  | config path e => e.message path
  | settings e => e.message
  | tooManyArguments => "too many arguments; want a single script"
  | noScript => "watch needs a script file"
  | diagnostics name count =>
    name ++ ": " ++ Numeral.ofNat count ++ " line(s) could not be translated"
  | watch script problem => "watch " ++ script ++ ": " ++ problem.message

/-- The name of the program. -/
def toolName : Bytes := "duckify"

/-- How the program is used. -/
def usageText : Bytes :=
  Bytes.unlines
    ["USAGE:",
     "   duckify [global flags] convert [flags] <script|->",
     "   duckify [global flags] check <script|->",
     "   duckify [global flags] watch -o <sketch.ino|dir> <script>",
     "",
     "GLOBAL FLAGS:",
     "   --layout value   keyboard layout of the target host: us, de, uk [$DUCKIFY_LAYOUT]",
     "   --board value    target board: leonardo, duemilanove, proMicro [$DUCKIFY_BOARD]",
     "   --config value   TOML configuration file [$DUCKIFY_CONFIG]",
     "   --color value    colorize diagnostics: auto, always, never",
     "   --help, -h       show help",
     "",
     "CONVERT FLAGS:",
     "   --output FILE, -o FILE   write the result to FILE instead of stdout",
     "   --format value           output format: ino, json, html",
     "   --strict                 fail if the script has diagnostics",
     "   --example                print an example script and exit"]

section

variable {m : Type → Type} [Monad m]

/-- A task on a host, which may fail. -/
abbrev Action (m : Type → Type) := ExceptT ToolError m

/-- An operation of a host on a file. -/
def onFile {α : Type} (operation : m (Except FileError α)) : Action m α :=
  ExceptT.mk do return (← operation).mapError .file

/-- What the configuration file of an invocation sets. -/
def Invocation.config (inv : Invocation) (env : Surroundings) (host : Host m) :
    Action m FileConfig := do
  match inv.configFile? env with
  | none => return {}
  | some file =>
    let text ← onFile (host.readFile file)
    MonadExcept.ofExcept ((FileConfig.ofText text).mapError (.config file))

/-- The settings of an invocation, and the error if there is one. -/
def Invocation.loadSettings (inv : Invocation) (env : Surroundings) (host : Host m) :
    m (Settings × Option ToolError) := do
  match ← (inv.config env host).run with
  | .error e => return (.empty, some e)
  | .ok cfg =>
    let (settings, error) := inv.settings env cfg
    return (settings, error.map .settings)

/-- The settings with which a task goes on if there is no error. -/
def Invocation.validSettings (inv : Invocation) (env : Surroundings) (host : Host m) :
    Action m Settings :=
  ExceptT.mk do
    match ← inv.loadSettings env host with
    | (settings, none) => return .ok settings
    | (_, some e) => return .error e

/-- The name of a script that is read from the standard input. -/
def inputName : Bytes := "<stdin>"

/-- The script that the arguments name, with the name that diagnostics give it. -/
def readScript (arguments : List Bytes) (host : Host m) : Action m (Bytes × Bytes) := do
  if arguments.length > 1 then throw .tooManyArguments
  else
    let name := arguments.headD []
    if name = [] || name = "-" then return (inputName, ← (host.readInput : m Bytes))
    else return (name, ← onFile (host.readFile name))

/-- Writes the diagnostics of a script, and goes on if it is not refused. -/
def Conversion.deliver (c : Conversion) (name : Bytes) (host : Host m) : Action m Bytes := do
  (host.writeError c.diagnostics : m Unit)
  match c.output with
  | some output => return output
  | none => throw (.diagnostics name c.count)

/-- Converts a script. -/
def Invocation.convert (inv : Invocation) (env : Surroundings) (host : Host m) : Action m Unit := do
  if inv.own.isOn exampleFlag then (host.writeOutput exampleScript : m Unit)
  else
    let settings ← inv.validSettings env host
    let (name, script) ← readScript inv.arguments host
    let output ← (settings.convert (settings.paint env) name script).deliver name host
    match (inv.own.value? outputFlag).filter (· ≠ []) with
    | some file => onFile (host.writeFile file output)
    | none => (host.writeOutput output : m Unit)

/-- Checks a script. -/
def Invocation.check (inv : Invocation) (env : Surroundings) (host : Host m) : Action m Unit := do
  let settings ← inv.validSettings env host
  let (name, script) ← readScript inv.arguments host
  let _ ← (checkScript (settings.paint env) name script).deliver name host

/-- What is said after a build. -/
def buildReport (paint : Paint) (job : WatchJob) (b : Build) : Bytes :=
  match b.error with
  | some e => lastWords toolName e.message
  | none =>
    diagnosticLines paint job.script b.result ++ toolName ++ ": wrote " ++ job.sketch ++ " (" ++
      Numeral.ofNat b.result.commands.length ++ " commands, " ++
      Numeral.ofNat b.result.errors.length ++ " diagnostics)\n"

/-- Builds the sketch of a script and says so. -/
def buildAndReport (paint : Paint) (job : WatchJob) (host : Host m) : m Unit := do
  let b ← job.build host
  host.writeError (buildReport paint job b)

/-- Builds the sketch of a script for the first time. The result is the job to go on with. -/
def Invocation.watch (inv : Invocation) (env : Surroundings) (host : Host m) :
    Action m (WatchJob × Paint) := do
  let settings ← inv.validSettings env host
  let script := inv.arguments.headD []
  if script = [] || script = "-" then throw .noScript
  else
    let given := (inv.own.value? outputFlag).getD []
    let inside ← (host.isDirectory given : m Bool)
    let sketch := if inside then Path.join given defaultSketchName else given
    let job : WatchJob := { script, sketch, target := settings.target }
    match ← (job.problem? host : m (Option FileProblem)) with
    | some problem => throw (.watch script problem)
    | none =>
      let paint := settings.paint env
      (buildAndReport paint job host : m Unit)
      return (job, paint)

/-- Runs a task. The result is the job to go on with, if there is one. -/
def Invocation.run (inv : Invocation) (env : Surroundings) (host : Host m) :
    Action m (Option (WatchJob × Paint)) :=
  match inv.task with
  | .convert => do
    inv.convert env host
    return none
  | .check => do
    inv.check env host
    return none
  | .watch => some <$> inv.watch env host

/-- Runs a command line. The result is the job to go on with, if there is one. -/
def runArguments (arguments : List Bytes) (env : Surroundings) (host : Host m) :
    Action m (Option (WatchJob × Paint)) := do
  match CommandLine.ofArguments arguments with
  | .ok (.run inv) => inv.run env host
  | .ok .help =>
    (host.writeOutput usageText : m Unit)
    return none
  | .error e =>
    match e with
    | .flag f =>
      (host.writeOutput ("Incorrect Usage: " ++ f.message ++ "\n\n" ++ usageText) : m Unit)
    | .noTopic _ => pure ()
    throw (.usage e)

end

/-- How the program ends after a task. -/
def exitOf {α : Type} : Except ToolError α → Exit
  | .ok _ => {}
  | .error (.usage (.noTopic word)) =>
    { code := 3, words := (UsageError.noTopic word).message ++ "\n" }
  | .error e => { code := 1, words := lastWords toolName e.message }

end KeyScript
