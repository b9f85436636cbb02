import KeyScript.Tool.Flag

/-!
# The command line

The command line names one of a few tasks, with flags in front of the name that apply to all tasks
and flags behind it that apply to the task. Help can be asked for everywhere.

## Main definitions

- `Task` — what can be done
- `Invocation` — a task with its flags and arguments
- `UsageError` — what is wrong with a command line
- `CommandLine.ofArguments` — reads a command line
-/

namespace KeyScript

/-- What can be done. -/
inductive Task where
  | convert
  | check
  | watch
deriving DecidableEq, Repr, Inhabited

/-- The flag that asks for help. -/
def helpFlag : Flag := { names := ["help", "h"], isSwitch := true }

/-- The flag for the keyboard layout. -/
def layoutFlag : Flag := { names := ["layout"], environmentName := some "DUCKIFY_LAYOUT" }

/-- The flag for the board. -/
def boardFlag : Flag := { names := ["board"], environmentName := some "DUCKIFY_BOARD" }

/-- The flag for the configuration file. -/
def configFlag : Flag := { names := ["config"], environmentName := some "DUCKIFY_CONFIG" }

/-- The flag for the colours of diagnostics. -/
def colorFlag : Flag := { names := ["color"] }

/-- The flag for the file that is written. -/
def outputFlag : Flag := { names := ["output", "o"] }

/-- The flag for the form of the output. -/
def formatFlag : Flag := { names := ["format"] }

/-- The flag that makes diagnostics fatal. -/
def strictFlag : Flag := { names := ["strict"], isSwitch := true }

/-- The flag that asks for an example. -/
def exampleFlag : Flag := { names := ["example"], isSwitch := true }

/-- The flags that apply to all tasks. -/
def commonFlags : List Flag := [layoutFlag, boardFlag, configFlag, colorFlag, helpFlag]

/-- The flags of a task. -/
def Task.flags : Task → List Flag
  | convert => [outputFlag, formatFlag, strictFlag, exampleFlag, helpFlag]
  | check => [helpFlag]
  | watch => [{ outputFlag with isRequired := true }, helpFlag]

/-- The task with a name. -/
def Task.ofName? (name : Bytes) : Option Task :=
  if name = "convert" then some .convert
  else if name = "check" then some .check
  else if name = "watch" then some .watch
  else none

/-- Whether a word asks for help. -/
def isHelpWord (name : Bytes) : Bool := name.isOneOf ["help", "h"]

/-- A task with its flags and arguments. -/
structure Invocation where
  task : Task
  common : GivenFlags
  own : GivenFlags
  arguments : List Bytes
deriving DecidableEq, Repr, Inhabited

/-- What a command line asks for. -/
inductive CommandLine where
  | help
  | run (invocation : Invocation)
deriving DecidableEq, Repr, Inhabited

/-- What is wrong with a command line. -/
inductive UsageError where
  | flag (error : FlagError)
  /-- There is no help on a word. -/
  | noTopic (word : Bytes)
deriving DecidableEq, Repr, Inhabited

/-- The wording of an error. -/
def UsageError.message : UsageError → Bytes
  | flag e => e.message
  | noTopic word => "No help topic for '" ++ word ++ "'"

namespace CommandLine

/-- Flags and the other arguments, where a fault is an error of use. -/
def flagsOf (flags : List Flag) (arguments : List Bytes) :
    Except UsageError (GivenFlags × List Bytes) :=
  (readFlags flags arguments).mapError .flag

/-- Whether there is help on a word. -/
def isTopic (word : Bytes) : Bool := word = [] || (Task.ofName? word).isSome || isHelpWord word

/-- Help on the first argument, or in general if there is none. -/
def helpOn (arguments : List Bytes) : Except UsageError CommandLine :=
  match arguments with
  | [] => .ok help
  | word :: _ => if isTopic word then .ok help else .error (.noTopic word)

/-- What follows a word that asks for help. -/
def ofHelp (arguments : List Bytes) : Except UsageError CommandLine := do
  let (own, rest) ← flagsOf [helpFlag] arguments
  if own.isOn helpFlag then return help else helpOn rest

/-- What follows the name of a task. -/
def ofTask (task : Task) (common : GivenFlags) (arguments : List Bytes) :
    Except UsageError CommandLine := do
  let (own, rest) ← flagsOf task.flags arguments
  if own.isOn helpFlag then return help
  else match missing? task.flags own with
    | some e => .error (.flag e)
    | none => return .run { task, common, own, arguments := rest }

/-- Reads a command line. -/
def ofArguments (arguments : List Bytes) : Except UsageError CommandLine := do
  let (common, rest) ← flagsOf commonFlags arguments
  if common.isOn helpFlag then return help
  else match rest with
    | [] => return help
    | word :: more =>
      if isHelpWord word then ofHelp more
      else match Task.ofName? word with
        | some task => ofTask task common more
        | none => helpOn rest

end CommandLine

end KeyScript
