import KeyScript.Config.File
import KeyScript.Sketch.Target
import KeyScript.Tool.CommandLine

/-!
# Settings

The settings of a task come from the flags, the environment, the configuration file and the
defaults, in this order. The first setting that is not valid is an error, and the settings that come
with an error are empty.

## Main definitions

- `Surroundings` — what a task sees apart from its command line
- `Settings` — the settings of a task
- `Invocation.settings` — the settings of an invocation under a configuration
-/

namespace KeyScript

/-- What a task sees apart from its command line. -/
structure Surroundings where
  /-- The environment variables that are set. -/
  environment : List (Bytes × Bytes) := []
  /-- Whether the standard output is a terminal. -/
  outputIsTerminal : Bool := false
  /-- Whether the standard error is a terminal. -/
  errorIsTerminal : Bool := false
deriving DecidableEq, Repr, Inhabited

/-- The names of the forms of the output. -/
def formatNames : List Bytes := ["ino", "json", "html"]

/-- The settings of a task. -/
structure Settings where
  target : Target
  /-- The name of the form of the output. -/
  format : Bytes
  strict : Bool
  color : Bool
deriving DecidableEq, Repr, Inhabited

/-- The settings in which nothing is set. -/
def Settings.empty : Settings where
  target := { layout := [], board := [] }
  format := []
  strict := false
  color := false

/-- Why settings are not valid. -/
inductive SettingsError where
  | badTarget (error : TargetError)
  | badFormat (name : Bytes)
  | badColor (name : Bytes)
deriving DecidableEq, Repr, Inhabited

/-- The wording of an error. -/
def SettingsError.message : SettingsError → Bytes
  | badTarget e => e.message
  | badFormat name =>
    "unknown output format " ++ Quoted.text name ++ " (want ino, json or html)"
  | badColor name => "unknown color mode " ++ Quoted.text name ++ " (want auto, always or never)"

/-- The value of a flag, from the command line or from the environment. -/
def Surroundings.flagValue? (env : Surroundings) (given : GivenFlags) (f : Flag) : Option Bytes :=
  (given.value? f).or (f.environmentName.bind fun v => env.environment.lookup v)

/-- A setting from a flag, from the configuration file or by default. -/
def pick (flag : Option Bytes) (fromFile default : Bytes) : Bytes :=
  match flag with
  | some v => v
  | none => if fromFile = [] then default else fromFile

/-- The configuration file that is asked for, if there is one. -/
def Invocation.configFile? (inv : Invocation) (env : Surroundings) : Option Bytes :=
  (env.flagValue? inv.common configFlag).filter (· ≠ [])

/-- Whether diagnostics are coloured, by the name of a mode. -/
def readColor (env : Surroundings) (mode : Bytes) : Except SettingsError Bool :=
  if mode = "always" then .ok true
  else if mode = "never" then .ok false
  else if mode = "auto" || mode = [] then .ok env.errorIsTerminal
  else .error (.badColor mode)

/-- The settings of an invocation under a configuration, and why they are not valid if they are not.
-/
def Invocation.settings (inv : Invocation) (env : Surroundings) (cfg : FileConfig) :
    Settings × Option SettingsError :=
  let layoutName := pick (env.flagValue? inv.common layoutFlag) cfg.layout ({} : Target).layout
  match Layout.ofName layoutName with
  | .error e => (.empty, some (.badTarget e))
  | .ok layout =>
    let boardName := pick (env.flagValue? inv.common boardFlag) cfg.board ({} : Target).board
    match Board.ofName boardName with
    | .error e => (.empty, some (.badTarget e))
    | .ok board =>
      let format := pick (inv.own.value? formatFlag) cfg.format "ino"
      if !formatNames.contains format then (.empty, some (.badFormat format))
      else
        let strict := ((inv.own.value? strictFlag).bind readSwitch?).getD cfg.strict
        match readColor env ((inv.common.value? colorFlag).getD "auto") with
        | .error e => (.empty, some e)
        | .ok color =>
          let target : Target := { layout := layout.name, board := board.name }
          ({ target, format, strict, color }, none)

end KeyScript
