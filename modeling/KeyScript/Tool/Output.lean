import KeyScript.Json.Value
import KeyScript.Report.Page
import KeyScript.Sketch.Basic
import KeyScript.Tool.Settings

/-!
# Output

What a task writes: the diagnostics of a script, and the script as a sketch, as JSON or as a page.

## Main definitions

- `diagnosticLines` — the diagnostics of a script, one a line
- `renderOutput` — a script in a form
- `Conversion`, `Settings.convert`, `checkScript` — what comes of a script
-/

namespace KeyScript

/-- How parts of diagnostics are set off. -/
inductive Paint where
  | none
  /-- By escape sequences, each of which is taken back behind its part or not. -/
  | escapes (takeBack : Bool)
deriving DecidableEq, Repr, Inhabited

/-- A text that is set off in a style of terminals. -/
def Paint.wrap (paint : Paint) (style text : Bytes) : Bytes :=
  match paint with
  | none => text
  | escapes takeBack =>
    "\x1b[" ++ style ++ "m" ++ text ++ (if takeBack then ("\x1b[0m" : Bytes) else [])

/-- The style of the name of a script. -/
def boldStyle : Bytes := "1"

/-- The style of the number of a line. -/
def redStyle : Bytes := "31"

/-- A diagnostic of a script as a line. -/
def diagnosticLine (paint : Paint) (name : Bytes) (d : Diagnostic) : Bytes :=
  paint.wrap boldStyle (name ++ ": ") ++ paint.wrap redStyle d.place ++ " " ++ d.message ++ "\n"

/-- The diagnostics of a script, one a line. -/
def diagnosticLines (paint : Paint) (name : Bytes) (r : Result) : Bytes :=
  r.errors.flatMap (diagnosticLine paint name)

/-- How diagnostics are set off under some settings. -/
def Settings.paint (s : Settings) (env : Surroundings) : Paint :=
  if s.color then .escapes env.outputIsTerminal else .none

/-- A command in JSON. -/
def Command.json (c : Command) : Json :=
  .record [("type", .ofText c.kind.name), ("args", .ofList .ofText c.args), ("line", .ofInt c.line)]

/-- A script in a form. -/
def renderOutput (s : Settings) (name script : Bytes) (r : Result) : Bytes :=
  let sketch := Sketch.generate r.commands s.target
  if s.format = "json" then
    (Json.record [("sketch", .ofText sketch), ("errors", .ofList .ofText r.messages),
      ("commands", .ofList Command.json r.commands)]).renderIndented ++ "\n"
  else if s.format = "html" then
    ({ title := name, script, result := r, sketch, target := s.target } : Page).render
  else sketch

/-- What comes of a script: the diagnostics, and the output unless the script is refused. -/
structure Conversion where
  diagnostics : Bytes
  output : Option Bytes
  /-- The number of diagnostics. -/
  count : Nat
deriving DecidableEq, Repr, Inhabited

/-- Converts a script. It is refused if diagnostics are fatal and there are some. -/
def Settings.convert (s : Settings) (paint : Paint) (name script : Bytes) : Conversion :=
  let r := parse script
  { diagnostics := diagnosticLines paint name r
    output := if s.strict && !r.isOk then none else some (renderOutput s name script r)
    count := r.errors.length }

/-- Checks a script. It is refused if there are diagnostics, and there is no output. -/
def checkScript (paint : Paint) (name script : Bytes) : Conversion :=
  let r := parse script
  { diagnostics := diagnosticLines paint name r
    output := if r.isOk then some [] else none
    count := r.errors.length }

/-- The example script. -/
def exampleScript : Bytes :=
  Bytes.unlines ["REM Example DuckyScript", "DELAY 500", "STRING Hello, world!", "ENTER"]

end KeyScript
