import KeyScript.Text.Numeral

/-!
# Diagnostics

A diagnostic says why a line of a script was rejected. Each cause belongs to a class, and its
message is fixed by the cause and the first word of the line.

## Main definitions

- `ErrorClass` — the broad reasons
- `Cause` — the exact reasons
- `Diagnostic` — a rejected line with its cause
- `Diagnostic.message`, `Diagnostic.text` — the wording without and with the line number
-/

namespace KeyScript

/-- The broad reason for which a line is rejected. -/
inductive ErrorClass where
  /-- A number is missing or unusable. -/
  | missingArgument
  /-- There is nothing to repeat. -/
  | invalidPriorState
  /-- The first word is outside the vocabulary. -/
  | unknownCommand
  /-- Any other reason. -/
  | other
deriving DecidableEq, Repr, Inhabited

/-- The exact reason for which a line is rejected. -/
inductive Cause where
  /-- A delay without a number. -/
  | delayNumber
  /-- A repetition without a positive number. -/
  | repeatNumber
  /-- A repetition before any command. -/
  | nothingToRepeat
  /-- A first word outside the vocabulary. -/
  | unknownCommand
  /-- A missing argument, with no further detail. -/
  | missingArgument
  /-- A wrong prior state, with no further detail. -/
  | invalidPriorState
  /-- Any other reason, in its own words. -/
  | other (text : Bytes)
deriving DecidableEq, Repr, Inhabited

/-- The class of a cause. -/
def Cause.errorClass : Cause → ErrorClass
  | delayNumber | repeatNumber | missingArgument => .missingArgument
  | nothingToRepeat | invalidPriorState => .invalidPriorState
  | unknownCommand => .unknownCommand
  | other _ => .other

/-- A rejected line. -/
structure Diagnostic where
  /-- The line, counted from one. -/
  line : Int
  /-- The first word of the line, as written. -/
  token : Bytes
  /-- Why the line is rejected. -/
  cause : Cause
deriving DecidableEq, Repr, Inhabited

namespace Diagnostic

/-- The message without the line number. -/
def message (d : Diagnostic) : Bytes :=
  match d.cause with
  | .delayNumber => "DELAY requires a number"
  | .repeatNumber => "REPEAT requires positive number"
  | .nothingToRepeat => "REPEAT without previous command"
  | .unknownCommand => "Unknown command '" ++ d.token ++ "'"
  | .missingArgument => "missing argument"
  | .invalidPriorState => "invalid prior state"
  | .other text => text

/-- The words in front of the message. -/
def place (d : Diagnostic) : Bytes := "Line " ++ Numeral.ofInt d.line ++ ":"

/-- The message with the line number. -/
def text (d : Diagnostic) : Bytes := d.place ++ " " ++ d.message

end Diagnostic

end KeyScript
