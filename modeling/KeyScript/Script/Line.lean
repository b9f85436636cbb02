import KeyScript.Script.Command
import KeyScript.Script.Diagnostic
import KeyScript.Text.Case
import KeyScript.Text.Words

/-!
# Reading one line

What a line of a script says, taken by itself: nothing, a command, a request to repeat the command
before it, or something that is rejected. Whether there is a command to repeat is not known here.

## Main definitions

- `isBlank` — what separates words of a script
- `Reading` — what a line says
- `Reading.ofLine` — the reading of a line
-/

namespace KeyScript

/-- What separates words of a script: white space, or a byte order mark, so that a script saved with
one reads like a script saved without. -/
def isBlank (c : Char) : Bool := isSpace c || c.toNat == 0xFEFF

/-- What a line says. -/
inductive Reading where
  /-- A blank line or a comment. -/
  | nothing
  /-- A command with its arguments. -/
  | command (kind : Kind) (args : List Bytes)
  /-- A request for `count` more copies of the command before, with the first word as written. -/
  | again (token : Bytes) (count : Nat)
  /-- A line that is rejected, with its first word as written. -/
  | rejected (token : Bytes) (cause : Cause)
deriving DecidableEq, Repr, Inhabited

namespace Reading

/-- The words that make a line a chord, other than those for the GUI key. -/
def chordWords : List Bytes := ["CTRL", "CONTROL", "ALT", "SHIFT"]

/-- The arguments of a chord with the GUI key: `GUI` and then the words other than `drop`. -/
def guiArgs (drop : Bytes) (words : List Bytes) : List Bytes :=
  "GUI" :: words.filter fun w => w != drop

/-- The text that a `STRING` line types: the line without its first word and the space around it.
Space at the end belongs to the text. -/
def stringText (line : Bytes) : Bytes := Rune.join (afterFirstWord isBlank (runes line))

/-- A line whose first word is no statement name: a chord, a simple key, or an unknown command. -/
def ofKeys (token : Bytes) (words : List Bytes) : Reading :=
  if words.contains "GUI" then command .chord (guiArgs "GUI" words)
  else if words.contains "WINDOWS" then command .chord (guiArgs "WINDOWS" words)
  else if words.any chordWords.contains then command .chord words
  else match words.head?.bind Key.ofName? with
    | some k => command (.key k) []
    | none => rejected token .unknownCommand

/-- The reading of a delay, from the word after `DELAY`. -/
def ofDelay (token number : Bytes) : Reading :=
  match Numeral.leadingText? number with
  | some ms => command .delay [ms]
  | none => rejected token .delayNumber

/-- The largest number of copies that one line can ask for. -/
def maxCount : Nat := 9223372036854775807

/-- The number of copies that a numeral without a sign asks for. -/
def copyCount (digits : Bytes) : Nat := min (Numeral.valueOf digits) maxCount

/-- The reading of a repetition, from the word after `REPEAT`. -/
def ofRepeat (token number : Bytes) : Reading :=
  match Numeral.leadingText? number with
  | some digits =>
    if digits = [Numeral.zero] ∨ digits.startsWith [Numeral.minus] then rejected token .repeatNumber
    else again token (copyCount digits)
  | none => rejected token .repeatNumber

/-- The reading of a line. Names of commands may be written in any case, but a comment starts with
`REM` in capitals. Blanks around the line do not count, except in the text of a `STRING`. -/
def ofLine (line : Bytes) : Reading :=
  let trimmed := line.trim isBlank
  if trimmed = [] ∨ trimmed.startsWith "REM" then nothing
  else match trimmed.words isBlank with
    | [] => nothing
    | token :: rest =>
      let name := token.upper
      if name = "STRING" then command .string [stringText line]
      else if name = "DELAY" then ofDelay token (rest.headD [])
      else if name = "REPEAT" then ofRepeat token (rest.headD [])
      else ofKeys token ((token :: rest).map Bytes.upper)

end Reading

end KeyScript
