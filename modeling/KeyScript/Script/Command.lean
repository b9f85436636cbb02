import KeyScript.Script.Key

/-!
# Commands

A command is one instruction of a script: its kind, its arguments and the line it came from. A
text has the text as its argument, a delay the number of milliseconds, a chord its words; a simple
key has no arguments.

## Main definitions

- `Command` — an instruction
- `Command.arg` — an argument by its index
- `Command.same` — equality up to the line
- `Command.text` — the instruction as a line of a script
-/

namespace KeyScript

/-- An instruction of a script. -/
structure Command where
  /-- What the command is. -/
  kind : Kind
  /-- Its arguments. -/
  args : List Bytes := []
  /-- The line it came from, counted from one; a copy has the line that asked for the copy. -/
  line : Int := 0
deriving DecidableEq, Repr, Inhabited

namespace Command

/-- The argument at an index, empty outside the arguments. -/
def arg (c : Command) (i : Int) : Bytes :=
  if i < 0 then [] else c.args.getD i.toNat []

/-- Whether two commands have the same kind and arguments. -/
def same (c d : Command) : Bool := c.kind == d.kind && c.args == d.args

/-- The command as a line of a script. -/
def text (c : Command) : Bytes :=
  match c.kind with
  | .string => if c.arg 0 = [] then "STRING" else "STRING " ++ c.arg 0
  | .chord => Bytes.joinWith " " c.args
  | kind => if c.args = [] then kind.name else kind.name ++ " " ++ Bytes.joinWith " " c.args

end Command

end KeyScript
