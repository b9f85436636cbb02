import KeyScript.Script.Command
import KeyScript.Sketch.Literal
import KeyScript.Text.Case

/-!
# Statements of a sketch

Each command becomes a few statements: a text is typed, a delay waits, a key is written, and a chord
presses its modifiers and its key, waits a little and releases everything.

## Main definitions

- `KeyCode` — a key as a sketch names it
- `Key.keyCode?`, `modifierCode?`, `chordKey` — the key for a name, a modifier and the end of a
  chord
- `Statement` — a line of the body of a sketch
- `Command.statements` — the statements of a command
-/

namespace KeyScript

/-- A key as a sketch names it. -/
inductive KeyCode where
  /-- A constant of the keyboard library. -/
  | constant (name : Bytes)
  /-- A character. -/
  | character (c : Char)
deriving DecidableEq, Repr, Inhabited

/-- The expression for a key. -/
def KeyCode.expression : KeyCode → Bytes
  | constant name => name
  | character c => Literal.character c

/-- The key that stands for every key without a code of its own in a chord. -/
def KeyCode.fallback : KeyCode := .constant "KEY_RETURN"

/-- The code of a simple key, if it has one. -/
def Key.keyCode? : Key → Option KeyCode
  | enter => some (.constant "KEY_RETURN")
  | returnKey => some (.constant "KEY_RETURN")
  | tab => some (.constant "KEY_TAB")
  | esc => some (.constant "KEY_ESC")
  | escape => some (.constant "KEY_ESC")
  | space => some (.character ' ')
  | backspace => some (.constant "KEY_BACKSPACE")
  | delete => some (.constant "KEY_DELETE")
  | up => some (.constant "KEY_UP_ARROW")
  | down => some (.constant "KEY_DOWN_ARROW")
  | left => some (.constant "KEY_LEFT_ARROW")
  | right => some (.constant "KEY_RIGHT_ARROW")
  | home => some (.constant "KEY_HOME")
  | endKey => some (.constant "KEY_END")
  | pageUp => some (.constant "KEY_PAGE_UP")
  | pageDown => some (.constant "KEY_PAGE_DOWN")
  | menu => some (.constant "KEY_MENU")
  | capsLock | scrollLock | numLock | pause | insert | printScreen | app | windows | gui => none

/-- The code of a kind, if it is a simple key that has one. -/
def Kind.keyCode? : Kind → Option KeyCode
  | key k => k.keyCode?
  | _ => none

/-- The codes of the words for modifiers. -/
def modifierCodes : List (Bytes × KeyCode) :=
  [("CTRL", .constant "KEY_LEFT_CTRL"), ("CONTROL", .constant "KEY_LEFT_CTRL"),
   ("ALT", .constant "KEY_LEFT_ALT"), ("SHIFT", .constant "KEY_LEFT_SHIFT"),
   ("GUI", .constant "KEY_LEFT_GUI"), ("WINDOWS", .constant "KEY_LEFT_GUI"),
   ("WIN", .constant "KEY_LEFT_GUI")]

/-- The code of a modifier. -/
def modifierCode? (word : Bytes) : Option KeyCode := modifierCodes.lookup word

/-- The key that the last word of a chord stands for: a character by itself, or the key of that
name, or the return key. -/
def chordKey (word : Bytes) : KeyCode :=
  let named := ((Key.ofName? word).bind Key.keyCode?).getD .fallback
  match runes word with
  | [r] => if r.char = replacement then named else .character (lower r.char)
  | _ => named

/-- A line of the body of a sketch. -/
inductive Statement where
  /-- Type a text. -/
  | typeString (text : Bytes)
  /-- Wait for a number of milliseconds. -/
  | delay (milliseconds : Bytes)
  /-- Press and release a key. -/
  | write (key : KeyCode)
  /-- Press a key and hold it. -/
  | press (key : KeyCode)
  /-- Release every key. -/
  | releaseAll
  /-- A remark that a kind of command has no key. -/
  | unknown (name : Bytes)
deriving DecidableEq, Repr, Inhabited

namespace Statement

/-- The text of a statement without indentation and line end. -/
def code : Statement → Bytes
  | typeString text => "typeString(" ++ Literal.string text ++ ");"
  | delay ms => "delay(" ++ ms ++ ");"
  | write key => "Keyboard.write(" ++ key.expression ++ ");"
  | press key => "Keyboard.press(" ++ key.expression ++ ");"
  | releaseAll => "Keyboard.releaseAll();"
  | unknown name => "// Unknown: " ++ name

/-- The line of a statement. -/
def line (s : Statement) : Bytes := "  " ++ s.code ++ "\n"

end Statement

/-- The statements of a chord. Every word but the last that names a modifier is held, other such
words are dropped, and the last word is the key. -/
def chordStatements (args : List Bytes) : List Statement :=
  let words := args.filter fun w => w != []
  (words.dropLast.filterMap modifierCode?).map .press ++
    [.press (chordKey (words.getLastD [])), .delay "5", .releaseAll]

namespace Command

/-- The statements of a command. -/
def statements (c : Command) : List Statement :=
  match c.kind with
  | .string => [.typeString (c.arg 0)]
  | .delay => [.delay (c.arg 0)]
  | .chord => chordStatements c.args
  | kind =>
    match kind.keyCode? with
    | some key => [.write key]
    | none => [.unknown kind.name]

/-- The lines of a sketch for a command. -/
def code (c : Command) : Bytes := c.statements.flatMap Statement.line

end Command

end KeyScript
