import KeyScript.Text.Numeral

/-!
# Keys and kinds of commands

The keys that a script names, the kinds of commands, and the words for modifiers. Kinds also have
numbers, in the order of the vocabulary; a number outside it is a kind without a name.

## Main definitions

- `Key` — the simple keys, in vocabulary order
- `Key.ofName?` — the key with a given name
- `Kind` — what a command is
- `Kind.code`, `Kind.ofCode` — the numbering of kinds
- `isModifier` — the words that name a modifier
-/

namespace KeyScript

/-- A key that stands on a line of its own. -/
inductive Key where
  | enter
  | returnKey
  | tab
  | esc
  | escape
  | space
  | backspace
  | delete
  | up
  | down
  | left
  | right
  | home
  | endKey
  | pageUp
  | pageDown
  | capsLock
  | scrollLock
  | numLock
  | pause
  | insert
  | printScreen
  | menu
  | app
  | windows
  | gui
deriving DecidableEq, Repr, Inhabited

namespace Key

/-- The keys in vocabulary order. -/
def all : List Key :=
  [enter, returnKey, tab, esc, escape, space, backspace, delete, up, down, left, right, home,
   endKey, pageUp, pageDown, capsLock, scrollLock, numLock, pause, insert, printScreen, menu, app,
   windows, gui]

/-- The name of a key in a script. -/
def name : Key → Bytes
  | enter => "ENTER"
  | returnKey => "RETURN"
  | tab => "TAB"
  | esc => "ESC"
  | escape => "ESCAPE"
  | space => "SPACE"
  | backspace => "BACKSPACE"
  | delete => "DELETE"
  | up => "UP"
  | down => "DOWN"
  | left => "LEFT"
  | right => "RIGHT"
  | home => "HOME"
  | endKey => "END"
  | pageUp => "PAGEUP"
  | pageDown => "PAGEDOWN"
  | capsLock => "CAPSLOCK"
  | scrollLock => "SCROLLLOCK"
  | numLock => "NUMLOCK"
  | pause => "PAUSE"
  | insert => "INSERT"
  | printScreen => "PRINTSCREEN"
  | menu => "MENU"
  | app => "APP"
  | windows => "WINDOWS"
  | gui => "GUI"

/-- The key with a given name, which is in upper case. -/
def ofName? (word : Bytes) : Option Key := all.find? fun k => k.name == word

/-- The number of a key. -/
def code (k : Key) : Nat := 5 + all.idxOf k

end Key

/-- What a command is. -/
inductive Kind where
  /-- No command at all. -/
  | invalid
  /-- Type a text. -/
  | string
  /-- Wait for some milliseconds. -/
  | delay
  /-- Hold modifiers and press a key. -/
  | chord
  /-- Press a key. -/
  | key (k : Key)
  /-- A number outside the vocabulary. -/
  | unnamed (code : UInt8)
deriving DecidableEq, Repr, Inhabited

namespace Kind

/-- The word for a kind. -/
def name : Kind → Bytes
  | invalid => "INVALID"
  | string => "STRING"
  | delay => "DELAY"
  | chord => "MOD"
  | key k => k.name
  | unnamed n => "Kind(" ++ Numeral.ofNat n.toNat ++ ")"

/-- Whether a kind is a simple key. -/
def isKey : Kind → Bool
  | key _ => true
  | _ => false

/-- The number of a kind. -/
def code : Kind → Nat
  | invalid => 0
  | string => 1
  | delay => 2
  | chord => 3
  | key k => k.code
  | unnamed n => n.toNat

/-- The kind with a given number. -/
def ofCode (n : Nat) : Kind :=
  match n with
  | 0 => invalid
  | 1 => string
  | 2 => delay
  | 3 => chord
  | _ =>
    match (if n < 5 then none else Key.all[n - 5]?) with
    | some k => key k
    | none => unnamed (UInt8.ofNat n)

end Kind

/-- The words that name a modifier. -/
def modifierWords : List Bytes :=
  ["CTRL", "CONTROL", "ALT", "SHIFT", "GUI", "WINDOWS", "WIN"]

/-- Whether a word, which is in upper case, names a modifier. -/
def isModifier (word : Bytes) : Bool := modifierWords.contains word

end KeyScript
