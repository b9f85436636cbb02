import KeyScript.Text.Numeral
import KeyScript.Text.Rune

/-!
# JSON values

A JSON value keeps the spelling of its strings and numbers and the order of its members, so that a
value can be written back as it was read. The spelling of a string is what stands between its
quotes.

## Main definitions

- `Json` — a value
- `escape` — the spelling of a text
- `Json.ofText`, `Json.ofInt`, `Json.record` — values made from data
- `Json.render`, `Json.renderIndented` — the text of a value on one line and on several
-/

namespace KeyScript

/-- A JSON value. -/
inductive Json where
  | null
  | bool (b : Bool)
  | number (spelling : Bytes)
  | string (spelling : Bytes)
  | array (items : List Json)
  | object (members : List (Bytes × Json))
deriving Repr, Inhabited

namespace Json

/-- The escape with the number of a character. -/
def numberedEscape (n : Nat) : Bytes := "\\u" ++ Numeral.hex 4 n

/-- Whether a character is written as its number because it could be taken for markup or for the
end of a line. -/
def isMarkup (c : Char) : Bool :=
  c == '<' || c == '>' || c == '&' || c.toNat == 0x2028 || c.toNat == 0x2029

/-- The spelling of one character. -/
def escapeRune (r : Rune) : Bytes :=
  let n := r.char.toNat
  if !r.isWellFormed then "\\ufffd"
  else if r.char = '"' then "\\\""
  else if r.char = '\\' then "\\\\"
  else if n = 8 then "\\b"
  else if n = 12 then "\\f"
  else if n = 10 then "\\n"
  else if n = 13 then "\\r"
  else if n = 9 then "\\t"
  else if n < 0x20 || isMarkup r.char then numberedEscape n
  else r.bytes

/-- The spelling of a text. -/
def escape (s : Bytes) : Bytes := (runes s).flatMap escapeRune

/-- A text as a value. -/
def ofText (s : Bytes) : Json := .string (escape s)

/-- An integer as a value. -/
def ofInt (n : Int) : Json := .number (Numeral.ofInt n)

/-- A list as a value. -/
def ofList {α : Type} (f : α → Json) (xs : List α) : Json := .array (xs.map f)

/-- An object with given members. -/
def record (members : List (Bytes × Json)) : Json :=
  .object (members.map fun (key, value) => (escape key, value))

/-- A spelling in which no character could be taken for markup or for the end of a line. -/
def guardSpelling (spelling : Bytes) : Bytes :=
  (runes spelling).flatMap fun r =>
    if isMarkup r.char then numberedEscape r.char.toNat else r.bytes

/-- A spelling between quotes. -/
def quoted (spelling : Bytes) : Bytes := "\"" ++ guardSpelling spelling ++ "\""

mutual

/-- The text of a value, without spaces. -/
def render : Json → Bytes
  | null => "null"
  | bool b => if b then "true" else "false"
  | number spelling => spelling
  | string spelling => quoted spelling
  | array items => "[" ++ renderItems items ++ "]"
  | object members => "\x7b" ++ renderMembers members ++ "\x7d"

/-- The texts of values with commas between them. -/
def renderItems : List Json → Bytes
  | [] => []
  | [v] => v.render
  | v :: w :: rest => v.render ++ "," ++ renderItems (w :: rest)

/-- The texts of members with commas between them. -/
def renderMembers : List (Bytes × Json) → Bytes
  | [] => []
  | [(key, v)] => quoted key ++ ":" ++ v.render
  | (key, v) :: m :: rest => quoted key ++ ":" ++ v.render ++ "," ++ renderMembers (m :: rest)

end

/-- The start of a line inside `depth` brackets. -/
def newLine (depth : Nat) : Bytes := Bytes.lineFeed :: List.replicate (2 * depth) 32

mutual

/-- The text of a value with each item and member on a line of its own, inside `depth` brackets. -/
def indentAt (depth : Nat) : Json → Bytes
  | array (v :: items) => "[" ++ indentItems (depth + 1) (v :: items) ++ newLine depth ++ "]"
  | object (m :: members) =>
    "\x7b" ++ indentMembers (depth + 1) (m :: members) ++ newLine depth ++ "\x7d"
  | v => v.render

/-- The texts of items, each on a line of its own. -/
def indentItems (depth : Nat) : List Json → Bytes
  | [] => []
  | [v] => newLine depth ++ v.indentAt depth
  | v :: w :: rest => newLine depth ++ v.indentAt depth ++ "," ++ indentItems depth (w :: rest)

/-- The texts of members, each on a line of its own. -/
def indentMembers (depth : Nat) : List (Bytes × Json) → Bytes
  | [] => []
  | [(key, v)] => newLine depth ++ quoted key ++ ": " ++ v.indentAt depth
  | (key, v) :: m :: rest =>
    newLine depth ++ quoted key ++ ": " ++ v.indentAt depth ++ "," ++
      indentMembers depth (m :: rest)

end

/-- The text of a value on several lines, with two spaces for each bracket around a line. -/
def renderIndented (v : Json) : Bytes := v.indentAt 0

end Json

end KeyScript
