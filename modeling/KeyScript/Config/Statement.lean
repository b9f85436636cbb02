import KeyScript.Config.Reader
import KeyScript.Text.Numeral
import KeyScript.Text.Rune

/-!
# Statements of a configuration

A configuration is a list of statements: headers of tables, and pairs of a key and a value. Of the
values only texts and truth values have a meaning here; the others are told apart by their kind.
Everything that can be wrong on its own carries the number of its line.

## Main definitions

- `ConfigValue` — a value
- `Statement` — a header or a pair, with its line
- `readStatements` — the statements of a text, or the line where reading stopped
-/

namespace KeyScript

mutual

/-- A value of a configuration. -/
inductive ConfigValue where
  | string (text : Bytes)
  /-- A text with an escape that stands for no character, and the line on which it ends. -/
  | badString (line : Nat)
  | boolean (b : Bool)
  | integer
  /-- A number with a fraction or an exponent, as it is written but without underscores. -/
  | float (numeral : Bytes)
  /-- A date or a time, as it is written. -/
  | datetime (text : Bytes)
  | array (items : List ConfigValue)
  /-- A table, with the line on which it begins. -/
  | table (line : Nat) (pairs : List ConfigPair)

/-- A key with its line, and its value with the line on which it ends. A key is missing if it has an
escape that stands for no character. -/
inductive ConfigPair where
  | mk (key : Option Bytes) (keyLine : Nat) (value : ConfigValue) (line : Nat)

end

/-- A statement of a configuration. A key is missing if it has an escape that stands for no
character. -/
inductive ConfigStatement where
  /-- The header of a table, or of one more table of a list. -/
  | header (isList : Bool) (names : List (Option Bytes)) (line : Nat)
  | pair (p : ConfigPair)

namespace ConfigReader

open Reader

/-- Blanks on a line. -/
def blanks : Reader Unit := part do
  let _ ← many (char fun c => c == ' ' || c == '\t')

/-- Whether a character ends a line. -/
def isLineEnd (c : Char) : Bool := c == '\r' || c == '\n'

/-- One or more ends of lines. -/
def lineEnds : Reader Unit := part do
  let ends ← manyOne (char isLineEnd)
  addLines ends.length

/-- Blanks and ends of lines. -/
def blankLines : Reader Unit := part do
  let lineEnd : Reader Unit := part do
    let _ ← char isLineEnd
    addLines 1
  let blank : Reader Unit := do
    let _ ← char fun c => c == ' ' || c == '\t'
  let _ ← many (orElse blank lineEnd)

/-- Whether a comment or a literal text may hold a character. -/
def isPrinting (c : Char) : Bool := c == '\t' || ' ' ≤ c

/-- A comment. -/
def comment : Reader Unit := part do
  text "#"
  let _ ← part (many (char isPrinting))

/-- A decimal digit. -/
def digit : Reader Char := part (char fun c => '0' ≤ c && c ≤ '9')

/-- A hexadecimal digit. -/
def hexDigit : Reader Nat := part do
  let c ← char fun c => ('0' ≤ c && c ≤ '9') || ('a' ≤ c && c ≤ 'f') || ('A' ≤ c && c ≤ 'F')
  return (Numeral.hexValue? (UInt8.ofNat c.toNat)).getD 0

/-- Four hexadecimal digits. -/
def hexQuad : Reader Nat := part do
  let a ← hexDigit
  let b ← hexDigit
  let c ← hexDigit
  let d ← hexDigit
  return ((a * 16 + b) * 16 + c) * 16 + d

/-- The character with a number, if there is one. -/
def charOf? (n : Nat) : Option Char :=
  if h : n.isValidChar then some (Char.ofNatAux n h) else none

/-- The character for a letter behind a backslash, if it stands for one. -/
def shortEscape? (c : Char) : Option Char :=
  match c with
  | 'b' => some (Char.ofNat 8)
  | 't' => some '\t'
  | 'n' => some '\n'
  | 'f' => some (Char.ofNat 12)
  | 'r' => some '\r'
  | '"' => some '"'
  | '\\' => some '\\'
  | _ => none

/-- A backslash. -/
def backslash : Reader Unit := part (text "\\")

/-- An escape; it may stand for no character. -/
def escaped : Reader (Option Char) := part do
  backslash
  let short : Reader (Option Char) := do
    return shortEscape? (← char fun c => "btnfr\"/\\".toList.contains c)
  let four : Reader (Option Char) := do
    text "u"
    return charOf? (← hexQuad)
  let eight : Reader (Option Char) := do
    text "U"
    let high ← hexQuad
    let low ← hexQuad
    return charOf? (high * 0x10000 + low)
  oneOf [short, four, eight]

/-- A character of a quoted text. -/
def quotedChar : Reader (Option Char) := part do
  let plain : Reader (Option Char) := part do
    return some (← char fun c => ' ' ≤ c && c != '"' && c != '\\')
  orElse plain escaped

/-- The bytes of characters, if there is no escape without a character among them. -/
def bytesOf? (chars : List (Option Char)) : Option Bytes :=
  if chars.all Option.isSome then some (chars.filterMap id |>.flatMap encode) else none

/-- A quoted text as a value. -/
def stringValue (chars : List (Option Char)) : Reader ConfigValue := do
  match bytesOf? chars with
  | some s => return .string s
  | none => return .badString (← currentLine)

/-- A key. -/
def key : Reader (Option Bytes) := part do
  let isBare := fun c : Char =>
    ('0' ≤ c && c ≤ '9') || ('A' ≤ c && c ≤ 'Z') || ('a' ≤ c && c ≤ 'z') || c == '-' || c == '_'
  let bare : Reader (Option Bytes) := part do
    return some ((← manyOne (char isBare)).flatMap encode)
  let quoted : Reader (Option Bytes) := part do
    text "\""
    let chars ← part (many quotedChar)
    text "\""
    return bytesOf? chars
  orElse bare quoted

/-- A digit, possibly behind an underscore. -/
def moreDigit : Reader Unit :=
  orElse (do let _ ← digit) do
    text "_"
    let _ ← digit

/-- An integer. -/
def integer : Reader Unit := part do
  let _ ← optional (char fun c => c == '-' || c == '+')
  let long : Reader Unit := do
    let _ ← char fun c => '1' ≤ c && c ≤ '9'
    let _ ← manyOne moreDigit
  part (orElse long do let _ ← digit)

/-- The digits behind a point. -/
def fraction : Reader Unit := part do
  text "."
  let _ ← digit
  let _ ← many moreDigit

/-- An exponent. -/
def exponent : Reader Unit := part do
  let _ ← char fun c => c == 'e' || c == 'E'
  let _ ← optional (char fun c => c == '-' || c == '+')
  let _ ← digit
  let _ ← many moreDigit

/-- A number with a fraction or an exponent. -/
def float : Reader Unit := part do
  integer
  let withFraction : Reader Unit := do
    fraction
    let _ ← optional exponent
  orElse withFraction exponent

/-- Two digits. -/
def digitPair : Reader Unit := part do
  let _ ← digit
  let _ ← digit

/-- A date. -/
def date : Reader Unit := part do
  part (do digitPair; digitPair)
  text "-"
  digitPair
  text "-"
  digitPair

/-- A time of day. -/
def timeOfDay : Reader Unit := part do
  digitPair
  text ":"
  digitPair
  text ":"
  digitPair
  let _ ← optional (part do text "."; let _ ← manyOne digit)

/-- The offset of a time. -/
def timeOffset : Reader Unit := part do
  let offset : Reader Unit := part do
    let _ ← char fun c => c == '-' || c == '+'
    digitPair
    text ":"
    digitPair
  orElse (text "Z") offset

/-- A date with or without a time, or a time of day. -/
def datetime : Reader Unit := part do
  let dated : Reader Unit := do
    date
    let _ ← optional do
      text "T"
      part (do timeOfDay; let _ ← optional timeOffset)
  orElse dated timeOfDay

/-- A text between double quotes. -/
def basicString : Reader ConfigValue := part do
  part do
    text "\""
    let chars ← many quotedChar
    text "\""
    stringValue chars

/-- A text between single quotes. -/
def literalString : Reader ConfigValue := part do
  text "'"
  let chars ← part (many (part (char fun c => isPrinting c && c != '\'')))
  text "'"
  return .string (chars.flatMap encode)

/-- The end of a line inside a text of several lines. -/
def lineEndChars : Reader (List Char) := part do
  let ends ← part (manyOne (char isLineEnd))
  addLines ends.length
  return ends

/-- A piece of a text of several lines. -/
inductive LongPiece where
  /-- The ends of some lines. -/
  | lineEnds (chars : List Char)
  /-- A character, or an escape that stands for none. -/
  | char (c : Option Char)
  /-- The end of a line behind a backslash, with the blank space behind it. -/
  | folded

/-- Whether a piece is made of the ends of lines. -/
def LongPiece.isLineEnds : LongPiece → Bool
  | lineEnds _ => true
  | _ => false

/-- The characters of a piece. -/
def LongPiece.chars : LongPiece → List (Option Char)
  | lineEnds chars => chars.map some
  | char c => [c]
  | folded => []

/-- The characters of a text of several lines. The ends of lines at its start do not count. -/
def longChars (pieces : List LongPiece) : List (Option Char) :=
  let pieces := pieces.filter fun p => !p matches .folded
  (pieces.dropWhile LongPiece.isLineEnds).flatMap LongPiece.chars

/-- A text of several lines between double quotes. -/
def longBasicString : Reader ConfigValue := part do
  text "\"\"\""
  let plain : Reader LongPiece := part do return .char (← quotedChar)
  let ends : Reader LongPiece := part do return .lineEnds (← lineEndChars)
  let folded : Reader LongPiece := do
    backslash
    lineEnds
    blankLines
    return .folded
  let pieces ← part (many (oneOf [plain, ends, folded]))
  text "\"\"\""
  stringValue (longChars pieces)

/-- A text of several lines between single quotes. -/
def longLiteralString : Reader ConfigValue := part do
  text "'''"
  let plain : Reader LongPiece := part do return .char (some (← char isPrinting))
  let ends : Reader LongPiece := do return .lineEnds (← lineEndChars)
  let pieces ← part (part (many do
    notAt (text "'''")
    orElse plain ends))
  text "'''"
  stringValue (longChars pieces)

/-- A truth value. -/
def boolean : Reader ConfigValue := part do
  let yes : Reader ConfigValue := do
    text "true"
    return .boolean true
  let no : Reader ConfigValue := do
    text "false"
    return .boolean false
  orElse yes no

mutual

/-- A value, inside which values may be nested `fuel` deep. -/
def value (fuel : Nat) : Reader ConfigValue :=
  match fuel with
  | 0 => fail
  | fuel + 1 =>
    part (oneOf
      [part (do return .datetime (Bytes.ofChars (← taken datetime))),
       part (do return .float ((Bytes.ofChars (← taken float)).filter (· != 95))),
       part (do integer; return .integer),
       part (part (oneOf [longLiteralString, literalString, longBasicString, basicString])),
       part boolean,
       part (array fuel),
       part (inlineTable fuel)])

/-- Values between square brackets. -/
def array (fuel : Nat) : Reader ConfigValue :=
  match fuel with
  | 0 => fail
  | fuel + 1 => part do
    let next : Reader ConfigValue := do
      blankLines
      let _ ← optional comment
      blankLines
      part (text ",")
      blankLines
      let _ ← optional comment
      blankLines
      value fuel
    text "["
    blankLines
    let items ← optional (part do
      let first ← value fuel
      let more ← many next
      blankLines
      let _ ← optional (part (text ","))
      blankLines
      let _ ← optional comment
      return first :: more)
    blankLines
    text "]"
    return .array (items.getD [])

/-- Pairs between braces. -/
def inlineTable (fuel : Nat) : Reader ConfigValue :=
  match fuel with
  | 0 => fail
  | fuel + 1 => part do
    let entry : Reader ConfigPair := do
      let p ← pair fuel
      let _ ← optional (part do blanks; text ","; blanks)
      return p
    text "\x7b"
    let line ← currentLine
    blanks
    let pairs ← part (many entry)
    blanks
    text "\x7d"
    return .table line pairs

/-- A key and its value. -/
def pair (fuel : Nat) : Reader ConfigPair :=
  match fuel with
  | 0 => fail
  | fuel + 1 => part do
    let name ← key
    let keyLine ← currentLine
    blanks
    text "="
    blanks
    let v ← value fuel
    return .mk name keyLine v (← currentLine)

end

/-- The header of a table between given brackets. -/
def headerBetween (opening closing : String) (isList : Bool) : Reader ConfigStatement := part do
  text opening
  blanks
  let names ← part (part do
    let first ← key
    let more ← many do
      part (do blanks; text "."; blanks)
      key
    return first :: more)
  blanks
  text closing
  return .header isList names (← currentLine)

/-- The header of a table. -/
def header : Reader ConfigStatement :=
  part (orElse (headerBetween "[" "]" false) (headerBetween "[[" "]]" true))

/-- A header with the pairs that follow it, a pair, a comment or a blank line. -/
def statements (fuel : Nat) : Reader (List ConfigStatement) := part do
  let table : Reader (List ConfigStatement) := part do
    blanks
    let h ← header
    blanks
    let _ ← optional comment
    let pairs ← many do
      blankLines
      let p ← pair fuel
      blanks
      let _ ← optional comment
      return p
    return h :: pairs.map .pair
  let single : Reader (List ConfigStatement) := do
    blanks
    let p ← pair fuel
    blanks
    let _ ← optional comment
    return [.pair p]
  let empty : Reader (List ConfigStatement) := do
    blanks
    let _ ← optional comment
    return []
  oneOf [table, single, empty]

/-- The statements of a whole text. -/
def whole (fuel : Nat) : Reader (List ConfigStatement) := part do
  let first ← statements fuel
  let more ← many do
    lineEnds
    statements fuel
  let _ ← optional lineEnds
  atEnd
  return first ++ more.flatten

/-- The number of the line of a place, where the character at the place counts as read. -/
def lineAt (chars : List Char) (place : Nat) : Nat := 1 + (chars.take (place + 1)).count '\n'

end ConfigReader

open ConfigReader in
/-- The statements of a text, or the number of the line where reading stopped. -/
def readStatements (text : Bytes) : Except Nat (List ConfigStatement) :=
  let chars := text.chars
  match (whole (2 * chars.length + 2)).run chars with
  | .ok list => .ok list
  | .error furthest => .error (lineAt chars furthest)

end KeyScript
