import KeyScript.Text.Numeral
import KeyScript.Text.Printable
import KeyScript.Text.Rune

/-!
# Quoted text in messages

Messages show texts in double quotes with escapes for everything that is not printable, so that the
text can be read back. Where it is possible without escapes, checks prefer back quotes.

## Main definitions

- `Quoted.text` — a text in double quotes
- `Quoted.plain` — a text in back quotes if it needs no escape, else in double quotes
-/

namespace KeyScript.Quoted

/-- The double quote. -/
def quoteMark : Char := '"'

/-- The letter that stands for a control character after a backslash. -/
def controlLetter? (c : Char) : Option Char :=
  match c.toNat with
  | 7 => some 'a'
  | 8 => some 'b'
  | 9 => some 't'
  | 10 => some 'n'
  | 11 => some 'v'
  | 12 => some 'f'
  | 13 => some 'r'
  | _ => none

/-- A character that is not printable, as a numeric escape. -/
def numericEscape (n : Nat) : Bytes :=
  if n < 0x20 || n == 0x7F then "\\x" ++ Numeral.hex 2 n
  else if n < 0x10000 then "\\u" ++ Numeral.hex 4 n
  else "\\U" ++ Numeral.hex 8 n

/-- One character inside double quotes. A byte outside any well-formed sequence is shown by its
value. -/
def escape (r : Rune) : Bytes :=
  if !r.isWellFormed then "\\x" ++ r.bytes.flatMap fun b => Numeral.hex 2 b.toNat
  else if r.char = quoteMark || r.char = '\\' then "\\" ++ r.bytes
  else if isPrintable r.char then r.bytes
  else match controlLetter? r.char with
    | some letter => "\\" ++ encode letter
    | none => numericEscape r.char.toNat

/-- A text in double quotes. -/
def text (s : Bytes) : Bytes := "\"" ++ (runes s).flatMap escape ++ "\""

/-- Whether a character may stand between back quotes. -/
def isPlain (r : Rune) : Bool :=
  r.isWellFormed && r.char.toNat != 0xFEFF && r.char.toNat != 0x7F && r.char.toNat != 0x60 &&
    (0x20 ≤ r.char.toNat || r.char.toNat == 9)

/-- A text in back quotes if all its characters may stand there, else in double quotes. -/
def plain (s : Bytes) : Bytes :=
  if (runes s).all isPlain then "`" ++ s ++ "`" else text s

end KeyScript.Quoted
