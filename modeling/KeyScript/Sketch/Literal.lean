import KeyScript.Text.Numeral
import KeyScript.Text.Rune

/-!
# Literals of a sketch

String and character literals in the notation of C. Control bytes become escapes, octal ones with
exactly three digits, so that a digit behind them cannot be taken for a part of the escape. Bytes
above 0x7f stand as they are.

## Main definitions

- `Literal.escapeByte` — one byte inside a literal
- `Literal.string` — a string literal
- `Literal.character` — a character literal
- `Literal.ofCode` — the character literal for a code, which may be that of no character
-/

namespace KeyScript.Literal

/-- The double quote around string literals. -/
def doubleQuote : UInt8 := 34

/-- The single quote around character literals. -/
def singleQuote : UInt8 := 39

/-- The backslash that begins an escape. -/
def backslash : UInt8 := 92

/-- Whether a byte is a control byte. -/
def isControl (b : UInt8) : Bool := b < 0x20 || b == 0x7F

/-- One byte inside a literal with the given quotes. -/
def escapeByte (quote b : UInt8) : Bytes :=
  if b = quote || b = backslash then [backslash, b]
  else if b = 10 then "\\n"
  else if b = 13 then "\\r"
  else if b = 9 then "\\t"
  else if isControl b then backslash :: Numeral.octal b
  else [b]

/-- The string literal for a byte string. -/
def string (s : Bytes) : Bytes := doubleQuote :: s.flatMap (escapeByte doubleQuote) ++ [doubleQuote]

/-- The character literal for a character. -/
def character (c : Char) : Bytes :=
  singleQuote :: (encode c).flatMap (escapeByte singleQuote) ++ [singleQuote]

/-- The character with a code, U+FFFD if there is none. -/
def scalar (code : Int) : Char :=
  if 0 ≤ code ∧ code.toNat.isValidChar then Char.ofNat code.toNat else replacement

/-- The character literal for a code. -/
def ofCode (code : Int) : Bytes := character (scalar code)

end KeyScript.Literal
