import KeyScript.Markup.ReferenceTable
import KeyScript.Text.Numeral
import KeyScript.Text.Rune

/-!
# Character references

A character that could be taken for markup is written as a reference: an ampersand followed by a
name or a number. Some names are recognised without the semicolon that should end them.

## Main definitions

- `shortNames`, `longNames` — the characters with a name
- `unescape` — replaces the references in a text by their characters
-/

namespace KeyScript.Markup

/-- The names that are recognised with and without a semicolon. -/
def shortNames : List (Bytes × Nat) :=
  ([("AElig", 0xC6), ("AMP", 0x26), ("Aacute", 0xC1), ("Acirc", 0xC2), ("Agrave", 0xC0),
   ("Aring", 0xC5), ("Atilde", 0xC3), ("Auml", 0xC4), ("COPY", 0xA9), ("Ccedil", 0xC7),
   ("ETH", 0xD0), ("Eacute", 0xC9), ("Ecirc", 0xCA), ("Egrave", 0xC8), ("Euml", 0xCB),
   ("GT", 0x3E), ("Iacute", 0xCD), ("Icirc", 0xCE), ("Igrave", 0xCC), ("Iuml", 0xCF),
   ("LT", 0x3C), ("Ntilde", 0xD1), ("Oacute", 0xD3), ("Ocirc", 0xD4), ("Ograve", 0xD2),
   ("Oslash", 0xD8), ("Otilde", 0xD5), ("Ouml", 0xD6), ("QUOT", 0x22), ("REG", 0xAE),
   ("THORN", 0xDE), ("Uacute", 0xDA), ("Ucirc", 0xDB), ("Ugrave", 0xD9), ("Uuml", 0xDC),
   ("Yacute", 0xDD), ("aacute", 0xE1), ("acirc", 0xE2), ("acute", 0xB4), ("aelig", 0xE6),
   ("agrave", 0xE0), ("amp", 0x26), ("aring", 0xE5), ("atilde", 0xE3), ("auml", 0xE4),
   ("brvbar", 0xA6), ("ccedil", 0xE7), ("cedil", 0xB8), ("cent", 0xA2), ("copy", 0xA9),
   ("curren", 0xA4), ("deg", 0xB0), ("divide", 0xF7), ("eacute", 0xE9), ("ecirc", 0xEA),
   ("egrave", 0xE8), ("eth", 0xF0), ("euml", 0xEB), ("frac12", 0xBD), ("frac14", 0xBC),
   ("frac34", 0xBE), ("gt", 0x3E), ("iacute", 0xED), ("icirc", 0xEE), ("iexcl", 0xA1),
   ("igrave", 0xEC), ("iquest", 0xBF), ("iuml", 0xEF), ("laquo", 0xAB), ("lt", 0x3C),
   ("macr", 0xAF), ("micro", 0xB5), ("middot", 0xB7), ("nbsp", 0xA0), ("not", 0xAC),
   ("ntilde", 0xF1), ("oacute", 0xF3), ("ocirc", 0xF4), ("ograve", 0xF2), ("ordf", 0xAA),
   ("ordm", 0xBA), ("oslash", 0xF8), ("otilde", 0xF5), ("ouml", 0xF6), ("para", 0xB6),
   ("plusmn", 0xB1), ("pound", 0xA3), ("quot", 0x22), ("raquo", 0xBB), ("reg", 0xAE),
   ("sect", 0xA7), ("shy", 0xAD), ("sup1", 0xB9), ("sup2", 0xB2), ("sup3", 0xB3), ("szlig", 0xDF),
   ("thorn", 0xFE), ("times", 0xD7), ("uacute", 0xFA), ("ucirc", 0xFB), ("ugrave", 0xF9),
   ("uml", 0xA8), ("uuml", 0xFC), ("yacute", 0xFD), ("yen", 0xA5),
   ("yuml", 0xFF)] : List (String × Nat)).map
    fun (name, n) => (name, n)

/-- The value of a numeral in base sixteen. -/
def tableNumber (digits : Bytes) : Nat :=
  digits.foldl (fun n b => n * 16 + (Numeral.hexValue? b).getD 0) 0

/-- A name and the numbers of its characters, as a word of the table gives them. -/
def tableEntry (word : Bytes) : Bytes × List Nat :=
  let (name, numbers) := Bytes.cut 61 word
  (name, ((numbers.getD []).splitAt 43).map tableNumber)

/-- The names that are recognised only with a semicolon. -/
def longNames : List (Bytes × List Nat) :=
  referenceTable.flatMap fun (line : String) => (Bytes.splitAt 32 line).map tableEntry

/-- The characters that the numbers from 0x80 to 0x9F stand for. -/
def controlNumbers : List Nat :=
  [0x20AC, 0x81, 0x201A, 0x192, 0x201E, 0x2026, 0x2020, 0x2021, 0x2C6, 0x2030, 0x160, 0x2039, 0x152,
   0x8D, 0x17D, 0x8F, 0x90, 0x2018, 0x2019, 0x201C, 0x201D, 0x2022, 0x2013, 0x2014, 0x2DC, 0x2122,
   0x161, 0x203A, 0x153, 0x9D, 0x17E, 0x178]

/-- The character with a number, or the replacement character if there is none. -/
def numberedChar (n : Nat) : Char :=
  let m := if 0x80 ≤ n && n ≤ 0x9F then controlNumbers.getD (n - 0x80) n else n
  if h : m.isValidChar then if m = 0 then replacement else Char.ofNatAux m h else replacement

/-- The number after an ampersand and a number sign, together with the number of bytes taken. The
number is kept in 32 bits, so that very long numbers begin again at zero. -/
def readNumber (s : Bytes) : Option (Nat × Nat) :=
  let isHex := s.head?.any fun b => b == 120 || b == 88
  let body := if isHex then s.tail else s
  let digits :=
    if isHex then body.takeWhile fun b => (Numeral.hexValue? b).isSome
    else body.takeWhile Numeral.isDigit
  let base := if isHex then 16 else 10
  let value := digits.foldl (fun n b => (n * base + (Numeral.hexValue? b).getD 0) % 4294967296) 0
  let used := (if isHex then 1 else 0) + digits.length
  let used := if s[used]? == some 59 then used + 1 else used
  if used + 2 ≤ 3 then none else some (value, used)

/-- Whether a byte is a letter or digit. -/
def isNameByte (b : UInt8) : Bool :=
  (97 ≤ b && b ≤ 122) || (65 ≤ b && b ≤ 90) || (48 ≤ b && b ≤ 57)

/-- The longest beginning of a name of at least two and at most `n` bytes that is recognised without
a semicolon. -/
def longestShortName (name : Bytes) : Nat → Option (List Nat × Nat)
  | 0 | 1 => none
  | n + 2 =>
    match shortNames.lookup (name.take (n + 2)) with
    | some c => some ([c], n + 2)
    | none => longestShortName name (n + 1)

/-- The characters for the name that a text begins with, together with the number of bytes taken. -/
def readName (inAttribute : Bool) (s : Bytes) : Option (List Nat × Nat) :=
  let name := s.takeWhile isNameByte
  let ended := s[name.length]? == some 59
  if name = [] then none
  else if inAttribute && !ended && s[name.length]? == some 61 then none
  else if ended then
    match ((shortNames.lookup name).map fun c => [c]).or (longNames.lookup name) with
    | some cs => some (cs, name.length + 1)
    | none => if inAttribute then none else longestShortName name (min name.length 6)
  else
    match shortNames.lookup name with
    | some c => some ([c], name.length)
    | none => if inAttribute then none else longestShortName name (min (name.length - 1) 6)

/-- The bytes of the characters for the reference whose ampersand stands before a text, together
with the number of bytes taken. -/
def readReference (inAttribute : Bool) (s : Bytes) : Option (Bytes × Nat) :=
  match s with
  | 35 :: rest =>
    if (rest.drop 1).isEmpty then none
    else (readNumber rest).map fun (n, used) => (encode (numberedChar n), used + 1)
  | _ => (readName inAttribute s).map fun (cs, used) => (cs.flatMap (encode ∘ Char.ofNat), used)

/-- A text with its references replaced; `skip` bytes belong to a reference that has been
replaced. -/
def unescapeFrom (inAttribute : Bool) : (skip : Nat) → Bytes → Bytes
  | _, [] => []
  | skip + 1, _ :: s => unescapeFrom inAttribute skip s
  | 0, b :: s =>
    if b = 38 then
      match readReference inAttribute s with
      | some (shown, used) => shown ++ unescapeFrom inAttribute used s
      | none => b :: unescapeFrom inAttribute 0 s
    else b :: unescapeFrom inAttribute 0 s

/-- A text with its references replaced by their characters. -/
def unescape (inAttribute : Bool) (s : Bytes) : Bytes := unescapeFrom inAttribute 0 s

end KeyScript.Markup
