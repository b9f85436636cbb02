import KeyScript.Text.CaseTable
import KeyScript.Text.Rune

/-!
# Case of characters

Upper and lower case of characters and of byte strings, and the equality of characters up to case.
Mappings take one character to one character and do not depend on a language. In a byte string a
byte outside any well-formed sequence is mapped to U+FFFD.

## Main definitions

- `upper`, `lower` — case of a character
- `Bytes.upper`, `Bytes.lower` — case of a byte string
- `caseVariants` — the characters that differ from a character in case only
- `foldCase` — one representative for all case variants of a character
-/

namespace KeyScript

/-- The upper case of a character. -/
def upper (c : Char) : Char :=
  match caseImage? c.toNat upperRanges with
  | some n => Char.ofNat n
  | none => c

/-- The lower case of a character. -/
def lower (c : Char) : Char :=
  match caseImage? c.toNat lowerRanges with
  | some n => Char.ofNat n
  | none => c

/-- Groups of case variants that one step of upper or lower case does not connect. -/
def wideCaseVariants : List (List Nat) :=
  [[0x4B, 0x6B, 0x212A], [0x53, 0x73, 0x17F], [0xB5, 0x39C, 0x3BC], [0xC5, 0xE5, 0x212B],
   [0xDF, 0x1E9E], [0x1C4, 0x1C5, 0x1C6], [0x1C7, 0x1C8, 0x1C9], [0x1CA, 0x1CB, 0x1CC],
   [0x1F1, 0x1F2, 0x1F3], [0x345, 0x399, 0x3B9, 0x1FBE], [0x390, 0x1FD3], [0x392, 0x3B2, 0x3D0],
   [0x395, 0x3B5, 0x3F5], [0x398, 0x3B8, 0x3D1, 0x3F4], [0x39A, 0x3BA, 0x3F0],
   [0x3A0, 0x3C0, 0x3D6], [0x3A1, 0x3C1, 0x3F1], [0x3A3, 0x3C2, 0x3C3], [0x3A6, 0x3C6, 0x3D5],
   [0x3A9, 0x3C9, 0x2126], [0x3B0, 0x1FE3], [0x412, 0x432, 0x1C80], [0x414, 0x434, 0x1C81],
   [0x41E, 0x43E, 0x1C82], [0x421, 0x441, 0x1C83], [0x422, 0x442, 0x1C84, 0x1C85],
   [0x42A, 0x44A, 0x1C86], [0x462, 0x463, 0x1C87], [0x1C88, 0xA64A, 0xA64B],
   [0x1E60, 0x1E61, 0x1E9B], [0xFB05, 0xFB06]]

/-- The dotted capital I and the dotless small i, whose other case belongs to the plain letter. -/
def isLoneLetter (c : Char) : Bool := c.toNat == 0x130 || c.toNat == 0x131

/-- The characters that are equal to `c` up to case, `c` itself among them. -/
def caseVariants (c : Char) : List Char :=
  match wideCaseVariants.find? (·.contains c.toNat) with
  | some group => group.map Char.ofNat
  | none => if isLoneLetter c then [c] else [c, upper c, lower c]

/-- The least of the case variants of a character. Two characters are equal up to case exactly when
this character is the same for both. -/
def foldCase (c : Char) : Char :=
  (caseVariants c).foldl (fun least d => if d.toNat < least.toNat then d else least) c

namespace Bytes

/-- The upper case of a byte string, character by character. -/
def upper (s : Bytes) : Bytes := (runes s).flatMap fun r => encode (KeyScript.upper r.char)

/-- The lower case of a byte string, character by character. -/
def lower (s : Bytes) : Bytes := (runes s).flatMap fun r => encode (KeyScript.lower r.char)

/-- Whether two byte strings have equal characters up to case. -/
def equalFold (s t : Bytes) : Bool := s.chars.map foldCase == t.chars.map foldCase

end Bytes

end KeyScript
