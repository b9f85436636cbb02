import KeyScript.Text.Bytes

/-!
# Characters of a byte string

A byte string is read as UTF-8 one character at a time. A byte that starts no well-formed sequence
is a character of its own, U+FFFD, that takes exactly this byte. So every byte string has exactly
one division into characters, and joining the bytes of the characters gives the byte string back.

## Main definitions

- `Rune` — a character together with the bytes it was read from
- `runes` — the characters of a byte string
- `Rune.join` — the bytes of a list of characters
- `Bytes.isUtf8` — whether every character was well formed
-/

namespace KeyScript

/-- A character of a byte string together with the bytes it was read from. -/
structure Rune where
  /-- The character, U+FFFD for a byte that is part of no well-formed sequence. -/
  char : Char
  /-- The bytes of the character. -/
  bytes : Bytes
deriving DecidableEq, Repr, Inhabited

/-- The character that stands for a byte outside any well-formed sequence. -/
def replacement : Char := Char.ofNat 0xFFFD

/-- The UTF-8 bytes of a character. -/
def encode (c : Char) : Bytes := String.utf8EncodeChar c

/-- Whether a byte may stand at the second or a later place of a sequence. -/
def isContinuation (b : UInt8) : Bool := 0x80 ≤ b && b ≤ 0xBF

/-- Whether a byte may follow a given first byte. The bounds keep out sequences that are longer than
needed, surrogates and values above U+10FFFF. -/
def maySecond (lead b : UInt8) : Bool :=
  if lead = 0xE0 then 0xA0 ≤ b && b ≤ 0xBF
  else if lead = 0xED then 0x80 ≤ b && b ≤ 0x9F
  else if lead = 0xF0 then 0x90 ≤ b && b ≤ 0xBF
  else if lead = 0xF4 then 0x80 ≤ b && b ≤ 0x8F
  else isContinuation b

/-- The six payload bits of a continuation byte. -/
def payload (b : UInt8) : Nat := b.toNat % 64

/-- The character that a first byte and the bytes after it begin with, and the number of bytes it
takes beyond the first. -/
def leadingRune (lead : UInt8) (rest : Bytes) : Char × Nat :=
  if lead < 0x80 then (Char.ofNat lead.toNat, 0)
  else if 0xC2 ≤ lead && lead ≤ 0xDF then
    match rest with
    | b :: _ =>
      if isContinuation b then (Char.ofNat (lead.toNat % 32 * 64 + payload b), 1)
      else (replacement, 0)
    | _ => (replacement, 0)
  else if 0xE0 ≤ lead && lead ≤ 0xEF then
    match rest with
    | b :: c :: _ =>
      if maySecond lead b && isContinuation c then
        (Char.ofNat (lead.toNat % 16 * 4096 + payload b * 64 + payload c), 2)
      else (replacement, 0)
    | _ => (replacement, 0)
  else if 0xF0 ≤ lead && lead ≤ 0xF4 then
    match rest with
    | b :: c :: d :: _ =>
      if maySecond lead b && isContinuation c && isContinuation d then
        (Char.ofNat (lead.toNat % 8 * 262144 + payload b * 4096 + payload c * 64 + payload d), 3)
      else (replacement, 0)
    | _ => (replacement, 0)
  else (replacement, 0)

/-- The characters of a byte string after its first `skip` bytes, which belong to a character
already read. -/
def runesFrom : (skip : Nat) → Bytes → List Rune
  | _, [] => []
  | skip + 1, _ :: s => runesFrom skip s
  | 0, b :: s =>
    let first := leadingRune b s
    ⟨first.1, b :: s.take first.2⟩ :: runesFrom first.2 s

/-- The characters of a byte string. -/
def runes (s : Bytes) : List Rune := runesFrom 0 s

namespace Rune

/-- The character with its own UTF-8 bytes. -/
def ofChar (c : Char) : Rune := ⟨c, encode c⟩

/-- Whether the bytes are the UTF-8 bytes of the character. -/
def isWellFormed (r : Rune) : Bool := r.bytes == encode r.char

/-- The bytes of a list of characters. -/
def join (rs : List Rune) : Bytes := rs.flatMap Rune.bytes

end Rune

namespace Bytes

/-- Whether a byte string is well-formed UTF-8. -/
def isUtf8 (s : Bytes) : Bool := (runes s).all Rune.isWellFormed

/-- The plain characters of a byte string. -/
def chars (s : Bytes) : List Char := (runes s).map Rune.char

/-- The UTF-8 bytes of a list of characters. -/
def ofChars (cs : List Char) : Bytes := cs.flatMap encode

end Bytes

end KeyScript
