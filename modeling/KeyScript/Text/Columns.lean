import KeyScript.Text.Words

/-!
# Columns

Editors count columns in UTF-16 units: a character above U+FFFF takes two units, any other one. This
module measures byte strings in units, cuts them at a column and finds words with their columns.

## Main definitions

- `Rune.units`, `Bytes.units` — length in units
- `Bytes.takeUnits` — the longest beginning that fits into a number of units
- `LocatedWord` — a word with its first column and the column behind it
- `Bytes.wordsAt` — the located words of a line
-/

namespace KeyScript

/-- The number of UTF-16 units of a character. -/
def Rune.units (r : Rune) : Nat := if r.char.toNat > 0xFFFF then 2 else 1

/-- The number of UTF-16 units of a list of characters. -/
def unitsOf : List Rune → Nat
  | [] => 0
  | r :: rs => r.units + unitsOf rs

/-- The length of a byte string in UTF-16 units. -/
def Bytes.units (s : Bytes) : Nat := unitsOf (runes s)

/-- The longest beginning of a list of characters that takes at most `n` units. -/
def takeUnits : Nat → List Rune → List Rune
  | _, [] => []
  | n, r :: rs => if r.units ≤ n then r :: takeUnits (n - r.units) rs else []

/-- The longest beginning of a byte string, up to whole characters, that takes at most `n` units. -/
def Bytes.takeUnits (n : Int) (s : Bytes) : Bytes :=
  Rune.join (KeyScript.takeUnits n.toNat (runes s))

/-- A word of a line with its columns. -/
structure LocatedWord where
  /-- The characters of the word. -/
  run : List Rune
  /-- The column of its first unit. -/
  start : Nat
  /-- The column behind its last unit. -/
  finish : Nat
deriving DecidableEq, Repr

/-- The bytes of a located word. -/
def LocatedWord.text (w : LocatedWord) : Bytes := Rune.join w.run

/-- The words of a list of characters whose first character stands at column `col`. -/
def locateWords (sep : Char → Bool) : (col : Nat) → List Rune → List LocatedWord
  | _, [] => []
  | col, r :: rs =>
    let next := col + r.units
    if sep r.char then locateWords sep next rs
    else match rs.head?, locateWords sep next rs with
      | some c, w :: ws =>
        if sep c.char then ⟨[r], col, next⟩ :: w :: ws else ⟨r :: w.run, col, w.finish⟩ :: ws
      | _, ws => ⟨[r], col, next⟩ :: ws

/-- The located words of a line. -/
def Bytes.wordsAt (sep : Char → Bool) (line : Bytes) : List LocatedWord :=
  locateWords sep 0 (runes line)

end KeyScript
