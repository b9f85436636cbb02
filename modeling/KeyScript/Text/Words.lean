import KeyScript.Text.Rune

/-!
# Words

White space and the words of a line. A word is a maximal run of characters that are not separators;
what separates words is a parameter.

## Main definitions

- `isSpace` — white space of Unicode
- `wordRuns` — the words of a list of characters, as lists of characters
- `Bytes.words` — the words of a byte string
- `afterFirstWord` — the part of a list of characters from its second word on
-/

namespace KeyScript

/-- White space of Unicode. -/
def isSpace (c : Char) : Bool :=
  let n := c.toNat
  (0x09 ≤ n && n ≤ 0x0D) || n == 0x20 || n == 0x85 || n == 0xA0 || n == 0x1680 ||
    (0x2000 ≤ n && n ≤ 0x200A) || n == 0x2028 || n == 0x2029 || n == 0x202F || n == 0x205F ||
    n == 0x3000

/-- The maximal runs of characters outside `sep`. -/
def wordRuns (sep : Char → Bool) : List Rune → List (List Rune)
  | [] => []
  | r :: rs =>
    if sep r.char then wordRuns sep rs
    else match rs.head?, wordRuns sep rs with
      | some next, run :: runs => if sep next.char then [r] :: run :: runs else (r :: run) :: runs
      | _, runs => [r] :: runs

/-- The characters from the first one outside `sep` on. -/
def skipSpace (sep : Char → Bool) (rs : List Rune) : List Rune :=
  rs.dropWhile fun r => sep r.char

/-- The characters from the first one in `sep` on. -/
def skipWord (sep : Char → Bool) (rs : List Rune) : List Rune :=
  rs.dropWhile fun r => !sep r.char

/-- The characters up to the first one in `sep`. -/
def takeWord (sep : Char → Bool) (rs : List Rune) : List Rune :=
  rs.takeWhile fun r => !sep r.char

/-- What is left of a line after its first word and the space behind it. -/
def afterFirstWord (sep : Char → Bool) (rs : List Rune) : List Rune :=
  skipSpace sep (skipWord sep (skipSpace sep rs))

/-- The words of a byte string. -/
def Bytes.words (sep : Char → Bool) (s : Bytes) : List Bytes :=
  (wordRuns sep (runes s)).map Rune.join

/-- A byte string without the white space at its start and end. -/
def Bytes.trim (sep : Char → Bool) (s : Bytes) : Bytes :=
  Rune.join (skipSpace sep (skipSpace sep (runes s)).reverse).reverse

end KeyScript
