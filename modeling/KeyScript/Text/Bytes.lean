/-!
# Byte strings

Every text of the library is a list of bytes. Text is usually UTF-8, but nothing is assumed: a
script may hold any bytes, and they are carried through unchanged. A string literal stands for its
UTF-8 bytes.

## Main definitions

- `Bytes` — a list of bytes
- `Bytes.cut` — the parts before and after the first occurrence of a byte
- `Bytes.splitAt` — the pieces between the occurrences of a byte
- `Bytes.isInfixOf` — whether a byte string occurs inside another
- `Bytes.dropEnd` — removal of one given ending
-/

namespace KeyScript

/-- A byte string. -/
abbrev Bytes := List UInt8

namespace Bytes

/-- The UTF-8 bytes of a string. -/
@[coe] def ofString (s : String) : Bytes := s.toUTF8.data.toList

instance : Coe String Bytes := ⟨ofString⟩

/-- The line feed that ends a line. -/
def lineFeed : UInt8 := 10

/-- The carriage return that may stand before a line feed. -/
def carriageReturn : UInt8 := 13

/-- The part before the first `b` and, if there is one, the part after it. -/
def cut (b : UInt8) : Bytes → Bytes × Option Bytes
  | [] => ([], none)
  | c :: s => if c = b then ([], some s) else
      let rest := cut b s
      (c :: rest.1, rest.2)

/-- The pieces of a byte string between the occurrences of `b`. There is always at least one. -/
def splitAt (b : UInt8) : Bytes → List Bytes
  | [] => [[]]
  | c :: s => if c = b then [] :: splitAt b s else
      match splitAt b s with
      | piece :: pieces => (c :: piece) :: pieces
      | [] => [[c]]

/-- Byte strings one after the other with `sep` between them. -/
def joinWith (sep : Bytes) : List Bytes → Bytes
  | [] => []
  | [s] => s
  | s :: t :: rest => s ++ sep ++ joinWith sep (t :: rest)

/-- Lines one after the other, each with a line feed behind it. -/
def unlines (lines : List Bytes) : Bytes := lines.flatMap fun line => line ++ [lineFeed]

/-- Whether a byte string begins with another. -/
def startsWith (s start : Bytes) : Bool := start.isPrefixOf s

/-- Whether `needle` occurs in a byte string as consecutive bytes. -/
def isInfixOf (needle : Bytes) : Bytes → Bool
  | [] => needle.isEmpty
  | c :: s => startsWith (c :: s) needle || isInfixOf needle s

/-- Whether a byte string is one of some words. -/
def isOneOf (s : Bytes) (words : List Bytes) : Bool := words.contains s

/-- Removes `ending` from the end of `s` if it stands there. -/
def dropEnd (s ending : Bytes) : Bytes :=
  if ending.isSuffixOf s then s.take (s.length - ending.length) else s

/-- Removes every trailing byte that satisfies `p`. -/
def dropEndWhile (p : UInt8 → Bool) (s : Bytes) : Bytes :=
  (s.reverse.dropWhile p).reverse

/-- Replaces each occurrence of one byte by a byte string. -/
def replaceByte (s : Bytes) (b : UInt8) (new : Bytes) : Bytes :=
  s.flatMap fun c => if c = b then new else [c]

end Bytes

end KeyScript
