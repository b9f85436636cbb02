import KeyScript.Text.Case

/-!
# Sets of characters

A set of characters is kept as ranges of character numbers in increasing order, with a gap between
each range and the next. So a set has exactly one form, and equal sets are equal values. Numbers of
surrogates may be in a set, although no character of a text has such a number.

## Main definitions

- `CharSet` — a set of characters
- `CharSet.ofRanges` — the union of some ranges
- `CharSet.contains`, `CharSet.union`, `CharSet.complement` — set operations
- `CharSet.upToCase` — the characters that are equal to a member up to case
- `CharSet.single?`, `CharSet.casePair?` — sets that are as good as one character
-/

namespace KeyScript

/-- A set of characters, as ranges of their numbers. -/
structure CharSet where
  ranges : List (Nat × Nat)
deriving DecidableEq, Repr, Inhabited

/-- The greatest number of a character. -/
def maxChar : Nat := 0x10FFFF

/-- Joins a range with the ranges behind it that it reaches or touches. -/
def joinRange (r : Nat × Nat) : List (Nat × Nat) → List (Nat × Nat)
  | [] => [r]
  | next :: rest =>
    if next.1 ≤ r.2 + 1 then joinRange (r.1, max r.2 next.2) rest else r :: next :: rest

/-- Joins ranges in increasing order that reach or touch each other. -/
def joinRanges : List (Nat × Nat) → List (Nat × Nat)
  | [] => []
  | r :: rest => joinRange r (joinRanges rest)

namespace CharSet

/-- The union of some ranges. -/
def ofRanges (ranges : List (Nat × Nat)) : CharSet :=
  ⟨joinRanges (ranges.mergeSort fun r s => r.1 ≤ s.1)⟩

/-- The set without members. -/
def empty : CharSet := ⟨[]⟩

/-- The set of all characters. -/
def all : CharSet := ⟨[(0, maxChar)]⟩

/-- The set of all characters but the line feed. -/
def allButNewline : CharSet := ⟨[(0, 9), (11, maxChar)]⟩

/-- The set of one character. -/
def single (n : Nat) : CharSet := ⟨[(n, n)]⟩

/-- Whether a character number is in a set. -/
def has (s : CharSet) (n : Nat) : Bool := s.ranges.any fun r => r.1 ≤ n && n ≤ r.2

/-- Whether a character is in a set. -/
def contains (s : CharSet) (c : Char) : Bool := s.has c.toNat

/-- The union of two sets. -/
def union (s t : CharSet) : CharSet := ofRanges (s.ranges ++ t.ranges)

/-- The gaps between ranges in increasing order, from a number on. -/
def gaps (next : Nat) : List (Nat × Nat) → List (Nat × Nat)
  | [] => if next ≤ maxChar then [(next, maxChar)] else []
  | (lo, hi) :: rest =>
    if next < lo then (next, lo - 1) :: gaps (hi + 1) rest else gaps (hi + 1) rest

/-- The characters that are not in a set. -/
def complement (s : CharSet) : CharSet := ⟨gaps 0 s.ranges⟩

/-- Whether two sets have a member in common. -/
def meets (s t : CharSet) : Bool :=
  s.ranges.any fun r => t.ranges.any fun q => r.1 ≤ q.2 && q.1 ≤ r.2

end CharSet

/-- The numbers of the characters that are equal to a character up to case, in increasing order and
each of them once. -/
def caseNumbers (n : Nat) : List Nat :=
  if n.isValidChar then
    (((caseVariants (Char.ofNat n)).map Char.toNat).mergeSort (· ≤ ·)).eraseDups
  else [n]

/-- The least of the numbers of the characters that are equal to a character up to case. -/
def leastCase (n : Nat) : Nat := (caseNumbers n).headD n

/-- The characters that a range of the tables of case maps to or from. -/
def CaseRange.members (r : CaseRange) : List Nat :=
  (List.range ((r.hi - r.lo) / r.step + 1)).map fun i => r.lo + i * r.step

/-- The characters that are equal up to case to another one. -/
def casedNumbers : List Nat :=
  (upperRanges ++ lowerRanges).flatMap CaseRange.members ++ wideCaseVariants.flatten

namespace CharSet

/-- The number from which on a set is searched for letters rather than read through. -/
def longRange : Nat := 200

/-- The characters of a range. -/
def numbersOf (r : Nat × Nat) : List Nat := (List.range (r.2 + 1 - r.1)).map (r.1 + ·)

/-- The characters that are equal to a member of a set up to case. -/
def upToCase (s : CharSet) : CharSet :=
  let isShort := s.ranges.all fun r => r.2 - r.1 < longRange
  let letters :=
    if isShort && s.ranges.length < longRange then s.ranges.flatMap numbersOf
    else casedNumbers.filter s.has
  ofRanges (s.ranges ++ (letters.flatMap caseNumbers).map fun n => (n, n))

/-- The set of one character, possibly up to case. -/
def letter (fold : Bool) (n : Nat) : CharSet :=
  if fold then ofRanges ((caseNumbers n).map fun m => (m, m)) else single n

/-- The only member of a set. -/
def single? (s : CharSet) : Option Nat :=
  match s.ranges with
  | [(lo, hi)] => if lo = hi then some lo else none
  | _ => none

/-- The lesser of two characters that are equal up to case to each other and to no other character,
if they are all members of a set. -/
def casePair? (s : CharSet) : Option Nat :=
  let (a, b) :=
    match s.ranges with
    | [(lo, hi)] => (lo, hi)
    | [(a, a'), (b, b')] => if a = a' && b = b' then (a, b) else (0, 0)
    | _ => (0, 0)
  if a < b && caseNumbers a == [a, b] && (s.ranges.length == 2 || b == a + 1) then some a
  else none

end CharSet

end KeyScript
