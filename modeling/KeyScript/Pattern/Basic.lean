import KeyScript.Pattern.CharSet

/-!
# Patterns

A pattern is a regular expression over characters with anchors. It is matched by following sets of
positions: a pattern maps the positions at which it may start to the positions at which it may
end, so that a repetition is a closure of such a map and no search is needed.

## Main definitions

- `Anchor` — a condition on a position
- `Pattern` — a regular expression
- `Pattern.ends` — the positions where a match that starts in a given set may end
-/

namespace KeyScript

/-- A condition on a position in a text. -/
inductive Anchor where
  | beginText
  | endText
  | beginLine
  | endLine
  | wordBoundary
  | noWordBoundary
deriving DecidableEq, Repr, Inhabited

/-- A regular expression. -/
inductive Pattern where
  /-- Nothing, at any position. -/
  | empty
  /-- One character of a set. -/
  | one (set : CharSet)
  /-- Nothing, at a position that meets a condition. -/
  | anchor (a : Anchor)
  /-- A group that is counted. -/
  | group (p : Pattern)
  /-- One pattern and then another. -/
  | seq (p q : Pattern)
  /-- One pattern or another. -/
  | alt (p q : Pattern)
  /-- Any number of times. -/
  | star (p : Pattern)
  /-- At least once. -/
  | plus (p : Pattern)
  /-- At most once. -/
  | option (p : Pattern)
  /-- At least `least` times and, if there is a bound, at most `most` times. -/
  | times (least : Nat) (most : Option Nat) (p : Pattern)
deriving DecidableEq, Repr, Inhabited

/-- Whether a character is a letter, digit or underscore of ASCII. -/
def isWordChar (c : Char) : Bool :=
  ('a' ≤ c && c ≤ 'z') || ('A' ≤ c && c ≤ 'Z') || ('0' ≤ c && c ≤ '9') || c == '_'

/-- Whether a position of a text, which lies between the characters `i - 1` and `i`, meets a
condition. -/
def Anchor.holds (text : Array Char) (i : Nat) : Anchor → Bool
  | beginText => i == 0
  | endText => i == text.size
  | beginLine => i == 0 || text[i - 1]? == some '\n'
  | endLine => i == text.size || text[i]? == some '\n'
  | wordBoundary => isWord (i != 0) (i - 1) != isWord true i
  | noWordBoundary => isWord (i != 0) (i - 1) == isWord true i
where
  /-- Whether there is a word character at an index. -/
  isWord (inside : Bool) (k : Nat) : Bool := inside && text[k]?.any isWordChar

/-- The union of two increasing lists of positions. -/
def mergePositions : List Nat → List Nat → List Nat
  | [], ys => ys
  | xs, [] => xs
  | x :: xs, y :: ys =>
    if x < y then x :: mergePositions xs (y :: ys)
    else if y < x then y :: mergePositions (x :: xs) ys
    else x :: mergePositions xs ys

/-- The closure of a set of positions under a map, where `fresh` are the positions that the map has
not been applied to. -/
def closePositions (f : List Nat → List Nat) : (fuel : Nat) → (seen fresh : List Nat) → List Nat
  | 0, seen, _ => seen
  | fuel + 1, seen, fresh =>
    let new := (f fresh).filter fun i => !seen.contains i
    if new.isEmpty then seen else closePositions f fuel (mergePositions seen new) new

/-- Applies a map a number of times. -/
def iteratePositions (f : List Nat → List Nat) : Nat → List Nat → List Nat
  | 0, s => s
  | n + 1, s => iteratePositions f n (f s)

/-- The positions that a map reaches in at most a number of steps. -/
def reachWithin (f : List Nat → List Nat) : Nat → List Nat → List Nat
  | 0, s => s
  | n + 1, s => mergePositions s (reachWithin f n (f s))

namespace Pattern

/-- The positions where a match may end if it starts at one of the given positions, which are in
increasing order. -/
def ends (text : Array Char) : Pattern → List Nat → List Nat
  | empty, s => s
  | one set, s => s.filterMap fun i => if text[i]?.any set.contains then some (i + 1) else none
  | anchor a, s => s.filter fun i => a.holds text i
  | group p, s => p.ends text s
  | seq p q, s => q.ends text (p.ends text s)
  | alt p q, s => mergePositions (p.ends text s) (q.ends text s)
  | star p, s => closePositions (p.ends text) (text.size + 2) s s
  | plus p, s =>
    let once := p.ends text s
    closePositions (p.ends text) (text.size + 2) once once
  | option p, s => mergePositions s (p.ends text s)
  | times least none p, s =>
    let first := iteratePositions (p.ends text) least s
    closePositions (p.ends text) (text.size + 2) first first
  | times least (some most) p, s =>
    reachWithin (p.ends text) (most - least) (iteratePositions (p.ends text) least s)

end Pattern

end KeyScript
