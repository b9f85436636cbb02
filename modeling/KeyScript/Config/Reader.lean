/-!
# Readers with a furthest place

A reader takes the start of a text or fails. Alternatives are tried in order from the same place.
For the report of a failure, the furthest place at which a part of the notation ended is kept,
also if that part was given up again.

## Main definitions

- `Cursor` — a place in a text, with the number of its line
- `Reader` — a reader of values
- `Reader.part` — a reader for a part of the notation, whose end counts for the furthest place
- `Reader.many` — as many values as there are
- `Reader.taken` — the characters that a reader takes
-/

namespace KeyScript

/-- A place in a text. -/
structure Cursor where
  /-- What is still to be read. -/
  rest : List Char
  /-- The number of characters before the place. -/
  place : Nat := 0
  /-- The number of the line, counted from one. -/
  line : Nat := 1
deriving DecidableEq, Repr, Inhabited

/-- A reader of values. From a place and the furthest place so far it goes to a value and the place
behind it, or fails; in both cases it tells the furthest place. -/
def Reader (α : Type) : Type := Cursor → Nat → Option (α × Cursor) × Nat

namespace Reader

variable {α β : Type}

instance : Monad Reader where
  pure a := fun c furthest => (some (a, c), furthest)
  bind p k := fun c furthest =>
    match p c furthest with
    | (some (a, after), furthest) => k a after furthest
    | (none, furthest) => (none, furthest)

/-- The reader that fails. -/
def fail : Reader α := fun _ furthest => (none, furthest)

/-- The first of two readers that does not fail. -/
def orElse (p q : Reader α) : Reader α := fun c furthest =>
  match p c furthest with
  | (some r, furthest) => (some r, furthest)
  | (none, furthest) => q c furthest

/-- The first of some readers that does not fail. -/
def oneOf (ps : List (Reader α)) : Reader α := ps.foldr orElse fail

/-- A reader for a part of the notation. If the part is not empty, its end counts for the furthest
place. -/
def part (p : Reader α) : Reader α := fun c furthest =>
  match p c furthest with
  | (some (a, after), furthest) =>
    (some (a, after), if c.place < after.place then max furthest after.place else furthest)
  | (none, furthest) => (none, furthest)

/-- One character that satisfies a condition. -/
def char (p : Char → Bool) : Reader Char := fun c furthest =>
  match c.rest with
  | x :: rest =>
    if p x then (some (x, { c with rest, place := c.place + 1 }), furthest) else (none, furthest)
  | [] => (none, furthest)

/-- Given characters. -/
def literal : List Char → Reader Unit
  | [] => pure ()
  | x :: xs => do
    let _ ← char (· == x)
    literal xs

/-- Given characters. -/
def text (s : String) : Reader Unit := literal s.toList

/-- As many values as there are, behind those in `done`, latest first. -/
def manyFrom (p : Reader α) : (fuel : Nat) → (done : List α) → Reader (List α)
  | 0, done => pure done.reverse
  | fuel + 1, done => fun c furthest =>
    match p c furthest with
    | (some (a, after), furthest) => manyFrom p fuel (a :: done) after furthest
    | (none, furthest) => (some (done.reverse, c), furthest)

/-- As many values as there are. A value takes at least one character, so that there are no more of
them than characters. -/
def many (p : Reader α) : Reader (List α) := fun c furthest =>
  manyFrom p (c.rest.length + 1) [] c furthest

/-- At least one value. -/
def manyOne (p : Reader α) : Reader (List α) := do
  let first ← p
  return first :: (← many p)

/-- A value if there is one. -/
def optional (p : Reader α) : Reader (Option α) := orElse (some <$> p) (pure none)

/-- Nothing, where a reader would fail. -/
def notAt (p : Reader α) : Reader Unit := fun c furthest =>
  match p c furthest with
  | (some _, furthest) => (none, furthest)
  | (none, furthest) => (some ((), c), furthest)

/-- The end of the text. -/
def atEnd : Reader Unit := notAt (char fun _ => true)

/-- Counts lines. -/
def addLines (n : Nat) : Reader Unit := fun c furthest =>
  (some ((), { c with line := c.line + n }), furthest)

/-- The number of the current line. -/
def currentLine : Reader Nat := fun c furthest => (some (c.line, c), furthest)

/-- The characters that a reader takes. -/
def taken (p : Reader α) : Reader (List Char) := fun c furthest =>
  match p c furthest with
  | (some (_, after), furthest) =>
    (some (c.rest.take (after.place - c.place), after), furthest)
  | (none, furthest) => (none, furthest)

/-- The value of a whole text, or the furthest place. -/
def run (p : Reader α) (chars : List Char) : Except Nat α :=
  match p { rest := chars } 0 with
  | (some (a, _), _) => .ok a
  | (none, furthest) => .error furthest

end Reader

end KeyScript
