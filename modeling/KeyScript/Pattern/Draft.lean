import KeyScript.Pattern.Error
import KeyScript.Pattern.Piece

/-!
# Drafts of patterns

A pattern that is being read is a stack of pieces, with marks for the groups and choices that are
still open. Letters that follow each other are joined when the next piece comes, since only the last
of them can be repeated. No piece may be too high or too large. Sizes are not looked at before the
number of nodes and the counts of repetitions make it possible that the limit is exceeded.

## Main definitions

- `Entry`, `Draft` — the stack and what is known about it
- `Drafting` — a step of drafting, which may fail
- `checkPiece` — the limits on pieces
- `push` — puts a piece on the stack
- `repeatTop` — repeats the piece on top
-/

namespace KeyScript

/-- What lies on the stack of a draft. -/
inductive Entry where
  | piece (p : Piece)
  /-- The sign between two alternatives. -/
  | bar
  /-- The beginning of a group, with the flags in force behind the group. -/
  | paren (counted : Bool) (flags : Flags)
deriving Repr, Inhabited

/-- A pattern that is being read. -/
structure Draft where
  flags : Flags := {}
  /-- The pieces and marks, latest first. -/
  stack : List Entry := []
  /-- The greatest number of nodes that were in use at a time. -/
  nodes : Nat := 0
  /-- The sizes that were noted down for nodes that are no longer in use, latest first. -/
  spare : List (Option Nat) := []
  /-- The number of character numbers that have been pushed. -/
  chars : Nat := 0
  /-- The product of the counts of repetitions, which is at most the greatest size. -/
  copies : Nat := 1
  /-- Whether sizes are looked at. -/
  isMeasured : Bool := false
deriving Repr, Inhabited

/-- A step of drafting a pattern. -/
abbrev Drafting := StateT Draft (Except PatternFault)

/-- The greatest height of a piece. -/
def maxHeight : Nat := 1000

/-- The greatest size of a piece. -/
def maxSize : Nat := 3355443

/-- The greatest number of character numbers that may be pushed. -/
def maxChars : Nat := 33554432

/-- Takes a node into use, possibly one with a size noted down. -/
def takeNode : Drafting (Option Nat) := do
  let s ← get
  match s.spare with
  | [] =>
    set { s with nodes := s.nodes + 1 }
    return none
  | size :: spare =>
    set { s with spare }
    return size

/-- Gives a node back. -/
def releaseNode (size : Option Nat) : Drafting Unit :=
  modify fun s => { s with spare := size :: s.spare }

/-- A new piece with given parts. -/
def newPiece (kind : PieceKind) (parts : List Piece) : Drafting Piece := do
  return .make (← takeNode) kind parts

/-- The product of the counts of repetitions, with a piece that is looked at. -/
def Draft.copiesWith (s : Draft) (kind : PieceKind) : Nat :=
  match kind with
  | .times least most _ =>
    let n := max 1 (most.getD least)
    if n > maxSize / s.copies then maxSize else s.copies * n
  | _ => s.copies

/-- Notes down the sizes of all pieces on the stack. -/
def measureStack : Drafting Unit := do
  let s ← get
  let stack := s.stack.map fun
    | .piece p => .piece p.resize
    | e => e
  set { s with stack, isMeasured := true }
  if stack.any fun | .piece p => p.size.any (· > maxSize) | _ => false then throw .size

/-- Begins to look at sizes when a node with some top is looked at, if that is needed. -/
def watchSize (kind : PieceKind) : Drafting Unit := do
  let s ← get
  if s.chars > maxChars then throw .size
  if !s.isMeasured then
    let copies := s.copiesWith kind
    set { s with copies }
    if s.nodes ≥ maxSize / copies then measureStack

/-- A piece within the limits, with its size noted down if sizes are looked at. -/
def checkPiece (p : Piece) : Drafting Piece := do
  watchSize p.kind
  let p := if (← get).isMeasured then p.resize else p
  if (← get).isMeasured && p.size.any (· > maxSize) then throw .size
  if p.height > maxHeight then throw .depth
  return p

/-- Puts something on the stack. -/
def pushEntry (e : Entry) : Drafting Unit := modify fun s => { s with stack := e :: s.stack }

/-- Joins the two pieces on top if both are letters and agree on case. If so, a new letter takes the
place of the upper one; answers whether it has. -/
def joinLetters (letter : Option (Flags × Nat)) : Drafting Bool := do
  let s ← get
  match s.stack with
  | .piece (.node (.literal f xs) h size ps) :: .piece (.node (.literal g ys) k below qs) :: rest =>
    if f.fold ≠ g.fold then return false
    let joined := Entry.piece (.node (.literal g (xs ++ ys)) k below qs)
    match letter with
    | some (flags, n) =>
      set { s with stack := .piece (.node (.literal flags [n]) h size ps) :: joined :: rest }
      return true
    | none =>
      set { s with stack := joined :: rest, spare := size :: s.spare }
      return false
  | _ => return false

/-- The letter that a set is as good as, with whether it is up to case. -/
def PieceKind.letter? : PieceKind → Option (Bool × Nat)
  | set members =>
    match members.single? with
    | some n => some (false, n)
    | none => members.casePair?.map fun n => (true, n)
  | _ => none

/-- Puts a piece on the stack. A set that is as good as a letter becomes one. -/
def push (p : Piece) : Drafting Unit := do
  modify fun s => { s with chars := s.chars + p.kind.charCount }
  match p.kind.letter? with
  | some (fold, n) =>
    let flags := { (← get).flags with fold }
    if !(← joinLetters (some (flags, n))) then
      pushEntry (.piece (← checkPiece (p.withKind (.literal flags [n]))))
  | none =>
    discard (joinLetters none)
    pushEntry (.piece (← checkPiece p))

/-- Puts a new piece without parts on the stack. -/
def pushNew (kind : PieceKind) : Drafting Unit := do
  push (← newPiece kind [])

/-- Puts a character on the stack, the least of its case variants if case does not count. -/
def pushChar (n : Nat) : Drafting Unit := do
  let flags := (← get).flags
  pushNew (.literal flags [if flags.fold then leastCase n else n])

/-- Puts a mark on the stack. -/
def pushMark (mark : Entry) : Drafting Unit := do
  discard takeNode
  discard (joinLetters none)
  pushEntry mark
  watchSize .empty

/-- Whether there is a piece on top of the stack. -/
def hasPiece : Drafting Bool := do
  match (← get).stack with
  | .piece _ :: _ => return true
  | _ => return false

/-- Repeats the piece on top of the stack. Answers whether the counts of nested repetitions stay
within a bound. -/
def repeatTop (kind : PieceKind) (bound : Nat) : Drafting Bool := do
  let s ← get
  match s.stack with
  | .piece sub :: rest =>
    set { s with stack := rest }
    let p ← checkPiece (← newPiece kind [sub])
    pushEntry (.piece p)
    return p.isWithin bound
  | _ => return true

end KeyScript
