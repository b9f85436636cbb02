import KeyScript.Pattern.Draft

/-!
# Common beginnings of alternatives

A choice is kept small: what neighbouring alternatives have in common at their beginning is written
once in front of a choice of what is left of them, neighbouring characters are joined to a set, and
one of several empty alternatives is enough. A leading piece counts as common only if it matches a
fixed number of characters; there single letters that are written alike count as the same, whether
or not they mean the same about case.

## Main definitions

- `joinCharacters` — joins characters and sets
- `literalRuns`, `leadingRuns` — neighbours with a common beginning
- `collapseChoice`, `collapseSequence` — one piece for several
-/

namespace KeyScript

/-- Joins a character or set with another one that is not more general. -/
def Piece.mergeCharacter (p q : Piece) : Piece :=
  match p.kind, q.kind with
  | .any, _ => p
  | .anyButNewline, _ => if q.namesNewline then p.withKind .any else p
  | .literal f [m], .literal g [n] =>
    if m = n && f = g then p
    else p.withKind (.set ((CharSet.letter f.fold m).union (.letter g.fold n)))
  | _, _ => p.withKind (.set (p.members.union q.members))

/-- A set of all characters, or of all but the line feed, has a form of its own. -/
def Piece.clean (p : Piece) : Piece :=
  match p.kind with
  | .set members =>
    if members = .all then p.withKind .any
    else if members = .allButNewline then p.withKind .anyButNewline
    else p
  | _ => p

/-- The longest common beginning of two lists. -/
def commonStart : List Nat → List Nat → List Nat
  | m :: ms, n :: ns => if m = n then m :: commonStart ms ns else []
  | _, _ => []

namespace Piece

/-- The letters that a piece begins with, and whether they are up to case. -/
def leadingLetters (p : Piece) : List Nat × Bool :=
  let first :=
    match p.kind, p.parts with
    | .sequence, first :: _ => first
    | _, _ => p
  match first.kind with
  | .literal flags chars => (chars.reverse, flags.fold)
  | _ => ([], false)

/-- The piece that a piece begins with. -/
def leadingPiece? (p : Piece) : Option Piece :=
  match p.kind, p.parts with
  | .empty, _ => none
  | .sequence, first :: _ => if first.kind = .empty then none else some first
  | _, _ => some p

/-- Whether two characters or sets are written in the same way. -/
def sameCharacter (p q : Piece) : Bool :=
  match p.kind, q.kind with
  | .literal _ [m], .literal _ [n] => m == n
  | .set s, .set t => s == t
  | .any, .any | .anyButNewline, .anyButNewline => true
  | _, _ => false

/-- Whether two pieces match the same fixed number of characters of one set. -/
def sameBeginning (p q : Piece) : Bool :=
  if p.isCharacter then p.sameCharacter q
  else match p.kind, q.kind, p.parts, q.parts with
    | .times least most _, .times .., [c], [d] =>
      most == some least && p.kind == q.kind && c.isCharacter && c.sameCharacter d
    | _, _, _, _ => false

/-- A piece without its first letters, if it is made of letters. -/
def dropOwnLetters (n : Nat) (p : Piece) : Piece :=
  match p.kind with
  | .literal flags chars =>
    if n < chars.length then p.withKind (.literal flags (chars.take (chars.length - n)))
    else p.withKind .empty
  | _ => p

end Piece

/-- Neighbours that begin with the same letters, with these letters and whether they are up to
case. -/
structure LiteralRun where
  letters : List Nat
  fold : Bool
  items : List Piece
deriving Repr, Inhabited

/-- Divides pieces into runs that begin with the same letters. -/
def literalRuns (pieces : List Piece) : List LiteralRun :=
  (pieces.foldl add []).reverse.map fun run => { run with items := run.items.reverse }
where
  /-- Adds a piece to the latest run, or begins a new one; the latest is first. -/
  add (runs : List LiteralRun) (p : Piece) : List LiteralRun :=
    let (letters, fold) := p.leadingLetters
    match runs with
    | run :: before =>
      let common := if run.fold = fold then commonStart run.letters letters else []
      if common.isEmpty then ⟨letters, fold, [p]⟩ :: runs
      else ⟨common, fold, p :: run.items⟩ :: before
    | [] => [⟨letters, fold, [p]⟩]

/-- Divides pieces into runs that begin with the same piece, which stands beside them. -/
def leadingRuns (pieces : List Piece) : List (Option Piece × List Piece) :=
  (pieces.foldl add []).reverse.map fun (first, items) => (first, items.reverse)
where
  /-- Adds a piece to the latest run, or begins a new one; the latest is first. -/
  add (runs : List (Option Piece × List Piece)) (p : Piece) : List (Option Piece × List Piece) :=
    let first := p.leadingPiece?
    match runs, first with
    | (some f, items) :: before, some g =>
      if f.sameBeginning g then (some f, p :: items) :: before else (first, [p]) :: runs
    | _, _ => (first, [p]) :: runs

/-- Divides pieces into runs of characters; every other piece is a run of its own. -/
def characterRuns (pieces : List Piece) : List (List Piece) :=
  (pieces.foldl add []).reverse.map List.reverse
where
  /-- Adds a piece to the latest run, or begins a new one; the latest is first. -/
  add (runs : List (List Piece)) (p : Piece) : List (List Piece) :=
    match runs with
    | (q :: items) :: before =>
      if p.isCharacter && q.isCharacter then (p :: q :: items) :: before else [p] :: runs
    | _ => [p] :: runs

/-- Several empty pieces one after the other count once. -/
def joinEmpties : List Piece → List Piece
  | p :: q :: rest =>
    if p.kind = .empty && q.kind = .empty then joinEmpties (q :: rest)
    else p :: joinEmpties (q :: rest)
  | pieces => pieces

/-- A piece without its first letters. -/
def dropLetters (n : Nat) (p : Piece) : Drafting Piece := do
  match p.kind, p.parts with
  | .sequence, first :: rest =>
    let first := first.dropOwnLetters n
    if first.kind ≠ .empty then return p.withParts (first :: rest)
    releaseNode first.size
    match rest with
    | [only] =>
      releaseNode p.size
      return only
    | _ => return p.withParts rest
  | _, _ => return p.dropOwnLetters n

/-- A piece without the piece that it begins with, which is given back if it is not needed. -/
def dropLeading (isNeeded : Bool) (p : Piece) : Drafting Piece := do
  match p.kind, p.parts with
  | .sequence, first :: rest =>
    if !isNeeded then releaseNode first.size
    match rest with
    | [only] =>
      releaseNode p.size
      return only
    | _ => return p.withParts rest
  | _, _ =>
    if !isNeeded then releaseNode p.size
    newPiece .empty []

/-- Writes the letters that neighbours begin with once, in front of what `collapse` makes of the
rest. -/
def factorLetters (collapse : List Piece → Drafting Piece) (run : LiteralRun) : Drafting Piece := do
  match run.items with
  | [only] => return only
  | items =>
    let start ← newPiece (.literal { fold := run.fold } run.letters.reverse) []
    let rests ← items.mapM fun p => do checkPiece (← dropLetters run.letters.length p)
    let rest ← collapse rests
    newPiece .sequence [start, rest]

/-- Writes the piece that neighbours begin with once, in front of what `collapse` makes of the
rest. -/
def factorLeading (collapse : List Piece → Drafting Piece) (run : Option Piece × List Piece) :
    Drafting Piece := do
  match run with
  | (some start, first :: second :: more) =>
    let firstRest ← checkPiece (← dropLeading true first)
    let rests ← (second :: more).mapM fun p => do checkPiece (← dropLeading false p)
    let rest ← collapse (firstRest :: rests)
    newPiece .sequence [start, rest]
  | (_, items) => return items.headD default

/-- The most general of some characters and sets, the first of several; of sets, one that is written
with the most ranges. -/
def mostGeneral (first : Piece) (others : List Piece) : Piece × List Piece :=
  match others with
  | [] => (first, [])
  | p :: rest =>
    let isMore := first.rank < p.rank ||
      (first.rank = p.rank && first.kind.charCount < p.kind.charCount)
    if isMore then
      let (best, left) := mostGeneral p rest
      (best, first :: left)
    else
      let (best, left) := mostGeneral first rest
      (best, p :: left)

/-- Joins neighbouring characters to a set. -/
def joinCharacters (run : List Piece) : Drafting Piece := do
  match run with
  | [] => return default
  | [only] => return only
  | first :: others =>
    let (best, left) := mostGeneral first others
    left.forM fun p => releaseNode p.size
    return (left.foldl Piece.mergeCharacter best).clean

/-- The pieces with the parts of those of some kind in their place. -/
def flattenParts (kind : PieceKind) (pieces : List Piece) : Drafting (List Piece) := do
  let parts ← pieces.mapM fun p => do
    if p.kind = kind then
      releaseNode p.size
      return p.parts
    else return [p]
  return parts.flatten

/-- One piece for pieces one after the other. -/
def collapseSequence (pieces : List Piece) : Drafting Piece := do
  match pieces with
  | [only] => return only
  | _ =>
    let size ← takeNode
    return .make size .sequence (← flattenParts .sequence pieces)

/-- One piece for a choice between pieces. What is left of pieces behind a common beginning weighs
less than they do, so that their weight bounds the rounds. -/
def collapseChoice : (fuel : Nat) → List Piece → Drafting Piece
  | _, [only] => return only
  | 0, pieces => newPiece .choice pieces
  | fuel + 1, pieces => do
    let size ← takeNode
    let parts ← flattenParts .choice pieces
    let parts ← (literalRuns parts).mapM (factorLetters (collapseChoice fuel))
    let parts ← (leadingRuns parts).mapM (factorLeading (collapseChoice fuel))
    let parts ← (characterRuns parts).mapM joinCharacters
    match joinEmpties parts with
    | [only] =>
      releaseNode size
      return only
    | several => return .make size .choice several

end KeyScript
