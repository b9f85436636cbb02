import KeyScript.Pattern.Basic

/-!
# Pieces of patterns

While a pattern is read, its parts are kept as pieces: trees in which characters one after the
other, parts one after the other and choices are single nodes, however many parts they have. The
limits on patterns are limits on these trees. The height of a piece is known at its top. Its size,
which is about the number of steps that a match goes through, is noted down at times, and a note may
stay behind when the piece grows or shrinks.

## Main definitions

- `Flags` — what letters and dots mean
- `PieceKind`, `Piece` — trees
- `Piece.resize` — notes down the size of a piece
- `Piece.isWithin` — whether nested repetitions stay within a number of copies
- `Piece.toPattern` — the pattern that a piece stands for
-/

namespace KeyScript

/-- What letters, dots, anchors and repetitions mean at some place of a pattern. -/
structure Flags where
  /-- Letters match up to case. -/
  fold : Bool := false
  /-- Anchors match at line ends, too. -/
  multiline : Bool := false
  /-- A dot matches a line feed, too. -/
  dotAll : Bool := false
  /-- Repetitions prefer few copies. -/
  lazy : Bool := false
deriving DecidableEq, Repr, Inhabited

/-- What stands at the top of a piece. -/
inductive PieceKind where
  /-- Characters one after the other, the last one first. -/
  | literal (flags : Flags) (chars : List Nat)
  | set (members : CharSet)
  | anyButNewline
  | any
  | empty
  | never
  | anchor (a : Anchor)
  /-- A group that is counted. -/
  | group
  | star
  | plus
  | option
  | times (least : Nat) (most : Option Nat) (lazy : Bool)
  | sequence
  | choice
deriving DecidableEq, Repr, Inhabited

/-- A tree of parts of a pattern, with its height and with the size that was noted down last. -/
inductive Piece where
  | node (kind : PieceKind) (height : Nat) (size : Option Nat) (parts : List Piece)
deriving Repr, Inhabited

namespace Piece

/-- What stands at the top. -/
def kind : Piece → PieceKind
  | node kind _ _ _ => kind

/-- The number of levels. -/
def height : Piece → Nat
  | node _ height _ _ => height

/-- The size that was noted down last. -/
def size : Piece → Option Nat
  | node _ _ size _ => size

/-- The parts below the top. -/
def parts : Piece → List Piece
  | node _ _ _ parts => parts

/-- A piece with given parts. -/
def make (size : Option Nat) (kind : PieceKind) (parts : List Piece) : Piece :=
  node kind (1 + parts.foldl (fun h p => max h p.height) 0) size parts

/-- A piece with another top. -/
def withKind (p : Piece) (kind : PieceKind) : Piece := node kind p.height p.size p.parts

/-- A piece with other parts. -/
def withParts (p : Piece) (parts : List Piece) : Piece := make p.size p.kind parts

end Piece

/-- The number of character numbers that are written down in a node. -/
def PieceKind.charCount : PieceKind → Nat
  | literal _ chars => chars.length
  | set members => 2 * members.ranges.length
  | _ => 0

/-- The size of a node with parts of given sizes. -/
def PieceKind.sizeWith (kind : PieceKind) (sizes : List Nat) : Nat :=
  let total := sizes.foldl (· + ·) 0
  max 1 <| match kind with
    | literal _ chars => chars.length
    | group | star => 2 + total
    | plus | option => 1 + total
    | sequence => total
    | choice => total + (sizes.length - 1)
    | times 0 none _ => 2 + total
    | times least none _ => 1 + least * total
    | times least (some most) _ => most * total + (most - least)
    | _ => 1

namespace Piece

mutual

/-- Notes down the size of a piece, unless there is a note already. -/
def noteSize : Piece → Piece
  | node kind height (some n) parts => node kind height (some n) parts
  | node kind height none parts =>
    let parts := noteSizes parts
    node kind height (some (kind.sizeWith (parts.filterMap Piece.size))) parts

/-- Notes down the sizes of some pieces, as far as there are no notes. -/
def noteSizes : List Piece → List Piece
  | [] => []
  | p :: ps => noteSize p :: noteSizes ps

end

/-- Notes down the size of a piece anew, with the sizes of its parts as they are noted down. -/
def resize : Piece → Piece
  | node kind height _ parts =>
    let parts := noteSizes parts
    node kind height (some (kind.sizeWith (parts.filterMap Piece.size))) parts

mutual

/-- Whether no nesting of counted repetitions asks for more than `n` copies. -/
def isWithin (n : Nat) : Piece → Bool
  | node kind _ _ parts =>
    match kind with
    | .times least most _ =>
      let copies := most.getD least
      if most = some 0 then true
      else if copies > n then false
      else areWithin (if copies > 0 then n / copies else n) parts
    | _ => areWithin n parts

/-- Whether no nesting of counted repetitions in some pieces asks for more than `n` copies. -/
def areWithin (n : Nat) : List Piece → Bool
  | [] => true
  | p :: ps => isWithin n p && areWithin n ps

end

mutual

/-- The number of nodes and characters of a piece. -/
def weight : Piece → Nat
  | node kind _ _ parts => 1 + kind.charCount + weights parts

/-- The number of nodes and characters of some pieces. -/
def weights : List Piece → Nat
  | [] => 0
  | p :: ps => weight p + weights ps

end

/-- Whether a piece matches exactly one character of a set. -/
def isCharacter (p : Piece) : Bool :=
  match p.kind with
  | .literal _ [_] | .set _ | .anyButNewline | .any => true
  | _ => false

/-- How general a piece is that matches one character. -/
def rank (p : Piece) : Nat :=
  match p.kind with
  | .set _ => 1
  | .anyButNewline => 2
  | .any => 3
  | _ => 0

/-- The characters that a piece which matches one character matches. -/
def members (p : Piece) : CharSet :=
  match p.kind with
  | .literal flags [n] => .letter flags.fold n
  | .set members => members
  | .anyButNewline => .allButNewline
  | .any => .all
  | _ => .empty

/-- Whether a piece is written as the line feed or as a set that has it. -/
def namesNewline (p : Piece) : Bool :=
  match p.kind with
  | .literal _ chars => chars == [10]
  | _ => p.members.has 10

end Piece

/-- A sequence of patterns. -/
def Pattern.sequence : List Pattern → Pattern
  | [] => .empty
  | [p] => p
  | p :: ps => .seq p (sequence ps)

/-- A choice between patterns. -/
def Pattern.choice : List Pattern → Pattern
  | [] => .one .empty
  | [p] => p
  | p :: ps => .alt p (choice ps)

/-- The pattern for a node with given patterns as parts. -/
def PieceKind.toPattern (kind : PieceKind) (parts : List Pattern) : Pattern :=
  let inner := Pattern.sequence parts
  match kind with
  | literal flags chars =>
    .sequence (chars.reverse.map fun n => .one (.letter flags.fold n))
  | set members => .one members
  | anyButNewline => .one .allButNewline
  | any => .one .all
  | empty => .empty
  | never => .one .empty
  | anchor a => .anchor a
  | group => .group inner
  | star => .star inner
  | plus => .plus inner
  | option => .option inner
  | times least most _ => .times least most inner
  | sequence => inner
  | choice => .choice parts

namespace Piece

mutual

/-- The pattern that a piece stands for. -/
def toPattern : Piece → Pattern
  | node kind _ _ parts => kind.toPattern (toPatterns parts)

/-- The patterns that some pieces stand for. -/
def toPatterns : List Piece → List Pattern
  | [] => []
  | p :: ps => toPattern p :: toPatterns ps

end

end Piece

end KeyScript
