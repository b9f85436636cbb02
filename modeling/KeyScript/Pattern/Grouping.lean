import KeyScript.Pattern.Factor

/-!
# Groups and alternatives

At the end of an alternative the pieces above the last mark become one piece, and at the end of a
group its alternatives become one. Finished alternatives lie below the sign between alternatives,
so that a group has at most one such sign; two alternatives that are characters are joined at once.

## Main definitions

- `endAlternative` — one piece for the current alternative
- `nextAlternative` — begins another alternative
- `openGroup`, `closeGroup` — begins and ends a group
- `finishDraft` — the whole pattern
-/

namespace KeyScript

/-- The pieces above the last mark, in the order of reading, which are taken off the stack. -/
def takePieces : Drafting (List Piece) := do
  let s ← get
  let (pieces, rest) := above [] s.stack
  set { s with stack := rest }
  return pieces
where
  /-- The pieces on top of a stack, in front of those that are known already. -/
  above (later : List Piece) : List Entry → List Piece × List Entry
    | .piece p :: rest => above (p :: later) rest
    | stack => (later, stack)

/-- Makes one piece of the current alternative. -/
def endAlternative : Drafting Unit := do
  discard (joinLetters none)
  match ← takePieces with
  | [] => pushNew .empty
  | pieces => push (← collapseSequence pieces)

/-- Makes one piece of the alternatives above the last mark. -/
def endChoice : Drafting Unit := do
  match (← takePieces).reverse with
  | [] => pushNew .never
  | last :: before =>
    let pieces := (last.clean :: before).reverse
    push (← collapseChoice (Piece.weights pieces + 1) pieces)

/-- Moves a finished alternative below the sign between alternatives, if there is such a sign below
it. Answers whether there is one. -/
def settleAlternative : Drafting Bool := do
  let s ← get
  match s.stack with
  | .piece p :: .bar :: .piece q :: rest =>
    if p.isCharacter && q.isCharacter then
      let (general, other) := if p.rank > q.rank then (p, q) else (q, p)
      set { s with
        stack := .bar :: .piece (general.mergeCharacter other) :: rest
        spare := other.size :: s.spare }
    else set { s with stack := .bar :: .piece p :: .piece q.clean :: rest }
    return true
  | .piece p :: .bar :: rest =>
    set { s with stack := .bar :: .piece p :: rest }
    return true
  | _ => return false

/-- Begins another alternative. -/
def nextAlternative : Drafting Unit := do
  endAlternative
  if !(← settleAlternative) then pushMark .bar

/-- Makes one piece of everything above the beginning of the group. -/
def endGroup : Drafting Unit := do
  endAlternative
  if ← settleAlternative then modify fun s => { s with stack := s.stack.tail }
  endChoice

/-- Begins a group, with the flags that are in force inside it. -/
def openGroup (counted : Bool) (inner : Flags) : Drafting Unit := do
  pushMark (.paren counted (← get).flags)
  modify fun s => { s with flags := inner }

/-- Ends a group. -/
def closeGroup : Drafting Unit := do
  endGroup
  let s ← get
  match s.stack with
  | .piece p :: .paren counted flags :: rest =>
    set { s with stack := rest, flags }
    push (if counted then .make none .group [p] else p)
  | _ => throw .unexpectedParen

/-- The whole pattern. -/
def finishDraft : Drafting Piece := do
  endGroup
  match (← get).stack with
  | [.piece p] => return p
  | _ => throw .missingParen

end KeyScript
