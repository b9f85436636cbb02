import KeyScript.Markup.Construction.Insertion

/-!
# End tags of formatting elements

The end tag of a formatting element may stand inside a block that was opened inside the element. The
element then ends before the block, and a copy of it holds what the block held so far. Formatting
elements between the two are copied as well, so that the tree stays a tree.

## Main definitions

- `closeOther` — the end tag of an element without rules of its own
- `Reordering` — the elements between a formatting element and a block inside it
- `closeFormatting` — the end tag of a formatting element
-/

namespace KeyScript.Markup

/-- The open elements outside the innermost one with a name, unless a special element is inside
it. -/
def outsideNamed? (f : Forest) (name : Bytes) : List Nat → Option (List Nat)
  | [] => none
  | n :: outer =>
    if (f.tag n).name == name then some outer
    else if (f.tag n).isSpecial then none
    else outsideNamed? f name outer

/-- The end tag of an element without rules of its own. -/
def closeOther (name : Bytes) : Build Unit :=
  modify fun s =>
    match outsideNamed? s.forest name s.openElements with
    | some outer => { s with openElements := outer }
    | none => s

/-- The elements between a formatting element and a block inside it, while they are copied. -/
structure Reordering where
  /-- The node that is to be moved next. -/
  last : Nat
  /-- The formatting elements, earliest first. -/
  formatting : List (Option Nat)
  /-- Where among them the copy of the formatting element goes. -/
  bookmark : Nat
  /-- The elements that stay open, outermost first. -/
  kept : List Nat := []
deriving DecidableEq, Repr, Inhabited

/-- The place of an element among the formatting elements, earliest first. -/
def formattingPlace? (formatting : List (Option Nat)) (n : Nat) : Option Nat :=
  formatting.findIdx? (· == some n)

/-- The formatting elements without one of them. -/
def withoutFormatting (formatting : List (Option Nat)) (n : Nat) : List (Option Nat) :=
  formatting.filter (· != some n)

/-- The formatting elements with one more at a place. -/
def insertFormatting (formatting : List (Option Nat)) (place n : Nat) : List (Option Nat) :=
  formatting.take place ++ some n :: formatting.drop place

/-- Moves a node to the end of another. -/
def moveTo (parent n : Nat) : Build Unit :=
  modify fun s => { s with forest := (s.forest.detach n).append parent n }

/-- Copies the elements between a formatting element and a block inside it, innermost first, and
puts each last node into the next copy. From the fourth on no more copies are made, and an element
that is not among the formatting elements is closed. -/
def reorder (block : Nat) : (count : Nat) → List Nat → Reordering → Build Reordering
  | _, [], r => return r
  | count, n :: outer, r =>
    match formattingPlace? r.formatting n with
    | none => reorder block (count + 1) outer r
    | some place =>
      if count > 3 then
        reorder block (count + 1) outer
          { r with
            formatting := withoutFormatting r.formatting n
            bookmark := if place ≤ r.bookmark then r.bookmark - 1 else r.bookmark
            kept := n :: r.kept }
      else do
        let copy ← create (.element { (← get).forest.tag n with space := .page })
        moveTo copy r.last
        reorder block (count + 1) outer
          { last := copy
            formatting := r.formatting.set place (some copy)
            bookmark := if r.last = block then place + 1 else r.bookmark
            kept := copy :: r.kept }

/-- Puts a node below the element that holds a formatting element, or before the table if that
element is a part of a table. -/
def moveBelow (ancestor n : Nat) : Build Unit :=
  modify fun s =>
    let forest := s.forest.detach n
    let spot : Spot :=
      if (forest.tag ancestor).isNamed tableParts then { s with forest }.fosterSpot
      else { parent := ancestor }
    { s with forest := forest.put spot n }

/-- Ends a formatting element before a block inside it. The open elements are those inside the
block, the block, those between the block and the element, and those outside the element. -/
def splitAtBlock (inner : List Nat) (block : Nat) (between : List Nat) (element : Nat)
    (outer : List Nat) : Build Unit := do
  let formatting := (← get).formatting.reverse
  let r ← reorder block 1 between
    { last := block, formatting, bookmark := (formattingPlace? formatting element).getD 0 }
  moveBelow (outer.head?.getD Forest.document) r.last
  let copy ← create (.element ((← get).forest.tag element))
  modify fun s => { s with forest := (s.forest.moveChildren block copy).append block copy }
  let isBefore := (formattingPlace? r.formatting element).any (· < r.bookmark)
  let bookmark := if isBefore then r.bookmark - 1 else r.bookmark
  let formatting := insertFormatting (withoutFormatting r.formatting element) bookmark copy
  modify fun s =>
    { s with
      formatting := formatting.reverse
      openElements := inner ++ copy :: block :: r.kept.reverse ++ outer }

/-- The end tag of a formatting element that is the innermost one with its name; answers whether
there may be more to do. -/
def closeOneFormatting (name : Bytes) : Build Bool := do
  let s ← get
  let candidates := (s.formatting.takeWhile Option.isSome).filterMap id
  match candidates.find? fun n => (s.forest.tag n).name == name with
  | none =>
    closeOther name
    return false
  | some element =>
    if !s.openElements.contains element then
      set { s with formatting := withoutFormatting s.formatting element }
      return false
    else if !(← isInScope .general [name]) then return false
    else
      let inside := s.openElements.takeWhile (· != element)
      let outer := (s.openElements.dropWhile (· != element)).tail
      let isSpecial := fun n => (s.forest.tag n).isSpecial
      match inside.reverse.dropWhile fun n => !isSpecial n with
      | [] =>
        set { s with
          openElements := outer
          formatting := withoutFormatting s.formatting element }
        return false
      | block :: inner =>
        let between := (inside.reverse.takeWhile fun n => !isSpecial n).reverse
        splitAtBlock inner.reverse block between element outer
        return true

/-- The end tag of a formatting element, with at most a number of rounds. -/
def closeFormattingRounds (name : Bytes) : (rounds : Nat) → Build Unit
  | 0 => return
  | rounds + 1 => do
    if ← closeOneFormatting name then closeFormattingRounds name rounds

/-- The end tag of a formatting element. -/
def closeFormatting (name : Bytes) : Build Unit := do
  let s ← get
  if s.currentTag.name == name && !s.formatting.contains (some s.current) then closeCurrent
  else closeFormattingRounds name 8

end KeyScript.Markup
