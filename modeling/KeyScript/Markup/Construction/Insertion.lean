import KeyScript.Markup.Construction.Scope

/-!
# Putting nodes into a document

A new node becomes the last child of the innermost open element. A node that cannot stand in a
table goes before the table instead. Formatting elements are remembered, and when they were closed
by the end of another element they are opened again where the text goes on.

## Main definitions

- `addText`, `addComment`, `addElement`, `addVoid` — new nodes
- `addFormatting`, `reopenFormatting`, `dropFormatting` — formatting elements
- `adoptAttributes` — attributes of a repeated start tag
-/

namespace KeyScript.Markup

/-- A place for a node: its parent, and the child of the parent that it goes before, if it does not
go to the end. -/
structure Spot where
  parent : Nat
  next : Option Nat := none
deriving DecidableEq, Repr, Inhabited

/-- The parts of a table that hold no text themselves. -/
def tableParts : List Bytes := ["table", "tbody", "tfoot", "thead", "tr"]

/-- The first of some open elements that has a name, and the elements outside it. -/
def findNamed? (f : Forest) (name : Bytes) : List Nat → Option (Nat × List Nat)
  | [] => none
  | n :: outer => if (f.tag n).name == name then some (n, outer) else findNamed? f name outer

/-- The place for a node that cannot stand in a table: before the innermost table, or in a template
that is inside the table. -/
def Construction.fosterSpot (s : Construction) : Spot :=
  let template := findNamed? s.forest "template" s.openElements
  match findNamed? s.forest "table" s.openElements with
  | none =>
    match template with
    | some (n, _) => { parent := n }
    | none => { parent := s.openElements.getLastD Forest.document }
  | some (table, outer) =>
    match template.filter fun (_, outside) => outside.length > outer.length with
    | some (n, _) => { parent := n }
    | none =>
      { parent := (s.forest.parent? table).getD (outer.head?.getD Forest.document)
        next := some table }

/-- The place for a new node. -/
def Construction.spot (s : Construction) : Spot :=
  if s.fosters && s.currentTag.isNamed tableParts then s.fosterSpot else { parent := s.current }

/-- The node before a place. -/
def Forest.beforeSpot? (f : Forest) (spot : Spot) : Option Nat :=
  match spot.next with
  | some n => f.before? n
  | none => (f.children spot.parent).back?

/-- Puts a node into a place. -/
def Forest.put (f : Forest) (spot : Spot) (n : Nat) : Forest :=
  f.insertBefore spot.parent n spot.next

/-- Adds a node that is in no tree. -/
def create (content : Content) : Build Nat :=
  modifyGet fun s => (s.forest.next, { s with forest := s.forest.add content })

/-- Adds a node at the place for new nodes. -/
def addNode (content : Content) : Build Nat := do
  let n ← create content
  modify fun s =>
    let spot := s.spot
    { s with forest := s.forest.put spot n }
  return n

/-- Adds a text. One that follows another text becomes a part of it. -/
def addText (data : Bytes) : Build Unit := do
  if data ≠ [] then
    let s ← get
    match (s.forest.beforeSpot? s.spot).filter s.forest.isText with
    | some n => set { s with forest := s.forest.extendText n data }
    | none => discard (addNode (.text data))

/-- Adds a comment. -/
def addComment (data : Bytes) : Build Unit := discard (addNode (.comment data))

/-- Adds a comment at the end of a node. -/
def addCommentTo (parent : Nat) (data : Bytes) : Build Unit := do
  let n ← create (.comment data)
  modify fun s => { s with forest := s.forest.append parent n }

/-- Adds an element and opens it. -/
def addTag (tag : Tag) : Build Nat := do
  let n ← addNode (.element tag)
  openElement n
  return n

/-- Adds an element of a page and opens it. -/
def addElement (name : Bytes) (attributes : List Attribute) : Build Unit :=
  discard (addTag { name, attributes })

/-- Adds an element of a page that has no content. -/
def addVoid (name : Bytes) (attributes : List Attribute) : Build Unit := do
  addElement name attributes
  closeCurrent

/-- Adds an element whose content is not markup. -/
def addTextElement (name : Bytes) (attributes : List Attribute) : Build Unit := do
  addElement name attributes
  modify fun s => { s with returnMode := s.mode, mode := .inText }

/-- The attributes of an element with those of a list whose names are new. -/
def joinAttributes (old new : List Attribute) : List Attribute :=
  new.foldl (fun kept a => if kept.any (·.key == a.key) then kept else kept ++ [a]) old

/-- Gives an element the attributes of a list whose names are new. -/
def adoptAttributes (n : Nat) (attributes : List Attribute) : Build Unit :=
  modify fun s =>
    let join := fun tag : Tag =>
      { tag with attributes := joinAttributes tag.attributes attributes }
    { s with forest := s.forest.changeTag n join }

/-- A repeated start tag of the root only gives it more attributes. -/
def repeatRoot (attributes : List Attribute) : Build Unit := do
  if !(← hasTemplate) then
    adoptAttributes ((← get).openElements.getLastD Forest.document) attributes

/-- Whether two elements of pages have the same name and the same attributes in any order. -/
def Tag.isAlike (a b : Tag) : Bool :=
  a.space == .page && a.name == b.name && a.attributes.length == b.attributes.length &&
    a.attributes.all b.attributes.contains

/-- Formatting elements up to the next border without those that are like a new one, except for the
first two, of which `seen` were met before. -/
def limitAlike (isAlike : Nat → Bool) : (seen : Nat) → List (Option Nat) → List (Option Nat)
  | _, [] => []
  | _, none :: rest => none :: rest
  | seen, some n :: rest =>
    if !isAlike n then some n :: limitAlike isAlike seen rest
    else if seen < 2 then some n :: limitAlike isAlike (seen + 1) rest
    else limitAlike isAlike seen rest

/-- Adds a formatting element. -/
def addFormatting (name : Bytes) (attributes : List Attribute) : Build Unit := do
  let tag : Tag := { name, attributes }
  let n ← addTag tag
  modify fun s =>
    let isAlike := fun old => (s.forest.tag old).isAlike tag
    { s with formatting := some n :: limitAlike isAlike 0 s.formatting }

/-- Puts a border behind the formatting elements. -/
def addBorder : Build Unit := modify fun s => { s with formatting := none :: s.formatting }

/-- Forgets the formatting elements up to the last border, and the border. -/
def dropFormatting : Build Unit :=
  modify fun s => { s with formatting := (s.formatting.dropWhile Option.isSome).tail }

/-- Adds a copy of each of some formatting elements, one in the other. -/
def copyFormatting : List Nat → Build (List Nat)
  | [] => return []
  | n :: rest => do
    let copy ← addTag ((← get).forest.tag n)
    return copy :: (← copyFormatting rest)

/-- Opens again the formatting elements that were closed. -/
def reopenFormatting : Build Unit := do
  let s ← get
  let isClosed : Option Nat → Bool
    | some n => !s.openElements.contains n
    | none => false
  let closed := (s.formatting.takeWhile isClosed).filterMap id
  let copies ← copyFormatting closed.reverse
  modify fun t =>
    { t with formatting := copies.reverse.map some ++ s.formatting.dropWhile isClosed }

end KeyScript.Markup
