import KeyScript.Markup.Node

/-!
# Documents under construction

While a document is read, nodes are moved about, so that they are kept under numbers, each with its
parent and its children. The node with number zero is the document itself. A node without a parent
is in no tree. When everything has been read, the nodes below the document become a markup tree.

## Main definitions

- `Forest` — nodes under numbers
- `Forest.append`, `Forest.insertBefore`, `Forest.detach` — moving a node
- `Forest.toNodes` — the markup tree below the document
-/

namespace KeyScript.Markup

/-- What a node is, apart from its place. -/
inductive Content where
  | document
  | element (tag : Tag)
  | text (data : Bytes)
  | comment (data : Bytes)
  | doctype (name publicId systemId : Bytes)
deriving DecidableEq, Repr, Inhabited

/-- A node with its parent and its children. -/
structure Entry where
  content : Content
  parent : Option Nat := none
  children : Array Nat := #[]
deriving DecidableEq, Repr, Inhabited

/-- Nodes under numbers. -/
structure Forest where
  entries : Array Entry := #[{ content := .document }]
deriving DecidableEq, Repr, Inhabited

namespace Forest

/-- The number of the document. -/
def document : Nat := 0

/-- What a node is. -/
def content (f : Forest) (n : Nat) : Content := (f.entries[n]?.map Entry.content).getD .document

/-- The tag of an element; that of any other node has no name. -/
def tag (f : Forest) (n : Nat) : Tag :=
  match f.content n with
  | .element tag => tag
  | _ => { name := [] }

/-- The parent of a node. -/
def parent? (f : Forest) (n : Nat) : Option Nat := f.entries[n]?.bind Entry.parent

/-- The children of a node. -/
def children (f : Forest) (n : Nat) : Array Nat := (f.entries[n]?.map Entry.children).getD #[]

/-- The sibling before a node. -/
def before? (f : Forest) (n : Nat) : Option Nat := do
  let siblings := f.children (← f.parent? n)
  let i ← siblings.findIdx? (· == n)
  if i = 0 then none else siblings[i - 1]?

/-- Changes a node. -/
def modify (f : Forest) (n : Nat) (change : Entry → Entry) : Forest :=
  { entries := f.entries.modify n change }

/-- The number that the next node gets. -/
def next (f : Forest) : Nat := f.entries.size

/-- Adds a node that is in no tree. -/
def add (f : Forest) (content : Content) : Forest := { entries := f.entries.push { content } }

/-- Makes a node the last child of another. -/
def append (f : Forest) (parent child : Nat) : Forest :=
  (f.modify parent fun e => { e with children := e.children.push child }).modify child
    fun e => { e with parent := some parent }

/-- Makes a node a child of another, before a given child of it, or the last child if there is
none. -/
def insertBefore (f : Forest) (parent child : Nat) (next : Option Nat) : Forest :=
  match next.bind fun n => (f.children parent).findIdx? (· == n) with
  | none => f.append parent child
  | some i =>
    let put := fun siblings : Array Nat => siblings.extract 0 i ++ #[child] ++ siblings.extract i
    (f.modify parent fun e => { e with children := put e.children }).modify child
      fun e => { e with parent := some parent }

/-- Takes a node out of its tree. -/
def detach (f : Forest) (child : Nat) : Forest :=
  match f.parent? child with
  | none => f
  | some parent =>
    (f.modify parent fun e => { e with children := e.children.filter (· != child) }).modify child
      fun e => { e with parent := none }

/-- Moves the children of a node to the end of the children of another. -/
def moveChildren (f : Forest) (source target : Nat) : Forest :=
  (f.children source).foldl (fun g child => (g.detach child).append target child) f

/-- Puts more bytes behind those of a text. -/
def extendText (f : Forest) (n : Nat) (data : Bytes) : Forest :=
  f.modify n fun e =>
    match e.content with
    | .text old => { e with content := .text (old ++ data) }
    | _ => e

/-- Whether a node is a text. -/
def isText (f : Forest) (n : Nat) : Bool := f.content n matches .text _

/-- Changes the tag of an element. -/
def changeTag (f : Forest) (n : Nat) (change : Tag → Tag) : Forest :=
  f.modify n fun e =>
    match e.content with
    | .element tag => { e with content := .element (change tag) }
    | _ => e

/-- The markup trees of some nodes, which are at most `fuel` levels deep. -/
def trees (f : Forest) : (fuel : Nat) → List Nat → List Node
  | 0, _ => []
  | fuel + 1, numbers => numbers.filterMap fun n =>
    match f.content n with
    | .document => none
    | .element tag => some (.element tag (f.trees fuel (f.children n).toList))
    | .text data => some (.text data)
    | .comment data => some (.comment data)
    | .doctype name publicId systemId => some (.doctype name publicId systemId)

/-- The markup tree below the document. -/
def toNodes (f : Forest) : List Node := f.trees f.entries.size (f.children document).toList

end Forest

end KeyScript.Markup
