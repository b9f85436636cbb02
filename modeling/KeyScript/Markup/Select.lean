import KeyScript.Markup.Node
import KeyScript.Markup.Selector.Basic
import KeyScript.Text.Case
import KeyScript.Text.Words

/-!
# Selecting elements

The elements of a tree that a selector describes. An element is looked at in its place, which knows
its siblings; the document is a place as well. The compounds of a selector are met from left to
right, so that a place is found as often as there are ways to it, and a list of selectors finds the
places of its first selector before those of the second.

## Main definitions

- `Place` — an element or the document in its surroundings
- `Place.all`, `Place.siblings` — the places that can be reached from a place
- `Compound.holds` — whether a place meets a compound
- `select` — the places that a list of selectors describes
-/

namespace KeyScript.Markup

/-- An element in its surroundings: the nodes before it, nearest first, and the nodes behind it. The
document has no tag. -/
structure Place where
  tag : Option Tag
  children : List Node
  before : List Node := []
  after : List Node := []
deriving Inhabited

mutual

/-- The places of an element and of all elements in it. -/
def placesIn (before after : List Node) : Node → List Place
  | .element tag children => { tag := some tag, children, before, after } :: places [] children
  | _ => []

/-- The places of all elements of a list of nodes, given the nodes before it. -/
def places (before : List Node) : List Node → List Place
  | [] => []
  | node :: after => placesIn before after node ++ places (node :: before) after

end

/-- The places of the elements that are in a list of nodes themselves, given the nodes before it. -/
def placesOf (before : List Node) : List Node → List Place
  | [] => []
  | .element tag children :: after =>
    { tag := some tag, children, before, after } :: placesOf (.element tag children :: before) after
  | node :: after => placesOf (node :: before) after

/-- The places of the elements of a list of nodes from its end on, given the nodes behind it, where
the list is written from its end on as well. -/
def placesBack (after : List Node) : List Node → List Place
  | [] => []
  | .element tag children :: before =>
    { tag := some tag, children, before, after } ::
      placesBack (.element tag children :: after) before
  | node :: before => placesBack (node :: after) before

namespace Place

/-- A place and the places of all elements in it. -/
def all (p : Place) : List Place := p :: places [] p.children

/-- The node at a place. -/
def node? (p : Place) : Option Node := p.tag.map fun tag => .element tag p.children

/-- The places of the elements before an element, nearest first. -/
def earlier (p : Place) : List Place := placesBack (p.node?.toList ++ p.after) p.before

/-- The places of the elements behind an element. -/
def later (p : Place) : List Place := placesOf (p.node?.toList ++ p.before) p.after

/-- The places of the siblings of an element: those before it, nearest first, and those behind
it. -/
def siblings (p : Place) : List Place := p.earlier ++ p.later

/-- The name of the element. -/
def name (p : Place) : Bytes := (p.tag.map Tag.name).getD []

/-- The attributes of the element. -/
def attributes (p : Place) : List Attribute := (p.tag.map Tag.attributes).getD []

/-- Whether the elements at two places are of the same type. Names that are not known are not told
apart. -/
def isSameType (p q : Place) : Bool :=
  p.name == q.name || (!isKnownName p.name && !isKnownName q.name)

/-- The siblings at one end that count. -/
def counted (p : Place) (c : Counting) : List Place :=
  (if c.fromEnd then p.later else p.earlier).filter fun q => !c.ofType || p.isSameType q

end Place

/-- The label of a language. -/
def Space.label : Space → Bytes
  | page => []
  | picture => "svg"
  | formula => "math"

/-- Whether a name has a given label. -/
def QualifiedName.allows (q : QualifiedName) (label : Bytes) : Bool := q.label.all (· == label)

/-- Whether the value of an attribute passes a test. -/
def AttributeTest.holds (value : Bytes) : AttributeTest → Bool
  | present => true
  | equals v => value == v
  | hasWord v => (value.words isSpace).contains v
  | equalsOrDash v => value == v || value.startsWith (v ++ "-")
  | startsWith v => Bytes.startsWith value v
  | endsWith v => v.isSuffixOf value
  | contains v => v.isInfixOf value

/-- A test with its value in small letters. -/
def AttributeTest.lower : AttributeTest → AttributeTest
  | present => present
  | equals v => equals v.lower
  | hasWord v => hasWord v.lower
  | equalsOrDash v => equalsOrDash v.lower
  | startsWith v => startsWith v.lower
  | endsWith v => endsWith v.lower
  | contains v => contains v.lower

/-- Whether an element meets a condition. -/
def Condition.holds (p : Place) : Condition → Bool
  | hasId name => p.attributes.any fun a => a.key == "id" && a.value == name
  | hasClass name =>
    p.attributes.any fun a => a.key == "class" && (a.value.words isSpace).contains name
  | hasAttribute key test ignoresCase =>
    p.attributes.any fun a =>
      key.allows a.label && some a.key == key.name &&
        if ignoresCase then test.lower.holds a.value.lower else test.holds a.value
  | isEmpty => (placesOf [] p.children).isEmpty
  | isRoot => p.tag.isNone
  | isNumbered counting numbers => numbers.has ((p.counted counting).length + 1)
  | isOnly ofType =>
    (p.counted { ofType }).isEmpty && (p.counted { ofType, fromEnd := true }).isEmpty
  | faulty _ => false

/-- Whether a place has a name. The document has none, but meets a condition on any name. -/
def QualifiedName.holds (q : QualifiedName) (p : Place) : Bool :=
  q.allows ((p.tag.map fun tag => tag.space.label).getD []) &&
    q.name.all fun name => p.tag.any (·.name == name)

/-- Whether a place meets a compound. -/
def Compound.holds (c : Compound) (p : Place) : Bool :=
  c.name.all (·.holds p) && c.conditions.all (Condition.holds p)

/-- The places that a combinator leads to from a place. -/
def Combinator.reach (p : Place) : Combinator → List Place
  | descendant => places [] p.children
  | child => placesOf [] p.children
  | adjacent => p.earlier.take 1 ++ p.later.take 1
  | sibling => p.siblings
  | column => []

/-- The places that a selector describes, from some place on. -/
def Complex.found (s : Complex) (root : Place) : List Place :=
  s.rest.foldl (fun found (k, c) => found.flatMap fun p => (k.reach p).filter c.holds)
    (root.all.filter s.first.holds)

/-- The places in a document that a list of selectors describes. -/
def select (selectors : List Complex) (document : List Node) : List Place :=
  selectors.flatMap fun s => s.found { tag := none, children := document }

end KeyScript.Markup
