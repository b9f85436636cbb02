import KeyScript.Markup.Select

/-!
# Selected elements as nodes

A selector is met by places, which know what stands around an element. Where it asks only for names,
identifiers and classes, what it selects can be said of the tree alone: elements with a name
anywhere in it, or the children of such elements.

## Main definitions

- `elementsIn` — the elements of a tree
- `Compound.named` — a compound that asks for a name and for conditions on the element alone
- `Compound.meets` — whether a node meets a compound by itself
- `Node.value?`, `Node.text?`, `Node.hasClass` — what can be seen of an element

## Main results

- `nodes_places` — the places of a tree are the elements of the tree
- `nodes_found` — what a single compound selects
- `nodes_found_child` — what a compound selects among the children of elements
-/

namespace KeyScript.Markup

mutual

/-- A node and the elements inside it, in the order of their start tags, if it is an element. -/
def Node.elements : Node → List Node
  | .element tag children => .element tag children :: elementsIn children
  | .text _ | .comment _ | .doctype .. => []

/-- The elements of a list of nodes and of all that is inside them. -/
def elementsIn : List Node → List Node
  | [] => []
  | node :: nodes => node.elements ++ elementsIn nodes

end

def Place.nodes (ps : List Place) : List Node := ps.filterMap Place.node?

/-- Conditions that look at nothing around the element. -/
def Condition.isLocal : Condition → Bool
  | isNumbered .. | isOnly _ => false
  | _ => true

/-- Asks for a name and for conditions, which stand at a place of the selector. -/
def Compound.named (place : Nat) (name : Bytes) (conditions : List Condition) : Compound :=
  { place, name := some { name := some name, place }, conditions }

/-- Whether a node meets a compound when it stands by itself. -/
def Compound.meets (c : Compound) : Node → Bool
  | .element tag children => c.holds { tag := some tag, children }
  | .text _ | .comment _ | .doctype .. => false

def Node.value? (key : Bytes) : Node → Option Bytes
  | .element tag _ => (tag.attributes.find? fun a => a.key == key).map Attribute.value
  | .text _ | .comment _ | .doctype .. => none

/-- The text of an element that holds nothing but a text. -/
def Node.text? : Node → Option Bytes
  | .element _ [] => some []
  | .element _ [.text data] => some data
  | _ => none

def Node.hasClass (name : Bytes) : Node → Bool
  | .element tag children => (Condition.hasClass name).holds { tag := some tag, children }
  | .text _ | .comment _ | .doctype .. => false

mutual

theorem nodes_placesIn (before after : List Node) :
    (node : Node) → Place.nodes (placesIn before after node) = node.elements
  | .element tag children => by
    have hchildren := nodes_places [] children
    simp only [Place.nodes] at hchildren
    simp [placesIn, Node.elements, Place.nodes, Place.node?, hchildren]
  | .text _ => by simp [placesIn, Node.elements, Place.nodes]
  | .comment _ => by simp [placesIn, Node.elements, Place.nodes]
  | .doctype .. => by simp [placesIn, Node.elements, Place.nodes]

/-- The places of a tree are the elements of the tree. -/
theorem nodes_places (before : List Node) :
    (nodes : List Node) → Place.nodes (places before nodes) = elementsIn nodes
  | [] => by simp [places, elementsIn, Place.nodes]
  | node :: nodes => by
    have hnode := nodes_placesIn before nodes node
    have hnodes := nodes_places (node :: before) nodes
    simp only [Place.nodes] at hnode hnodes
    simp [places, elementsIn, Place.nodes, hnode, hnodes]

end

section Named

variable {place : Nat} {name : Bytes} {conditions : List Condition}

theorem holds_named (p : Place) : (Compound.named place name conditions).holds p =
    ((p.tag.any fun tag => tag.name == name) && conditions.all (Condition.holds p)) := by
  simp [Compound.named, Compound.holds, QualifiedName.holds, QualifiedName.allows]

theorem Condition.holds_of_isLocal {c : Condition} (h : c.isLocal = true) (p : Place) :
    c.holds { tag := p.tag, children := p.children } = c.holds p := by
  cases c with
  | isNumbered => cases h
  | isOnly => cases h
  | _ => rfl

/-- At a place a compound says of the element what it says of the node by itself. -/
theorem meets_of_node? (h : conditions.all Condition.isLocal = true) {p : Place} {node : Node}
    (hnode : p.node? = some node) :
    (Compound.named place name conditions).meets node =
      (Compound.named place name conditions).holds p := by
  obtain ⟨tag, htag, rfl⟩ := Option.map_eq_some_iff.mp hnode
  have hconditions : conditions.all (Condition.holds { tag := some tag, children := p.children }) =
      conditions.all (Condition.holds p) := by
    rw [Bool.eq_iff_iff, List.all_eq_true, List.all_eq_true]
    refine forall₂_congr fun c hc => ?_
    rw [← htag, c.holds_of_isLocal (List.all_eq_true.mp h c hc) p]
  rw [Compound.meets, holds_named, holds_named, hconditions, htag]

/-- The elements among some places that meet a compound. -/
theorem nodes_filter (h : conditions.all Condition.isLocal = true) (ps : List Place) :
    Place.nodes (ps.filter (Compound.named place name conditions).holds) =
      (Place.nodes ps).filter (Compound.named place name conditions).meets := by
  simp only [Place.nodes]
  induction ps with
  | nil => rfl
  | cons p ps ih =>
    cases hnode : p.node? with
    | none =>
      -- A place without an element has no name.
      have htag : p.tag = none := Option.map_eq_none_iff.mp hnode
      have hholds : (Compound.named place name conditions).holds p = false := by
        rw [holds_named, htag]
        rfl
      rw [List.filter_cons, hholds, List.filterMap_cons, hnode]
      exact ih
    | some node =>
      rw [List.filter_cons, List.filterMap_cons, hnode, List.filter_cons, meets_of_node? h hnode]
      cases (Compound.named place name conditions).holds p with
      | true => simp [hnode, ih]
      | false => simpa using ih

/-- A single compound selects the elements anywhere in a tree that meet it. -/
theorem nodes_found (h : conditions.all Condition.isLocal = true) (document : List Node) :
    Place.nodes (select [⟨.named place name conditions, []⟩] document) =
      (elementsIn document).filter (Compound.named place name conditions).meets := by
  have hroot : Place.nodes ({ tag := none, children := document } : Place).all =
      elementsIn document := by
    rw [← nodes_places [] document]
    rfl
  rw [← hroot, ← nodes_filter h]
  simp [select, Complex.found]

theorem nodes_placesOf (h : conditions.all Condition.isLocal = true) (before nodes : List Node) :
    Place.nodes ((placesOf before nodes).filter (Compound.named place name conditions).holds) =
      nodes.filter (Compound.named place name conditions).meets := by
  rw [nodes_filter h]
  induction nodes generalizing before with
  | nil => rfl
  | cons node nodes ih =>
    cases node with
    | element tag children =>
      have hrest := ih (.element tag children :: before)
      simp only [Place.nodes] at hrest
      simp only [placesOf, Place.nodes, List.filterMap_cons, Place.node?, Option.map_some,
        List.filter_cons]
      rw [hrest]
    | text data => exact ih _
    | comment data => exact ih _
    | doctype name publicId systemId => exact ih _

theorem exists_node?_of_holds {p : Place}
    (h : (Compound.named place name conditions).holds p = true) : ∃ node, p.node? = some node := by
  rw [holds_named] at h
  cases htag : p.tag with
  | none => simp [htag] at h
  | some tag => exact ⟨.element tag p.children, by rw [Place.node?, htag, Option.map_some]⟩

/-- Behind a combinator for children, a compound selects the children that meet it of the elements
that the compound before it selects. -/
theorem nodes_found_child {place' : Nat} {name' : Bytes} {conditions' : List Condition}
    (h : conditions.all Condition.isLocal = true) (document : List Node) :
    let first : Compound := .named place' name' conditions'
    Place.nodes (select [⟨first, [(.child, .named place name conditions)]⟩] document) =
      (Place.nodes (select [⟨first, []⟩] document)).flatMap fun node =>
        node.children.filter (Compound.named place name conditions).meets := by
  intro first
  have hselect : ∀ rest, select [⟨first, rest⟩] document =
      Complex.found ⟨first, rest⟩ { tag := none, children := document } := fun rest => by
    simp [select]
  rw [hselect, hselect]
  simp only [Complex.found, List.foldl_cons, List.foldl_nil, Combinator.reach]
  -- Each place that meets the first compound adds its own children, so the places go one by one.
  induction ({ tag := none, children := document } : Place).all with
  | nil => rfl
  | cons p ps ih =>
    rw [List.filter_cons]
    split
    · next hholds =>
      obtain ⟨node, hnode⟩ := exists_node?_of_holds hholds
      have hchildren : node.children = p.children := by
        obtain ⟨tag, -, rfl⟩ := Option.map_eq_some_iff.mp hnode
        rfl
      simp only [Place.nodes] at ih ⊢
      rw [List.flatMap_cons, List.filterMap_append, ih, List.filterMap_cons, hnode,
        List.flatMap_cons, hchildren]
      exact congrArg (· ++ _) (nodes_placesOf h [] p.children)
    · exact ih

end Named

section Pages

variable {place : Nat} {name name' : Bytes} {conditions : List Condition}
  {attributes : List Attribute} {children nodes : List Node}

theorem elementsIn_nil : elementsIn [] = [] := by
  rw [elementsIn]

theorem elementsIn_doctype_cons (name publicId systemId : Bytes) :
    elementsIn (.doctype name publicId systemId :: nodes) = elementsIn nodes := by
  simp [elementsIn, Node.elements]

theorem elementsIn_text_cons (data : Bytes) :
    elementsIn (.text data :: nodes) = elementsIn nodes := by
  simp [elementsIn, Node.elements]

theorem elementsIn_page_cons : elementsIn (.page name attributes children :: nodes) =
    .page name attributes children :: elementsIn children ++ elementsIn nodes := by
  simp [Node.page, elementsIn, Node.elements]

theorem elementsIn_withText_cons (data : Bytes) :
    elementsIn (.withText name attributes data :: nodes) =
      .withText name attributes data :: elementsIn nodes := by
  rw [Node.withText, elementsIn_page_cons]
  split <;> simp [elementsIn, Node.elements]

theorem meets_page_of_ne (h : (name' == name) = false) :
    (Compound.named place name conditions).meets (.page name' attributes children) = false := by
  simp [Compound.meets, Node.page, holds_named, h]

theorem filter_elementsIn_page_cons (q : Node → Bool) :
    (elementsIn (.page name attributes children :: nodes)).filter q =
      [Node.page name attributes children].filter q ++
        ((elementsIn children).filter q ++ (elementsIn nodes).filter q) := by
  rw [elementsIn_page_cons, ← List.filter_append, ← List.filter_append]
  rfl

/-- An element that does not meet a compound is left out, but not what is inside it. -/
theorem filter_elementsIn_page_of_ne (h : (name' == name) = false) :
    (elementsIn (.page name' attributes children :: nodes)).filter
        (Compound.named place name conditions).meets =
      (elementsIn children).filter (Compound.named place name conditions).meets ++
        (elementsIn nodes).filter (Compound.named place name conditions).meets := by
  rw [filter_elementsIn_page_cons, List.filter_cons, meets_page_of_ne h]
  rfl

theorem filter_elementsIn_withText_of_ne (h : (name' == name) = false) (data : Bytes) :
    (elementsIn (.withText name' attributes data :: nodes)).filter
        (Compound.named place name conditions).meets =
      (elementsIn nodes).filter (Compound.named place name conditions).meets := by
  rw [elementsIn_withText_cons, List.filter_cons, Node.withText, meets_page_of_ne h,
    if_neg Bool.false_ne_true]

theorem meets_page_self :
    (Compound.named place name []).meets (.page name attributes children) = true := by
  simp [Compound.meets, Node.page, holds_named]

theorem meets_page_class (name' : Bytes) :
    (Compound.named place name [.hasClass name']).meets (.page name attributes children) =
      (Node.page name attributes children).hasClass name' := by
  simp [Compound.meets, Node.page, Node.hasClass, holds_named]

theorem hasClass_page (name' : Bytes) :
    (Node.page name attributes children).hasClass name' =
      attributes.any fun a => a.key == "class" && (a.value.words isSpace).contains name' :=
  rfl

theorem text?_withText (data : Bytes) :
    (Node.withText name attributes data).text? = some data := by
  rw [Node.withText]
  split
  · next h => rw [h]; rfl
  · rfl

theorem meets_page_id (id value : Bytes) :
    (Compound.named place name [.hasId id]).meets (.page name [attr "id" value] children) =
      (value == id) := by
  simp [Compound.meets, Node.page, holds_named, Condition.holds, Place.attributes, attr]

end Pages

end KeyScript.Markup
