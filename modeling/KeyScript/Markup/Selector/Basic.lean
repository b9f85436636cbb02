import KeyScript.Markup.Name
import KeyScript.Markup.Selector.Progression

/-!
# Selectors

A selector describes elements of a tree: by name, identifier, class and attributes, by their place
among their siblings, and by how they stand to other elements. A selector that makes no sense is
refused with the place of its first fault; faults of form are found before names and features that
are unknown.

## Main definitions

- `Condition`, `Compound` — conditions on one element
- `Complex` — compounds joined by combinators
- `SelectorError` — a fault and its place
- `Complex.fault?` — the first name or feature that is unknown
-/

namespace KeyScript.Markup

/-- What is wrong with a selector. -/
inductive SelectorFault where
  | expectedMatcher
  | expectedIdentifier
  | expectedFunction
  | expectedCompound
  | expectedEnd
  | expectedValue
  | expectedEquals
  | expectedBracket
  | unmatched (kind : TokenKind)
  | badToken (fault : TokenFault)
  | unsupportedPseudo (name : Bytes)
  | unsupportedPart
  | unsupportedCombinator
  | unknownName (name : Bytes)
  | badProgression (fault : Progression.Fault)
deriving DecidableEq, Repr, Inhabited

/-- A fault and its place, counted in bytes. -/
structure SelectorError where
  fault : SelectorFault
  place : Nat
deriving DecidableEq, Repr, Inhabited

/-- The wording of a fault. -/
def SelectorFault.message : SelectorFault → Bytes
  | expectedMatcher => "expected '~', '|', '^', '$', '*' or '='"
  | expectedIdentifier => "expected identifier"
  | expectedFunction => "expected identifier or function"
  | expectedCompound => "expected identifier, '#', '*', '.', '|', '[', ':'"
  | expectedEnd => "expected ',' or EOF"
  | expectedValue => "expected identifier or string"
  | expectedEquals => "expected '='"
  | expectedBracket => "expected ']'"
  | unmatched kind => "unexpected eof attempting to match '" ++ kind.title ++ "'"
  | badToken fault => fault.message
  | unsupportedPseudo name => "unsupported pseudo-class selector: " ++ name
  | unsupportedPart => "pseudo element selectors not supported"
  | unsupportedCombinator => "unexpected combinator: ||"
  | unknownName name => "unrecognized node name: " ++ name
  | badProgression fault => "failed to parse <an+b> expression: " ++ fault.message

/-- The wording of an error. -/
def SelectorError.message (e : SelectorError) : Bytes :=
  "css: " ++ e.fault.message ++ " at position " ++ Numeral.ofNat e.place

/-- How the value of an attribute is compared. -/
inductive AttributeTest where
  | present
  | equals (value : Bytes)
  | hasWord (value : Bytes)
  | equalsOrDash (value : Bytes)
  | startsWith (value : Bytes)
  | endsWith (value : Bytes)
  | contains (value : Bytes)
deriving DecidableEq, Repr, Inhabited

/-- A name with what is in front of it: nothing if it may belong to any language, and otherwise the
label of its language, which is empty for that of pages. -/
structure QualifiedName where
  label : Option Bytes := none
  /-- The name, or nothing if any name will do. -/
  name : Option Bytes
  place : Nat
deriving DecidableEq, Repr, Inhabited

/-- The siblings among which an element is counted, and the end that is counted from. -/
structure Counting where
  ofType : Bool := false
  fromEnd : Bool := false
deriving DecidableEq, Repr, Inhabited

/-- A condition on an element. -/
inductive Condition where
  | hasId (name : Bytes)
  | hasClass (name : Bytes)
  | hasAttribute (key : QualifiedName) (test : AttributeTest) (ignoresCase : Bool)
  /-- The element holds no elements. -/
  | isEmpty
  | isRoot
  /-- The number of the element among its siblings is in a progression. -/
  | isNumbered (counting : Counting) (numbers : Progression)
  /-- The element has no siblings that count. -/
  | isOnly (ofType : Bool)
  /-- A condition that makes no sense. -/
  | faulty (error : SelectorError)
deriving DecidableEq, Repr, Inhabited

/-- Conditions on one element. -/
structure Compound where
  place : Nat
  /-- The name of the element, if there is one. -/
  name : Option QualifiedName := none
  conditions : List Condition := []
  /-- Whether a part of an element is meant that is not an element. -/
  hasPart : Bool := false
deriving DecidableEq, Repr, Inhabited

/-- How the elements on the right of a combinator stand to those on its left. -/
inductive Combinator where
  | descendant
  | child
  | adjacent
  | sibling
  | column
deriving DecidableEq, Repr, Inhabited

/-- A compound, and the compounds on its right with the combinators that lead to them. -/
structure Complex where
  first : Compound
  rest : List (Combinator × Compound) := []
deriving DecidableEq, Repr, Inhabited

/-- The fault of a condition that makes no sense. -/
def Condition.fault? : Condition → Option SelectorError
  | faulty e => some e
  | _ => none

/-- The fault of a name that is unknown. -/
def QualifiedName.fault? (q : QualifiedName) : Option SelectorError :=
  (q.name.filter fun name => !isKnownName name).map fun name => ⟨.unknownName name, q.place⟩

/-- The first name or feature of a compound that is unknown. -/
def Compound.fault? (c : Compound) : Option SelectorError :=
  match c.name.bind QualifiedName.fault? with
  | some e => some e
  | none =>
    match c.conditions.findSome? Condition.fault? with
    | some e => some e
    | none => if c.hasPart then some ⟨.unsupportedPart, c.place⟩ else none

/-- The first name or feature of a selector that is unknown. -/
def Complex.fault? (s : Complex) : Option SelectorError :=
  match s.first.fault? with
  | some e => some e
  | none => s.rest.findSome? fun (k, c) =>
      match c.fault? with
      | some e => some e
      | none => if k = .column then some ⟨.unsupportedCombinator, c.place⟩ else none

end KeyScript.Markup
