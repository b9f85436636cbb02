import KeyScript.Text.Bytes

/-!
# Markup trees and their text

A markup tree is a list of nodes: elements with attributes and children, texts, comments and a
document type. Its text form escapes every character that could be taken for markup, except in
elements whose content is literal.

## Main definitions

- `Tag` — the name and the attributes of an element
- `Node` — a node of a markup tree
- `escapeText` — text and attribute values
- `Node.render`, `renderNodes` — the text form
-/

namespace KeyScript.Markup

/-- The language that an element belongs to: that of pages, or one of the two that may be embedded
in them for pictures and for formulas. -/
inductive Space where
  | page
  | picture
  | formula
deriving DecidableEq, Repr, Inhabited

/-- An attribute: its name and its value, and the prefix that stands before its name, if there is
one. -/
structure Attribute where
  key : Bytes
  value : Bytes
  label : Bytes := []
deriving DecidableEq, Repr, Inhabited

/-- The name and the attributes of an element. -/
structure Tag where
  name : Bytes
  attributes : List Attribute := []
  space : Space := .page
deriving DecidableEq, Repr, Inhabited

/-- A node of a markup tree. -/
inductive Node where
  | element (tag : Tag) (children : List Node)
  | text (data : Bytes)
  | comment (data : Bytes)
  /-- A document type with its public and system identifiers; one that is missing is empty. -/
  | doctype (name : Bytes) (publicId systemId : Bytes)
deriving Repr, Inhabited

/-- One byte of text or of an attribute value. -/
def escapeByte (b : UInt8) : Bytes :=
  if b = 38 then "&amp;"
  else if b = 39 then "&#39;"
  else if b = 60 then "&lt;"
  else if b = 62 then "&gt;"
  else if b = 34 then "&#34;"
  else if b = 13 then "&#13;"
  else [b]

/-- Text in which nothing can be taken for markup. -/
def escapeText (s : Bytes) : Bytes := s.flatMap escapeByte

/-- The elements that have no content and no end tag. -/
def voidElements : List Bytes :=
  ["area", "base", "br", "col", "embed", "hr", "img", "input", "keygen", "link", "meta", "param",
   "source", "track", "wbr"]

/-- The elements whose texts are written without escapes. -/
def literalElements : List Bytes :=
  ["iframe", "noembed", "noframes", "noscript", "plaintext", "script", "style", "xmp"]

/-- The elements that drop a newline right after their start tag when they are read. -/
def newlineElements : List Bytes := ["pre", "listing", "textarea"]

/-- The name of an attribute with its prefix. -/
def Attribute.name (a : Attribute) : Bytes :=
  if a.label = [] then a.key else a.label ++ ":" ++ a.key

/-- The text form of an attribute. -/
def Attribute.render (a : Attribute) : Bytes :=
  " " ++ a.name ++ "=\"" ++ escapeText a.value ++ "\""

/-- The text form of a tag up to the end of its attributes. -/
def Tag.render (tag : Tag) : Bytes := "<" ++ tag.name ++ tag.attributes.flatMap Attribute.render

/-- The text form of an end tag. -/
def Tag.renderEnd (tag : Tag) : Bytes := "</" ++ tag.name ++ ">"

/-- Whether the texts of an element are written without escapes. -/
def Tag.isLiteral (tag : Tag) : Bool := tag.space == .page && literalElements.contains tag.name

/-- Whether an element has no content and no end tag. -/
def Tag.isVoid (tag : Tag) : Bool := voidElements.contains tag.name

/-- Whether nothing can follow the content of an element, because the rest of any text would be
taken for it. -/
def Tag.isLast (tag : Tag) : Bool := tag.space == .page && tag.name == "plaintext"

/-- One more newline for an element that drops the first newline of its text. -/
def guardNewline (name : Bytes) (children : List Node) : Bytes :=
  match children with
  | .text data :: _ => if newlineElements.contains name && data.startsWith "\n" then "\n" else []
  | _ => []

/-- A comment in which nothing can be taken for its end, behind the byte `before` of the comment. A
closing bracket is escaped at the start, behind a hyphen and behind an exclamation mark. -/
def escapeComment (before : Option UInt8) : Bytes → Bytes
  | [] => []
  | b :: s =>
    let shown : Bytes :=
      if b = 38 then "&amp;"
      else if b = 62 && (before.all fun c => c == 33 || c == 45) then "&gt;"
      else [b]
    shown ++ escapeComment (some b) s

/-- An identifier of a document type in the quotes that it does not hold. -/
def quoteIdentifier (s : Bytes) : Bytes :=
  if s.contains 34 then "'" ++ s ++ "'" else "\"" ++ s ++ "\""

/-- The text form of a document type. -/
def renderDoctype (name publicId systemId : Bytes) : Bytes :=
  let system : Bytes := if systemId = [] then [] else " " ++ quoteIdentifier systemId
  "<!DOCTYPE " ++ escapeText name ++
    (if publicId ≠ [] then " PUBLIC " ++ quoteIdentifier publicId ++ system
     else if systemId ≠ [] then " SYSTEM" ++ system
     else []) ++ ">"

mutual

/-- Whether the text form ends inside a node: in an element that nothing can follow, or in one that
has children but must not have any. -/
def Node.endsText : Node → Bool
  | .element tag children =>
    if tag.isVoid then !children.isEmpty else tag.isLast || endText children
  | _ => false

/-- Whether the text form ends inside one of some nodes. -/
def endText : List Node → Bool
  | [] => false
  | node :: nodes => node.endsText || endText nodes

end

mutual

/-- The text form of a node inside an element whose content is `literal` or not. -/
def Node.render (literal : Bool) : Node → Bytes
  | .text data => if literal then data else escapeText data
  | .comment data => "<!--" ++ escapeComment none data ++ "-->"
  | .doctype name publicId systemId => renderDoctype name publicId systemId
  | .element tag children =>
    if tag.isVoid then tag.render ++ (if children.isEmpty then ("/>" : Bytes) else [])
    else
      tag.render ++ ">" ++ guardNewline tag.name children ++
        renderNodes tag.isLiteral children ++
        if tag.isLast || endText children then [] else tag.renderEnd

/-- The text form of nodes one after the other. -/
def renderNodes (literal : Bool) : List Node → Bytes
  | [] => []
  | node :: nodes =>
    node.render literal ++ if node.endsText then [] else renderNodes literal nodes

end

/-- The children of a node. -/
def Node.children : Node → List Node
  | .element _ children => children
  | _ => []

/-- The text form of some nodes, each as if it stood by itself. -/
def innerText (nodes : List Node) : Bytes := nodes.flatMap (Node.render false)

/-- An attribute without a prefix. -/
def attr (key value : Bytes) : Attribute := { key, value }

/-- An element of a page. -/
def Node.page (name : Bytes) (attributes : List Attribute) (children : List Node) : Node :=
  .element { name, attributes } children

/-- An element of a page that holds a text, or nothing if the text is empty. -/
def Node.withText (name : Bytes) (attributes : List Attribute) (data : Bytes) : Node :=
  .page name attributes (if data = [] then [] else [.text data])

end KeyScript.Markup
