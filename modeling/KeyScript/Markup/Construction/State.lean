import KeyScript.Markup.Forest
import KeyScript.Markup.Token

/-!
# The state of a construction

A document is built token by token. What a token does depends on the mode of the construction, on
the elements that are open, and on the formatting elements that are to be opened again where the
text goes on. A rule says what to do with the current token; it answers whether the token is used
up, or is to be looked at again.

## Main definitions

- `Mode` — the part of a document that is read
- `Construction` — the document so far
- `Build`, `Rule` — steps of a construction, without and with tokens that are supplied
-/

namespace KeyScript.Markup

/-- Why a text cannot be read as a tree. -/
inductive TreeError where
  /-- Too many elements are open. -/
  | tooDeep
deriving DecidableEq, Repr, Inhabited

/-- The most elements that may be open at a time. -/
def maxOpenElements : Nat := 512

/-- The wording of an error. -/
def TreeError.message : TreeError → Bytes
  | tooDeep => "html: open stack of elements exceeds 512 nodes"

/-- The part of a document that is read. -/
inductive Mode where
  | initial
  | beforeRoot
  | beforeHead
  | inHead
  | afterHead
  | inBody
  /-- Inside an element whose content is not markup. -/
  | inText
  | inTable
  | inCaption
  | inColumns
  | inRows
  | inRow
  | inCell
  | inSelect
  | inSelectInTable
  | inTemplate
  | afterBody
  | inFrames
  | afterFrames
  | afterRoot
  | afterFramesRoot
  /-- Whatever follows is passed over. -/
  | ignoring
deriving DecidableEq, Repr, Inhabited

/-- The document so far. -/
structure Construction where
  scanner : Scanner
  mode : Mode := .initial
  /-- The mode behind an element whose content is not markup. -/
  returnMode : Mode := .inBody
  /-- The token that is looked at. -/
  token : Token := .finish
  /-- The open elements, innermost first. -/
  openElements : List Nat := []
  /-- The formatting elements to be opened again, latest first. They are not opened again behind a
  border, which is written as nothing. -/
  formatting : List (Option Nat) := []
  head : Option Nat := none
  /-- The form that is not finished. -/
  form : Option Nat := none
  /-- Whether frames may still take the place of the body. -/
  allowsFrames : Bool := true
  /-- The modes of the open templates, innermost first. -/
  templateModes : List Mode := []
  /-- Whether nodes that cannot stand in a table go before it. -/
  fosters : Bool := false
  /-- Whether the document type is an old one or missing. -/
  isLegacy : Bool := false
  forest : Forest := {}
deriving Repr, Inhabited

/-- A step of a construction. -/
abbrev Build := StateT Construction (Except TreeError)

/-- A step that may supply tokens; it is given the step that uses up the current token. -/
abbrev Rule := ReaderT (Build Unit) Build

namespace Construction

/-- The innermost open element, or the document. -/
def current (s : Construction) : Nat := s.openElements.head?.getD Forest.document

/-- The tag of the innermost open element. -/
def currentTag (s : Construction) : Tag := s.forest.tag s.current

/-- The tags of the open elements, innermost first. -/
def openTags (s : Construction) : List Tag := s.openElements.map s.forest.tag

end Construction

/-- Whether the name of an element is one of some names. -/
def Tag.isNamed (tag : Tag) (names : List Bytes) : Bool := names.contains tag.name

/-- Whether an element is one of some elements of pages. -/
def Tag.isPage (tag : Tag) (names : List Bytes) : Bool := tag.space == .page && tag.isNamed names

/-- Whether the innermost open element has one of some names. -/
def isCurrent (names : List Bytes) : Build Bool := return (← get).currentTag.isNamed names

/-- Whether a template is open. -/
def hasTemplate : Build Bool := return (← get).openTags.any (·.isPage ["template"])

/-- Goes on in another mode. -/
def enter (mode : Mode) : Build Unit := modify fun s => { s with mode }

/-- From here on frames cannot take the place of the body. -/
def forbidFrames : Build Unit := modify fun s => { s with allowsFrames := false }

/-- Replaces the current token. -/
def setToken (token : Token) : Build Unit := modify fun s => { s with token }

/-- Reads the content of an element as markup after all. -/
def readAsMarkup : Build Unit :=
  modify fun s => { s with scanner := { s.scanner with content := [] } }

/-- Closes the innermost open element. -/
def closeCurrent : Build Unit := modify fun s => { s with openElements := s.openElements.tail }

/-- Opens an element. -/
def openElement (n : Nat) : Build Unit := do
  modify fun s => { s with openElements := n :: s.openElements }
  if (← get).openElements.length > maxOpenElements then throw .tooDeep

/-- Uses up a token that is supplied, and returns to the current one. -/
def supply (token : Token) : Rule Unit := do
  let saved := (← get).token
  setToken token
  (← read)
  setToken saved

/-- Supplies a start tag. -/
def supplyStart (name : Bytes) : Rule Unit := supply (.startTag name [] false)

/-- Supplies an end tag. -/
def supplyEnd (name : Bytes) : Rule Unit := supply (.endTag name)

end KeyScript.Markup
