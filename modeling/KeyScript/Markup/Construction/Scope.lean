import KeyScript.Markup.Construction.State

/-!
# Scopes of open elements

Whether an end tag closes an element depends on the elements that are open inside it: the search
for the element, from the innermost open element on, stops at certain other elements.

## Main definitions

- `Scope` — where a search stops
- `isInScope`, `closeThrough` — looking for an open element, and closing it with all inside it
- `closeImplied` — closes the elements whose end tags may be left out
- `Tag.isSpecial` — elements that an end tag with another name does not close
- `resetMode` — the mode that the open elements call for
-/

namespace KeyScript.Markup

/-- Where the search for an open element stops. -/
inductive Scope where
  | general
  | listItem
  | button
  | table
  | select
deriving DecidableEq, Repr, Inhabited

/-- The elements that stop a search in most scopes. -/
def generalBorder : Space → List Bytes
  | .page => ["applet", "caption", "html", "table", "td", "th", "marquee", "object", "template"]
  | .formula => ["annotation-xml", "mi", "mn", "mo", "ms", "mtext"]
  | .picture => ["desc", "foreignObject", "title"]

/-- Whether a search stops at an element. -/
def Scope.stopsAt (scope : Scope) (tag : Tag) : Bool :=
  match scope with
  | general => tag.isNamed (generalBorder tag.space)
  | listItem => tag.isPage ["ol", "ul"] || tag.isNamed (generalBorder tag.space)
  | button => tag.isPage ["button"] || tag.isNamed (generalBorder tag.space)
  | table => tag.isPage ["html", "table", "template"]
  | select => tag.space == .page && !tag.isNamed ["optgroup", "option"]

/-- The first of some open elements that has one of some names, and the elements outside it. -/
def Scope.find? (scope : Scope) (f : Forest) (names : List Bytes) :
    List Nat → Option (Nat × List Nat)
  | [] => none
  | n :: outer =>
    let tag := f.tag n
    if tag.isPage names then some (n, outer)
    else if scope.stopsAt tag then none
    else scope.find? f names outer

/-- The open element in a scope that has one of some names. -/
def findInScope (scope : Scope) (names : List Bytes) : Build (Option Nat) := do
  let s ← get
  return (scope.find? s.forest names s.openElements).map Prod.fst

/-- Whether an element with one of some names is open in a scope. -/
def isInScope (scope : Scope) (names : List Bytes) : Build Bool :=
  return (← findInScope scope names).isSome

/-- Closes the open element in a scope that has one of some names, and all inside it; answers
whether there is one. -/
def closeThrough (scope : Scope) (names : List Bytes) : Build Bool := do
  let s ← get
  match scope.find? s.forest names s.openElements with
  | none => return false
  | some (_, outer) =>
    set { s with openElements := outer }
    return true

/-- Closes the paragraph that is open, if there is one. -/
def closeParagraph : Build Unit := discard (closeThrough .button ["p"])

/-- Closes all elements inside the innermost one that has one of some names. -/
def closeUpTo (names : List Bytes) : Build Unit :=
  modify fun s =>
    match s.openElements.dropWhile fun n => !(s.forest.tag n).isNamed names with
    | [] => s
    | kept => { s with openElements := kept }

/-- Closes all elements that cannot stand between a table and its parts. -/
def closeUpToTable : Build Unit := closeUpTo ["html", "table", "template"]

/-- Closes all elements that cannot stand between rows and their cells. -/
def closeUpToRow : Build Unit := closeUpTo ["html", "tr", "template"]

/-- Closes all elements that cannot stand between a part of a table and its rows. -/
def closeUpToRows : Build Unit := closeUpTo ["html", "tbody", "tfoot", "thead", "template"]

/-- The elements whose end tags may be left out. -/
def impliedElements : List Bytes :=
  ["dd", "dt", "li", "optgroup", "option", "p", "rb", "rp", "rt", "rtc"]

/-- Closes the elements whose end tags may be left out, except those with some names. -/
def closeImplied (except : List Bytes) : Build Unit :=
  modify fun s =>
    let isImplied := fun n =>
      let tag := s.forest.tag n
      tag.isNamed impliedElements && !tag.isNamed except
    { s with openElements := s.openElements.dropWhile isImplied }

/-- The elements of pages that an end tag with another name does not close. -/
def specialElements : List Bytes :=
  (["address", "applet", "area", "article", "aside", "base", "basefont", "bgsound", "blockquote",
   "body", "br", "button", "caption", "center", "col", "colgroup", "dd", "details", "dir", "div",
   "dl", "dt", "embed", "fieldset", "figcaption", "figure", "footer", "form", "frame", "frameset",
   "h1", "h2", "h3", "h4", "h5", "h6", "head", "header", "hgroup", "hr", "html", "iframe", "img",
   "input", "keygen", "li", "link", "listing", "main", "marquee", "menu", "meta", "nav", "noembed",
   "noframes", "noscript", "object", "ol", "p", "param", "plaintext", "pre", "script",
   "section", "select", "source", "style", "summary", "table", "tbody", "td", "template",
   "textarea", "tfoot", "th", "thead", "title", "tr", "track", "ul", "wbr", "xmp"] :
    List String).map Bytes.ofString

/-- Whether an end tag with another name does not close an element. -/
def Tag.isSpecial (tag : Tag) : Bool :=
  match tag.space with
  | .page => tag.isNamed specialElements
  | .formula => tag.isNamed ["annotation-xml", "mi", "mn", "mo", "ms", "mtext"]
  | .picture => tag.isNamed ["desc", "foreignObject", "title"]

/-- The mode in a selection box, given the elements outside it. -/
def selectMode (f : Forest) : List Nat → Mode
  | [] => .inSelect
  | n :: outer =>
    if (f.tag n).isNamed ["template"] then .inSelect
    else if (f.tag n).isNamed ["table"] then .inSelectInTable
    else selectMode f outer

/-- The mode that the innermost open element calls for, given the elements outside it; nothing if it
calls for none. -/
def Construction.modeOf? (s : Construction) (tag : Tag) (outer : List Nat) : Option Mode :=
  if tag.isNamed ["select"] then some (selectMode s.forest outer)
  else if tag.isNamed ["td", "th"] then some .inCell
  else if tag.isNamed ["tr"] then some .inRow
  else if tag.isNamed ["tbody", "thead", "tfoot"] then some .inRows
  else if tag.isNamed ["caption"] then some .inCaption
  else if tag.isNamed ["colgroup"] then some .inColumns
  else if tag.isNamed ["table"] then some .inTable
  else if tag.isNamed ["template"] then if tag.space == .page then s.templateModes.head? else none
  else if tag.isNamed ["head"] then some .inHead
  else if tag.isNamed ["body"] then some .inBody
  else if tag.isNamed ["frameset"] then some .inFrames
  else if tag.isNamed ["html"] then some (if s.head.isNone then .beforeHead else .afterHead)
  else if outer.isEmpty then some .inBody
  else none

/-- The mode that some open elements call for. -/
def Construction.modeFor (s : Construction) : List Nat → Mode
  | [] => s.mode
  | n :: outer => (s.modeOf? (s.forest.tag n) outer).getD (s.modeFor outer)

/-- Goes on in the mode that the open elements call for. -/
def resetMode : Build Unit := modify fun s => { s with mode := s.modeFor s.openElements }

end KeyScript.Markup
