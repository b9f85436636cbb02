import KeyScript.Markup.Construction.Insertion
import KeyScript.Markup.Doctype

/-!
# The beginning of a document

A document begins with its type, the root and the head. Tags of the root and the head that are
missing are supplied.

## Main definitions

- `initialRule`, `beforeRootRule`, `beforeHeadRule` — up to the head
- `headRule` — in the head, and for elements of the head anywhere
- `afterHeadRule` — between head and body
- `textRule` — in an element whose content is not markup
-/

namespace KeyScript.Markup

/-- A text without the white space at its start. -/
def dropSpace (s : Bytes) : Bytes := s.dropWhile isTagSpace

/-- Before the document type. -/
def initialRule : Rule Bool := do
  match (← get).token with
  | .text data =>
    let rest := dropSpace data
    setToken (.text rest)
    if rest = [] then return true else leave
  | .comment data =>
    addCommentTo Forest.document data
    return true
  | .doctype data =>
    let type := readDoctypeText data
    let n ← create (.doctype type.name type.publicId type.systemId)
    modify fun s =>
      { s with
        forest := s.forest.append Forest.document n
        isLegacy := type.isLegacy
        mode := .beforeRoot }
    return true
  | _ => leave
where
  /-- Goes on without a document type. -/
  leave : Rule Bool := do
    modify fun s => { s with isLegacy := true, mode := .beforeRoot }
    return false

/-- Supplies a start tag, behind which the token is looked at again. -/
def supplyAndRetry (name : Bytes) : Rule Bool := do
  supplyStart name
  return false

/-- The end tags for which the start tags before them are supplied. -/
def outerEnds : List Bytes := ["head", "body", "html", "br"]

/-- Before the root. -/
def beforeRootRule : Rule Bool := do
  match (← get).token with
  | .doctype _ => return true
  | .text data =>
    let rest := dropSpace data
    setToken (.text rest)
    if rest = [] then return true else supplyAndRetry "html"
  | .startTag name attributes _ =>
    if name = "html" then
      addElement name attributes
      enter .beforeHead
      return true
    else supplyAndRetry "html"
  | .endTag name => if outerEnds.contains name then supplyAndRetry "html" else return true
  | .comment data =>
    addCommentTo Forest.document data
    return true
  | .finish => supplyAndRetry "html"

/-- Before the head. -/
def beforeHeadRule : Rule Bool := do
  match (← get).token with
  | .doctype _ => return true
  | .text data =>
    let rest := dropSpace data
    setToken (.text rest)
    if rest = [] then return true else supplyAndRetry "head"
  | .startTag name attributes _ =>
    if name = "head" then
      addElement name attributes
      modify fun s => { s with head := some s.current, mode := .inHead }
      return true
    else if name = "html" then
      repeatRoot attributes
      return true
    else supplyAndRetry "head"
  | .endTag name => if outerEnds.contains name then supplyAndRetry "head" else return true
  | .comment data =>
    addComment data
    return true
  | .finish => supplyAndRetry "head"

/-- The elements that stand in the head. -/
def headElements : List Bytes :=
  ["base", "basefont", "bgsound", "link", "meta", "noframes", "script", "style", "template",
   "title"]

/-- Closes the innermost template. -/
def closeTemplate : Build Unit := do
  closeImplied []
  modify fun s =>
    let isTemplate := fun n => (s.forest.tag n).isPage ["template"]
    { s with openElements := (s.openElements.dropWhile fun n => !isTemplate n).tail }
  dropFormatting
  modify fun s => { s with templateModes := s.templateModes.tail }
  resetMode

/-- Opens a template. Inside embedded elements there are no templates, and nothing behind one is
read. -/
def openTemplate (attributes : List Attribute) : Build Unit := do
  if (← get).openTags.any (·.space != .page) then enter .ignoring
  else
    addElement "template" attributes
    addBorder
    forbidFrames
    modify fun s =>
      { s with mode := .inTemplate, templateModes := .inTemplate :: s.templateModes }

/-- Closes the head, behind which the token is looked at again. -/
def leaveHead : Rule Bool := do
  supplyEnd "head"
  return false

/-- Adds the white space at the start of a text to the innermost element; answers what is left. -/
def addLeadingSpace (data : Bytes) : Build Bytes := do
  let rest := dropSpace data
  addText (data.takeWhile isTagSpace)
  setToken (.text rest)
  return rest

/-- In the head. -/
def headRule : Rule Bool := do
  match (← get).token with
  | .text data => if (← addLeadingSpace data) = [] then return true else leaveHead
  | .startTag name attributes _ =>
    if name = "html" then repeatRoot attributes
    else if name.isOneOf ["base", "basefont", "bgsound", "link", "meta"] then
      addVoid name attributes
    else if name.isOneOf ["noframes", "noscript", "script", "style", "title"] then
      addTextElement name attributes
    else if name = "template" then openTemplate attributes
    else if name ≠ "head" then return ← leaveHead
    return true
  | .endTag name =>
    if name = "head" then
      closeCurrent
      enter .afterHead
      return true
    else if name.isOneOf ["body", "html", "br"] then leaveHead
    else
      if name = "template" then
        if ← hasTemplate then closeTemplate
      return true
  | .comment data =>
    addComment data
    return true
  | .doctype _ => return true
  | .finish => leaveHead

/-- Supplies the body, behind which the token is looked at again, unless it is the last one. -/
def supplyBody : Rule Bool := do
  supplyStart "body"
  modify fun s => { s with allowsFrames := true }
  return (← get).token == .finish

/-- An element of the head behind the head; it is put into the head. -/
def lateHeadElement : Rule Bool := do
  match (← get).head with
  | none => headRule
  | some head =>
    openElement head
    let isDone ← headRule
    modify fun s => { s with openElements := s.openElements.filter (· != head) }
    return isDone

/-- Between head and body. -/
def afterHeadRule : Rule Bool := do
  match (← get).token with
  | .text data => if (← addLeadingSpace data) = [] then return true else supplyBody
  | .startTag name attributes _ =>
    if name = "html" then repeatRoot attributes
    else if name = "body" then
      addElement name attributes
      forbidFrames
      enter .inBody
    else if name = "frameset" then
      addElement name attributes
      enter .inFrames
    else if headElements.contains name then return ← lateHeadElement
    else if name ≠ "head" then return ← supplyBody
    return true
  | .endTag name =>
    if name.isOneOf ["body", "html", "br"] then supplyBody
    else if name = "template" then headRule
    else return true
  | .comment data =>
    addComment data
    return true
  | .doctype _ => return true
  | .finish => supplyBody

/-- A text without a newline at its start. -/
def dropNewline (s : Bytes) : Bytes :=
  let rest : Bytes := if s.startsWith "\r" then s.tail else s
  if rest.startsWith "\n" then rest.tail else rest

/-- The text of an element, without a newline at its start if the element is empty and has one of
some names. -/
def textFor (names : List Bytes) (data : Bytes) : Build Bytes := do
  let s ← get
  let isFirst := (s.forest.children s.current).isEmpty
  return if s.currentTag.isNamed names && isFirst then dropNewline data else data

/-- In an element whose content is not markup. -/
def textRule : Rule Bool := do
  let s ← get
  match s.token with
  | .text data =>
    addText (← textFor ["textarea"] data)
    return true
  | .endTag _ =>
    set { s with openElements := s.openElements.tail, mode := s.returnMode }
    return true
  | .finish =>
    set { s with openElements := s.openElements.tail, mode := s.returnMode }
    return false
  | _ =>
    enter s.returnMode
    return false

end KeyScript.Markup
