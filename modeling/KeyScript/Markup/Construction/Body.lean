import KeyScript.Markup.Construction.Adoption
import KeyScript.Markup.Construction.Embedded
import KeyScript.Markup.Construction.Head

/-!
# The body of a document

In the body a start tag may close elements that cannot hold the new one, and an end tag closes the
nearest element that it is meant for. A few end tags stand for elements of their own.

## Main definitions

- `startInBody`, `endInBody` — start tags and end tags
- `bodyRule` — the rule for the body
-/

namespace KeyScript.Markup

/-- The elements that end a paragraph. -/
def blockElements : List Bytes :=
  ["address", "article", "aside", "blockquote", "center", "details", "dialog", "dir", "div", "dl",
   "fieldset", "figcaption", "figure", "footer", "header", "hgroup", "main", "menu", "nav", "ol",
   "search", "section", "summary", "ul"]

/-- The headings. -/
def headings : List Bytes := ["h1", "h2", "h3", "h4", "h5", "h6"]

/-- The formatting elements without rules of their own. -/
def plainFormatting : List Bytes :=
  ["b", "big", "code", "em", "font", "i", "s", "small", "strike", "strong", "tt", "u"]

/-- The elements that formatting does not reach into from outside. -/
def boxedElements : List Bytes := ["applet", "marquee", "object"]

/-- The start tags that make no sense in the body. -/
def strayElements : List Bytes :=
  ["caption", "col", "colgroup", "frame", "head", "tbody", "td", "tfoot", "th", "thead", "tr"]

/-- Whether a start tag is that of an input that is not shown. -/
def isHiddenInput (attributes : List Attribute) : Bool :=
  attributes.any fun a => a.key == "type" && Bytes.equalFold a.value "hidden"

/-- The open elements outside the nearest item of a list, unless a special element is inside it. -/
def outsideItem? (f : Forest) (names : List Bytes) : List Nat → Option (List Nat)
  | [] => none
  | n :: outer =>
    let tag := f.tag n
    if tag.isNamed names then some outer
    else if tag.isSpecial && !tag.isNamed ["address", "div", "p"] then none
    else outsideItem? f names outer

/-- The start tag of an item of a list closes the item before. -/
def startItem (siblings : List Bytes) (name : Bytes) (attributes : List Attribute) :
    Build Unit := do
  forbidFrames
  modify fun s =>
    match outsideItem? s.forest siblings s.openElements with
    | some outer => { s with openElements := outer }
    | none => s
  closeParagraph
  addElement name attributes

/-- The start tag of a link closes the link before. -/
def startLink (attributes : List Attribute) : Build Unit := do
  let s ← get
  let candidates := (s.formatting.takeWhile Option.isSome).filterMap id
  match candidates.find? fun n => (s.forest.tag n).name == "a" with
  | none => pure ()
  | some n =>
    closeFormatting "a"
    modify fun t =>
      { t with
        openElements := t.openElements.filter (· != n)
        formatting := withoutFormatting t.formatting n }
  reopenFormatting
  addFormatting "a" attributes

/-- The start tag of frames takes the place of the body, if that is still allowed. -/
def startFrames (attributes : List Attribute) : Build Unit := do
  let s ← get
  match s.openElements.reverse with
  | root :: body :: _ =>
    if s.allowsFrames && (s.forest.tag body).isNamed ["body"] then
      set { s with forest := s.forest.detach body, openElements := [root] }
      addElement "frameset" attributes
      enter .inFrames
  | _ => pure ()

/-- A repeated start tag of the body only gives it more attributes. -/
def repeatBody (attributes : List Attribute) : Build Unit := do
  if !(← hasTemplate) then
    let s ← get
    match s.openElements.reverse with
    | _ :: body :: _ =>
      if (s.forest.tag body).isNamed ["body"] then
        forbidFrames
        adoptAttributes body attributes
    | _ => pure ()

/-- The start tag of a form. There are no forms in forms. -/
def startForm (attributes : List Attribute) : Build Unit := do
  let isInTemplate ← hasTemplate
  if isInTemplate || (← get).form.isNone then
    closeParagraph
    addElement "form" attributes
    if !isInTemplate then modify fun s => { s with form := some s.current }

/-- The start tag of a selection box, behind which the token is used up. -/
def startSelect (mode : Mode) (attributes : List Attribute) : Build Unit := do
  reopenFormatting
  addElement "select" attributes
  forbidFrames
  enter mode

/-- The start tags that open or close more than their own element, and those of the document's
frame; answers whether the name is among them. -/
def startStructure (name : Bytes) (attributes : List Attribute) : Build Bool := do
  if name = "html" then repeatRoot attributes
  else if name = "body" then repeatBody attributes
  else if name = "frameset" then startFrames attributes
  else if name = "form" then startForm attributes
  else if name = "li" then startItem ["li"] name attributes
  else if name.isOneOf ["dd", "dt"] then startItem ["dd", "dt"] name attributes
  else if name = "a" then startLink attributes
  else if name = "nobr" then
    reopenFormatting
    if ← isInScope .general ["nobr"] then
      closeFormatting "nobr"
      reopenFormatting
    addFormatting name attributes
  else if name = "table" then
    if !(← get).isLegacy then closeParagraph
    addElement name attributes
    forbidFrames
    enter .inTable
  else if name = "select" then startSelect .inSelect attributes
  else if name.isOneOf ["optgroup", "option"] then
    if ← isCurrent ["option"] then closeCurrent
    reopenFormatting
    addElement name attributes
  else if name.isOneOf ["rb", "rtc"] then
    if ← isInScope .general ["ruby"] then closeImplied []
    addElement name attributes
  else if name.isOneOf ["rp", "rt"] then
    if ← isInScope .general ["ruby"] then closeImplied ["rtc"]
    addElement name attributes
  else return false
  return true

/-- The start tags of blocks; answers whether the name is among them. -/
def startBlock (name : Bytes) (attributes : List Attribute) : Build Bool := do
  if blockElements.contains name || name.isOneOf ["p", "plaintext"] then
    closeParagraph
    addElement name attributes
  else if headings.contains name then
    closeParagraph
    if ← isCurrent headings then closeCurrent
    addElement name attributes
  else if name.isOneOf ["pre", "listing"] then
    closeParagraph
    addElement name attributes
    forbidFrames
  else if name = "button" then
    discard (closeThrough .general ["button"])
    reopenFormatting
    addElement name attributes
    forbidFrames
  else if boxedElements.contains name then
    reopenFormatting
    addElement name attributes
    addBorder
    forbidFrames
  else if name = "hr" then
    closeParagraph
    addVoid name attributes
    forbidFrames
  else return false
  return true

/-- The start tags of elements without content, and of those whose content is not markup; answers
whether the name is among them. -/
def startLeaf (name : Bytes) (attributes : List Attribute) : Build Bool := do
  if name.isOneOf ["area", "br", "embed", "img", "input", "keygen", "wbr"] then
    reopenFormatting
    addVoid name attributes
    if !(name = "input" && isHiddenInput attributes) then forbidFrames
  else if name.isOneOf ["param", "source", "track"] then addVoid name attributes
  else if name = "textarea" then
    addTextElement name attributes
    forbidFrames
  else if name = "xmp" then
    closeParagraph
    reopenFormatting
    forbidFrames
    addTextElement name attributes
  else if name = "iframe" then
    forbidFrames
    addTextElement name attributes
  else if name.isOneOf ["noembed", "noscript"] then addTextElement name attributes
  else return false
  return true

/-- A start tag in the body. -/
def startInBody (name : Bytes) (attributes : List Attribute) (hasSlash : Bool) : Rule Bool := do
  if headElements.contains name then return ← headRule
  else if name = "image" then
    setToken (.startTag "img" attributes hasSlash)
    return false
  else if ← startStructure name attributes then return true
  else if ← startBlock name attributes then return true
  else if ← startLeaf name attributes then return true
  else if plainFormatting.contains name then
    reopenFormatting
    addFormatting name attributes
  else if name.isOneOf ["math", "svg"] then
    reopenFormatting
    addEmbedded (if name = "math" then .formula else .picture) name attributes hasSlash
  else if !strayElements.contains name then
    reopenFormatting
    addElement name attributes
  return true

/-- The end tag of a form. -/
def endForm : Build Unit := do
  if ← hasTemplate then
    if ← isInScope .general ["form"] then
      closeImplied []
      discard (closeThrough .general ["form"])
  else
    let form := (← get).form
    modify fun s => { s with form := none }
    let found ← findInScope .general ["form"]
    if found.isSome && found == form then
      closeImplied []
      modify fun s => { s with openElements := s.openElements.filter fun n => some n != form }

/-- An end tag in the body. -/
def endInBody (name : Bytes) : Rule Bool := do
  if name = "body" then
    if ← isInScope .general ["body"] then enter .afterBody
  else if name = "html" then
    if ← isInScope .general ["body"] then
      supplyEnd "body"
      return false
  else if blockElements.contains name || name.isOneOf ["button", "listing", "pre", "dd", "dt"] then
    discard (closeThrough .general [name])
  else if name = "form" then endForm
  else if name = "p" then
    if !(← isInScope .button ["p"]) then supplyStart "p"
    closeParagraph
  else if name = "li" then discard (closeThrough .listItem ["li"])
  else if headings.contains name then discard (closeThrough .general headings)
  else if plainFormatting.contains name || name.isOneOf ["a", "nobr"] then closeFormatting name
  else if boxedElements.contains name then
    if ← closeThrough .general [name] then dropFormatting
  else if name = "br" then
    setToken (.startTag "br" [] false)
    return false
  else if name = "template" then return ← headRule
  else closeOther name
  return true

/-- A text in the body. -/
def textInBody (data : Bytes) : Build Unit := do
  let data := (← textFor ["pre", "listing"] data).filter (· != 0)
  if data ≠ [] then
    reopenFormatting
    addText data
    if dropSpace data ≠ [] then forbidFrames

/-- In the body. -/
def bodyRule : Rule Bool := do
  match (← get).token with
  | .text data =>
    textInBody data
    return true
  | .startTag name attributes hasSlash => startInBody name attributes hasSlash
  | .endTag name => endInBody name
  | .comment data =>
    addComment data
    return true
  | .doctype _ => return true
  | .finish =>
    if (← get).templateModes.isEmpty then return true
    else
      enter .inTemplate
      return false

end KeyScript.Markup
