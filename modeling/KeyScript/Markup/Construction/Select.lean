import KeyScript.Markup.Construction.Table

/-!
# Selection boxes and templates

A selection box holds options and groups of options; other tags in it are passed over, or close it.
The content of a template is read in the mode that its first tag calls for.

## Main definitions

- `selectRule`, `selectInTableRule` — in a selection box
- `templateRule` — in a template
-/

namespace KeyScript.Markup

/-- Closes the innermost element if it has a name. -/
def closeIfCurrent (name : Bytes) : Build Unit := do
  if ← isCurrent [name] then closeCurrent

/-- Closes a selection box. -/
def closeSelect : Build Unit := do
  if ← closeThrough .select ["select"] then resetMode

/-- The elements whose content is no markup, but is read as markup in a selection box, because their
tags are passed over. -/
def ignoredInSelect : List Bytes :=
  ["iframe", "noembed", "noframes", "noscript", "plaintext", "style", "title", "xmp"]

/-- A start tag in a selection box. -/
def startInSelect (name : Bytes) (attributes : List Attribute) : Rule Bool := do
  if name = "html" then repeatRoot attributes
  else if name = "option" then
    closeIfCurrent "option"
    addElement name attributes
  else if name = "optgroup" then
    closeIfCurrent "option"
    closeIfCurrent "optgroup"
    addElement name attributes
  else if name = "select" then closeSelect
  else if name.isOneOf ["input", "keygen", "textarea"] then
    if ← isInScope .select ["select"] then
      supplyEnd "select"
      return false
    readAsMarkup
  else if name.isOneOf ["script", "template"] then return ← headRule
  else if name.isOneOf ignoredInSelect then readAsMarkup
  return true

/-- The end tag of a group of options closes an option in it as well. -/
def endGroup : Build Unit := do
  let s ← get
  let outer := if s.currentTag.isNamed ["option"] then s.openElements.tail else s.openElements
  match outer with
  | n :: rest => if (s.forest.tag n).isNamed ["optgroup"] then set { s with openElements := rest }
  | [] => pure ()

/-- In a selection box. -/
def selectRule : Rule Bool := do
  match (← get).token with
  | .text data =>
    addText (data.filter (· != 0))
    return true
  | .startTag name attributes _ => startInSelect name attributes
  | .endTag name =>
    if name = "option" then closeIfCurrent name
    else if name = "optgroup" then endGroup
    else if name = "select" then closeSelect
    else if name = "template" then return ← headRule
    return true
  | .comment data =>
    addComment data
    return true
  | .doctype _ => return true
  | .finish => bodyRule

/-- Whether a name is that of a part of a table that closes a selection box in the table. -/
def closesSelect (name : Bytes) : Bool :=
  name == "caption" || tableParts.contains name || cells.contains name

/-- Closes the innermost element that is named as a selection box, behind which the token is looked
at again. -/
def leaveSelect : Rule Bool := do
  modify fun s =>
    match findNamed? s.forest "select" s.openElements with
    | some (_, outer) => { s with openElements := outer }
    | none => s
  resetMode
  return false

/-- In a selection box in a table. -/
def selectInTableRule : Rule Bool := do
  match (← get).token with
  | .startTag name _ _ => if closesSelect name then leaveSelect else selectRule
  | .endTag name =>
    if closesSelect name then
      if ← isInScope .table [name] then leaveSelect else return true
    else selectRule
  | _ => selectRule

/-- The mode for the content of a template that begins with a start tag. -/
def templateModeFor (name : Bytes) : Mode :=
  if name.isOneOf ["caption", "colgroup", "tbody", "tfoot", "thead"] then .inTable
  else if name = "col" then .inColumns
  else if name = "tr" then .inRows
  else if cells.contains name then .inRow
  else .inBody

/-- In a template. -/
def templateRule : Rule Bool := do
  match (← get).token with
  | .startTag name _ _ =>
    if headElements.contains name then headRule
    else
      let mode := templateModeFor name
      modify fun s => { s with mode, templateModes := mode :: s.templateModes.tail }
      return false
  | .endTag name => if name = "template" then headRule else return true
  | .finish =>
    if ← hasTemplate then
      closeTemplate
      return false
    else return true
  | _ => bodyRule

end KeyScript.Markup
