import KeyScript.Markup.Construction.Body

/-!
# Tables

A table holds captions, groups of columns, and parts with rows of cells; the tags around a cell that
are missing are supplied. Whatever else stands in a table goes before it.

## Main definitions

- `tableRule`, `captionRule`, `columnsRule` — in a table, in its caption and its columns
- `rowsRule`, `rowRule`, `cellRule` — in a part of a table, a row and a cell
-/

namespace KeyScript.Markup

/-- The parts of a table that hold rows. -/
def rowGroups : List Bytes := ["tbody", "tfoot", "thead"]

/-- The cells of a row. -/
def cells : List Bytes := ["td", "th"]

/-- The rule for the body, for what cannot stand in a table. -/
def fosterRule : Rule Bool := do
  modify fun s => { s with fosters := true }
  let isDone ← bodyRule
  modify fun s => { s with fosters := false }
  return isDone

/-- Looks at the token again in another mode. -/
def retryIn (mode : Mode) : Rule Bool := do
  enter mode
  return false

/-- A start tag of a part of a table; answers nothing if the name is not that of one. -/
def startTablePart (name : Bytes) (attributes : List Attribute) : Rule (Option Bool) := do
  if name = "caption" then
    closeUpToTable
    addBorder
    addElement name attributes
    enter .inCaption
    return some true
  else if name = "colgroup" then
    closeUpToTable
    addElement name attributes
    enter .inColumns
    return some true
  else if name = "col" then return some (← supplyAndRetry "colgroup")
  else if rowGroups.contains name then
    closeUpToTable
    addElement name attributes
    enter .inRows
    return some true
  else if name = "tr" || cells.contains name then return some (← supplyAndRetry "tbody")
  else if name = "table" then
    if ← closeThrough .table ["table"] then
      resetMode
      return some false
    else return some true
  else return none

/-- The start tag of a selection box in a table; it goes before the table. -/
def startTableSelect (attributes : List Attribute) : Build Unit := do
  reopenFormatting
  if ← isCurrent tableParts then modify fun s => { s with fosters := true }
  addElement "select" attributes
  modify fun s => { s with fosters := false }
  forbidFrames
  enter .inSelectInTable

/-- A start tag in a table. -/
def startInTable (name : Bytes) (attributes : List Attribute) : Rule Bool := do
  match ← startTablePart name attributes with
  | some isDone => return isDone
  | none =>
    if name.isOneOf ["style", "script", "template"] then headRule
    else if name = "input" && isHiddenInput attributes then
      addVoid name attributes
      return true
    else if name = "form" then
      if !(← hasTemplate) && (← get).form.isNone then
        addElement name attributes
        modify fun s => { s with form := some s.current, openElements := s.openElements.tail }
      return true
    else if name = "select" then
      startTableSelect attributes
      return true
    else fosterRule

/-- The end tags that make no sense in a table. -/
def strayTableEnds : List Bytes :=
  ["body", "caption", "col", "colgroup", "html", "tbody", "td", "tfoot", "th", "thead", "tr"]

/-- In a table. -/
def tableRule : Rule Bool := do
  match (← get).token with
  | .text data =>
    let data := data.filter (· != 0)
    setToken (.text data)
    if (← isCurrent tableParts) && dropSpace data = [] then
      addText data
      return true
    else fosterRule
  | .startTag name attributes _ => startInTable name attributes
  | .endTag name =>
    if name = "table" then
      if ← closeThrough .table ["table"] then resetMode
      return true
    else if strayTableEnds.contains name then return true
    else if name = "template" then headRule
    else fosterRule
  | .comment data =>
    addComment data
    return true
  | .doctype _ => return true
  | .finish => bodyRule

/-- Closes the caption of a table; answers whether there is one. -/
def closeCaption : Build Bool := do
  if ← closeThrough .table ["caption"] then
    dropFormatting
    enter .inTable
    return true
  else return false

/-- In the caption of a table. -/
def captionRule : Rule Bool := do
  match (← get).token with
  | .startTag name attributes _ =>
    if name.isOneOf ["caption", "col", "colgroup", "tbody", "td", "tfoot", "thead", "tr"] then
      return !(← closeCaption)
    else if name = "select" then
      startSelect .inSelectInTable attributes
      return true
    else bodyRule
  | .endTag name =>
    if name = "caption" then
      discard closeCaption
      return true
    else if name = "table" then return !(← closeCaption)
    else if strayTableEnds.contains name then return true
    else bodyRule
  | _ => bodyRule

/-- Closes the columns of a table, behind which the token is looked at again. -/
def leaveColumns : Rule Bool := do
  if ← isCurrent ["colgroup"] then
    closeCurrent
    retryIn .inTable
  else return true

/-- In the columns of a table. -/
def columnsRule : Rule Bool := do
  match (← get).token with
  | .text data => if (← addLeadingSpace data) = [] then return true else leaveColumns
  | .comment data =>
    addComment data
    return true
  | .doctype _ => return true
  | .startTag name attributes _ =>
    if name = "html" then
      repeatRoot attributes
      return true
    else if name = "col" then
      addVoid name attributes
      return true
    else if name = "template" then headRule
    else leaveColumns
  | .endTag name =>
    if name = "colgroup" then
      discard leaveColumns
      return true
    else if name = "col" then return true
    else if name = "template" then headRule
    else leaveColumns
  | .finish => bodyRule

/-- Closes a part of a table that holds rows, behind which the token is looked at again. -/
def leaveRows : Rule Bool := do
  if ← closeThrough .table rowGroups then retryIn .inTable else return true

/-- In a part of a table that holds rows. -/
def rowsRule : Rule Bool := do
  match (← get).token with
  | .startTag name attributes _ =>
    if name = "tr" then
      closeUpToRows
      addElement name attributes
      enter .inRow
      return true
    else if cells.contains name then supplyAndRetry "tr"
    else if name.isOneOf ["caption", "col", "colgroup", "tbody", "tfoot", "thead"] then leaveRows
    else tableRule
  | .endTag name =>
    if rowGroups.contains name then
      if ← isInScope .table [name] then
        closeUpToRows
        closeCurrent
        enter .inTable
      return true
    else if name = "table" then leaveRows
    else if strayTableEnds.contains name then return true
    else tableRule
  | .comment data =>
    addComment data
    return true
  | _ => tableRule

/-- Closes a row; answers whether there is one. -/
def closeRow : Build Bool := do
  if ← isInScope .table ["tr"] then
    closeUpToRow
    closeCurrent
    enter .inRows
    return true
  else return false

/-- In a row. -/
def rowRule : Rule Bool := do
  match (← get).token with
  | .startTag name attributes _ =>
    if cells.contains name then
      closeUpToRow
      addElement name attributes
      addBorder
      enter .inCell
      return true
    else if name.isOneOf ["caption", "col", "colgroup", "tbody", "tfoot", "thead", "tr"] then
      return !(← closeRow)
    else tableRule
  | .endTag name =>
    if name = "tr" then
      discard closeRow
      return true
    else if name = "table" then return !(← closeRow)
    else if rowGroups.contains name then
      if ← isInScope .table [name] then return !(← closeRow) else return true
    else if strayTableEnds.contains name then return true
    else tableRule
  | _ => tableRule

/-- Closes a cell with one of some names; answers whether there is one. -/
def closeCell (names : List Bytes) : Build Bool := do
  if ← closeThrough .table names then
    dropFormatting
    enter .inRow
    return true
  else return false

/-- In a cell. -/
def cellRule : Rule Bool := do
  match (← get).token with
  | .startTag name attributes _ =>
    if name.isOneOf
        ["caption", "col", "colgroup", "tbody", "td", "tfoot", "th", "thead", "tr"] then
      return !(← closeCell cells)
    else if name = "select" then
      startSelect .inSelectInTable attributes
      return true
    else bodyRule
  | .endTag name =>
    if cells.contains name then
      discard (closeCell [name])
      return true
    else if name.isOneOf ["body", "caption", "col", "colgroup", "html"] then return true
    else if tableParts.contains name then
      if ← isInScope .table [name] then
        discard (closeCell cells)
        retryIn .inRow
      else return true
    else bodyRule
  | _ => bodyRule

end KeyScript.Markup
