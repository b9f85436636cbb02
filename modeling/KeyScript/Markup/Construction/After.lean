import KeyScript.Markup.Construction.Select

/-!
# Frames and the end of a document

Frames hold only frames, and white space. Behind the body comments go to the root, behind the root
they go to the document; anything else there goes back into the body.

## Main definitions

- `afterBodyRule`, `afterRootRule` — behind the body and behind the root
- `framesRule`, `afterFramesRule`, `afterFramesRootRule` — in frames and behind them
-/

namespace KeyScript.Markup

/-- Behind the body. -/
def afterBodyRule : Rule Bool := do
  let s ← get
  match s.token with
  | .finish => return true
  | .text data => if dropSpace data = [] then bodyRule else retryIn .inBody
  | .startTag name _ _ => if name = "html" then bodyRule else retryIn .inBody
  | .endTag name =>
    if name = "html" then
      enter .afterRoot
      return true
    else retryIn .inBody
  | .comment data =>
    addCommentTo (s.openElements.getLastD Forest.document) data
    return true
  | .doctype _ => retryIn .inBody

/-- Behind the root. -/
def afterRootRule : Rule Bool := do
  match (← get).token with
  | .finish => return true
  | .text data => if dropSpace data = [] then bodyRule else retryIn .inBody
  | .startTag name _ _ => if name = "html" then bodyRule else retryIn .inBody
  | .endTag _ => retryIn .inBody
  | .comment data =>
    addCommentTo Forest.document data
    return true
  | .doctype _ => bodyRule

/-- In frames. -/
def framesRule : Rule Bool := do
  match (← get).token with
  | .comment data => addComment data
  | .text data => addText (data.filter isTagSpace)
  | .startTag name attributes _ =>
    if name = "html" then repeatRoot attributes
    else if name = "frameset" then addElement name attributes
    else if name = "frame" then addVoid name attributes
    else if name = "noframes" then return ← headRule
  | .endTag name =>
    if name = "frameset" && !(← isCurrent ["html"]) then
      closeCurrent
      if !(← isCurrent ["frameset"]) then enter .afterFrames
  | _ => pure ()
  return true

/-- Behind frames. -/
def afterFramesRule : Rule Bool := do
  match (← get).token with
  | .comment data => addComment data
  | .text data => addText (data.filter isTagSpace)
  | .startTag name attributes _ =>
    if name = "html" then repeatRoot attributes
    else if name = "noframes" then return ← headRule
  | .endTag name => if name = "html" then enter .afterFramesRoot
  | _ => pure ()
  return true

/-- Behind the root of a document with frames. -/
def afterFramesRootRule : Rule Bool := do
  match (← get).token with
  | .comment data =>
    addCommentTo Forest.document data
    return true
  | .text data =>
    textInBody (data.filter isTagSpace)
    return true
  | .startTag name attributes _ =>
    if name = "noframes" then headRule
    else
      if name = "html" then repeatRoot attributes
      return true
  | _ => return true

end KeyScript.Markup
