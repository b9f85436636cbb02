import KeyScript.Markup.Construction.After

/-!
# Reading markup into a tree

A document is built token by token, by the rule for the mode that the construction is in. The
elements for the root, the head and the body are there in every document, whether their tags are
written or not; end tags that may be left out are supplied where the next tag shows that they are
missing.

## Main definitions

- `Mode.rule` — the rule of a mode
- `useUp` — one token
- `parseDocument` — the tree of a text
-/

namespace KeyScript.Markup

/-- The rule of a mode. -/
def Mode.rule : Mode → Rule Bool
  | initial => initialRule
  | beforeRoot => beforeRootRule
  | beforeHead => beforeHeadRule
  | inHead => headRule
  | afterHead => afterHeadRule
  | inBody => bodyRule
  | inText => textRule
  | inTable => tableRule
  | inCaption => captionRule
  | inColumns => columnsRule
  | inRows => rowsRule
  | inRow => rowRule
  | inCell => cellRule
  | inSelect => selectRule
  | inSelectInTable => selectInTableRule
  | inTemplate => templateRule
  | afterBody => afterBodyRule
  | inFrames => framesRule
  | afterFrames => afterFramesRule
  | afterRoot => afterRootRule
  | afterFramesRoot => afterFramesRootRule
  | ignoring => return true

/-- One look at the current token; answers whether it is used up. -/
def look : Rule Bool := do
  let s ← get
  if s.isEmbedded then embeddedRule s.mode.rule else s.mode.rule

/-- Looks at the current token, and at those that are supplied for it, until it is used up, but at
most a number of times. -/
def useUp : (looks : Nat) → Build Unit
  | 0 => return
  | looks + 1 => do
    if ← look.run (useUp looks) then return else useUp looks

/-- More looks than any token takes: the end of the input takes three for each open template. -/
def maxLooks : Nat := 4 * maxOpenElements

/-- Reads tokens up to the end of the input, but at most a number of them. -/
def readTokens : (tokens : Nat) → Build Unit
  | 0 => return
  | tokens + 1 => do
    let s ← get
    let (token, scanner) := s.scanner.next (s.currentTag.space != .page)
    set { s with token, scanner }
    useUp maxLooks
    if token = .finish then return else readTokens tokens

/-- The tree of a text. Each token but the last takes at least one byte. -/
def parseDocument (text : Bytes) : Except TreeError (List Node) := do
  let (_, s) ← (readTokens (text.length + 1)).run { scanner := { rest := text } }
  return s.forest.toNodes

end KeyScript.Markup
