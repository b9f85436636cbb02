import KeyScript.Markup.Construction.Insertion
import KeyScript.Text.Case

/-!
# Embedded pictures and formulas

Inside a picture or a formula other rules hold: names may have capital letters, attributes may have
prefixes, and a slash at the end of a start tag closes the element. Some elements in them hold parts
of a page again, and some tags of pages end the picture or formula.

## Main definitions

- `Tag.isPicturePart`, `Tag.isFormulaText` — elements that hold parts of a page
- `Construction.isEmbedded` — whether the current token belongs to a picture or a formula
- `addEmbedded` — a new element of a picture or a formula
- `embeddedRule` — the rule for tokens in them
-/

namespace KeyScript.Markup

/-- The names of elements of pictures that are not written in small letters. -/
def pictureNames : List Bytes :=
  (["altGlyph", "altGlyphDef", "altGlyphItem", "animateColor", "animateMotion", "animateTransform",
   "clipPath", "feBlend", "feColorMatrix", "feComponentTransfer", "feComposite",
   "feConvolveMatrix", "feDiffuseLighting", "feDisplacementMap", "feDistantLight", "feFlood",
   "feFuncA", "feFuncB", "feFuncG", "feFuncR", "feGaussianBlur", "feImage", "feMerge",
   "feMergeNode", "feMorphology", "feOffset", "fePointLight", "feSpecularLighting", "feSpotLight",
   "feTile", "feTurbulence", "foreignObject", "glyphRef", "linearGradient", "radialGradient",
   "textPath"] : List String).map Bytes.ofString

/-- The names of attributes of pictures that are not written in small letters. -/
def pictureAttributes : List Bytes :=
  (["attributeName", "attributeType", "baseFrequency", "baseProfile", "calcMode", "clipPathUnits",
   "diffuseConstant", "edgeMode", "filterUnits", "glyphRef", "gradientTransform", "gradientUnits",
   "kernelMatrix", "kernelUnitLength", "keyPoints", "keySplines", "keyTimes", "lengthAdjust",
   "limitingConeAngle", "markerHeight", "markerUnits", "markerWidth", "maskContentUnits",
   "maskUnits", "numOctaves", "pathLength", "patternContentUnits", "patternTransform",
   "patternUnits", "pointsAtX", "pointsAtY", "pointsAtZ", "preserveAlpha", "preserveAspectRatio",
   "primitiveUnits", "refX", "refY", "repeatCount", "repeatDur", "requiredExtensions",
   "requiredFeatures", "specularConstant", "specularExponent", "spreadMethod", "startOffset",
   "stdDeviation", "stitchTiles", "surfaceScale", "systemLanguage", "tableValues", "targetX",
   "targetY", "textLength", "viewBox", "viewTarget", "xChannelSelector", "yChannelSelector",
   "zoomAndPan"] : List String).map Bytes.ofString

/-- The names of attributes of formulas that are not written in small letters. -/
def formulaAttributes : List Bytes := ["definitionURL"]

/-- The names of attributes that have a prefix. -/
def labelledAttributes : List Bytes :=
  ["xlink:actuate", "xlink:arcrole", "xlink:href", "xlink:role", "xlink:show", "xlink:title",
   "xlink:type", "xml:base", "xml:lang", "xml:space", "xmlns:xlink"]

/-- A name in small letters as it is written in a list of names. -/
def spelledAs (names : List Bytes) (name : Bytes) : Bytes :=
  (names.find? fun known => lowerBytes known == name).getD name

/-- An attribute of an embedded element, with its name as it is written there. -/
def Attribute.embedded (names : List Bytes) (a : Attribute) : Attribute :=
  let key := spelledAs names a.key
  if labelledAttributes.contains key then
    match Bytes.cut 58 key with
    | (label, some rest) => { a with key := rest, label }
    | _ => { a with key }
  else { a with key }

/-- The names of attributes that are not written in small letters. -/
def spelledAttributes : Space → List Bytes
  | .page => []
  | .picture => pictureAttributes
  | .formula => formulaAttributes

/-- Adds an element to a picture or a formula. -/
def addEmbedded (space : Space) (name : Bytes) (attributes : List Attribute) (hasSlash : Bool) :
    Build Unit := do
  let attributes := attributes.map (Attribute.embedded (spelledAttributes space))
  discard (addTag { name, attributes, space })
  if hasSlash then closeCurrent

/-- Whether an element of a formula holds the text of a page. -/
def Tag.isFormulaText (tag : Tag) : Bool :=
  tag.space == .formula && tag.isNamed ["mi", "mo", "mn", "ms", "mtext"]

/-- The kinds of annotation that hold a part of a page. -/
def pageEncodings : List Bytes := ["text/html", "application/xhtml+xml"]

/-- Whether an embedded element holds a part of a page. -/
def Tag.holdsPage (tag : Tag) : Bool :=
  match tag.space with
  | .page => false
  | .picture => tag.isNamed ["desc", "foreignObject", "title"]
  | .formula => tag.isNamed ["annotation-xml"] &&
      tag.attributes.any fun a => a.key == "encoding" && pageEncodings.contains a.value.lower

/-- Whether a token inside an element belongs to a picture or a formula. -/
def Token.isEmbeddedIn (token : Token) (tag : Tag) : Bool :=
  tag.space != .page &&
    match token with
    | .finish => false
    | .startTag name _ _ =>
      !(tag.isFormulaText && !name.isOneOf ["mglyph", "malignmark"]) &&
        !(tag.space == .formula && tag.isNamed ["annotation-xml"] && name == "svg") &&
        !tag.holdsPage
    | .text _ => !tag.isFormulaText && !tag.holdsPage
    | _ => true

/-- Whether the current token belongs to a picture or a formula. -/
def Construction.isEmbedded (s : Construction) : Bool := s.token.isEmbeddedIn s.currentTag

/-- The tags of pages that end a picture or a formula. -/
def breakingNames : List Bytes :=
  (["b", "big", "blockquote", "body", "br", "center", "code", "dd", "div", "dl", "dt", "em",
   "embed", "h1", "h2", "h3", "h4", "h5", "h6", "head", "hr", "i", "img", "li", "listing", "menu",
   "meta", "nobr", "ol", "p", "pre", "ruby", "s", "small", "span", "strong", "strike", "sub",
   "sup", "table", "tt", "u", "ul", "var"] : List String).map Bytes.ofString

/-- Whether a start tag ends a picture or a formula. -/
def breaksEmbedding (name : Bytes) (attributes : List Attribute) : Bool :=
  breakingNames.contains name ||
    (name == "font" && attributes.any fun a => a.key.isOneOf ["color", "face", "size"])

/-- Closes all embedded elements up to one that holds a part of a page. -/
def closeEmbedded : Build Unit :=
  modify fun s =>
    let isInside := fun n =>
      let tag := s.forest.tag n
      !(tag.space == .page || tag.holdsPage || tag.isFormulaText)
    { s with openElements := s.openElements.dropWhile isInside }

/-- What an end tag does in a picture or a formula, to some of the open elements. -/
inductive EndEffect where
  /-- The end tag is for the page around. -/
  | forPage
  | close (outer : List Nat)
  | nothing
deriving DecidableEq, Repr, Inhabited

/-- What an end tag does in a picture or a formula. Capital and small letters are not told apart. -/
def endEffect (f : Forest) (name : Bytes) : List Nat → EndEffect
  | [] => .nothing
  | n :: outer =>
    if (f.tag n).space == .page then .forPage
    else if Bytes.equalFold (f.tag n).name name then .close outer
    else endEffect f name outer

/-- Whether a byte is white space or zero. -/
def isSpaceOrZero (b : UInt8) : Bool := isTagSpace b || b == 0

/-- The rule for a token in a picture or a formula, given the rule for the page around. -/
def embeddedRule (pageRule : Rule Bool) : Rule Bool := do
  let s ← get
  match s.token with
  | .text data =>
    if !data.all isSpaceOrZero then forbidFrames
    addText (replaceZeros data)
    return true
  | .comment data =>
    addComment data
    return true
  | .startTag name attributes hasSlash =>
    if breaksEmbedding name attributes then
      closeEmbedded
      return false
    else
      let space := s.currentTag.space
      let name := if space == .picture then spelledAs pictureNames name else name
      addEmbedded space name attributes hasSlash
      readAsMarkup
      return true
  | .endTag name =>
    match endEffect s.forest name s.openElements with
    | .forPage => pageRule
    | .close outer =>
      set { s with openElements := outer }
      return true
    | .nothing => return true
  | _ => return true

end KeyScript.Markup
