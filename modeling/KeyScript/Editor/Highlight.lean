import KeyScript.Editor.Document

/-!
# Highlighting

The tokens of a document that an editor colours, and their encoding as a list of numbers. Each
token is five numbers: the lines since the token before it, the columns since the start of that
token or, on a new line, since the start of the line, its length, its kind and zero.

## Main definitions

- `Highlight` — a token
- `Document.highlights` — the tokens of a document
- `encodeHighlights` — their encoding
-/

namespace KeyScript

/-- What a token is. -/
inductive HighlightKind where
  | comment
  | keyword
  | key
  | text
  | number
  | modifier
deriving DecidableEq, Repr, Inhabited

/-- The number of a kind. -/
def HighlightKind.code : HighlightKind → Nat
  | comment => 0
  | keyword => 1
  | key => 2
  | text => 3
  | number => 4
  | modifier => 5

/-- A token of a document. -/
structure Highlight where
  line : Nat
  start : Nat
  length : Nat
  kind : HighlightKind
deriving DecidableEq, Repr, Inhabited

/-- A word as a token. -/
def LocatedWord.highlight (w : LocatedWord) (line : Nat) (kind : HighlightKind) : Highlight :=
  ⟨line, w.start, w.finish - w.start, kind⟩

/-- A word and all that follows it on its line as a token. -/
def LocatedWord.highlightRest (w : LocatedWord) (line : Nat) (text : Bytes) (kind : HighlightKind) :
    Highlight :=
  ⟨line, w.start, text.units - w.start, kind⟩

/-- What a word of a chord is. -/
def chordKind? (word : Bytes) : Option HighlightKind :=
  if isModifier word then some .modifier
  else if (Key.ofName? word).isSome then some .key
  else none

/-- The tokens of a line. A rejected line has none. -/
def lineHighlights (rejected : Bool) (line : Nat) (text : Bytes) : List Highlight :=
  match text.wordsAt isBlank with
  | [] => []
  | w :: ws =>
    let head := w.text.upper
    if w.text.startsWith "REM" then [w.highlightRest line text .comment]
    else if rejected then []
    else if head = "STRING" then
      w.highlight line .keyword :: (ws.head?.map fun v => v.highlightRest line text .text).toList
    else if head = "DELAY" || head = "REPEAT" then
      w.highlight line .keyword :: (ws.head?.map fun v => v.highlight line .number).toList
    else (w :: ws).filterMap fun v => (chordKind? v.text.upper).map (v.highlight line)

/-- The tokens of a document. -/
def Document.highlights (d : Document) : List Highlight :=
  (d.lines.zipIdx.map fun (text, i) => lineHighlights (d.isRejected i) i text).flatten

/-- The encoding of tokens behind a place. -/
def encodeFrom (line start : Nat) : List Highlight → List UInt32
  | [] => []
  | h :: hs =>
    let lines : Int := h.line - line
    let columns : Int := if lines = 0 then h.start - start else h.start
    .ofInt lines :: .ofInt columns :: .ofNat h.length :: .ofNat h.kind.code :: 0 ::
      encodeFrom h.line h.start hs

/-- The encoding of tokens. -/
def encodeHighlights (hs : List Highlight) : List UInt32 := encodeFrom 0 0 hs

end KeyScript
