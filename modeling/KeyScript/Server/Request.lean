import KeyScript.Json.Decode
import KeyScript.Json.Parser

/-!
# Requests

What an editor sends: a method, parameters, and an identifier if it wants an answer. The
parameters of each method are data of their own.

## Main definitions

- `Request` — a message
- `Request.ofBody?` — reads a message
- `StartParams`, `OpenParams`, `ChangeParams`, `CloseParams`, `PlaceParams`, `RangeParams`,
  `CommandParams` — the parameters of the methods
-/

namespace KeyScript

/-- A message from an editor. -/
structure Request where
  /-- The version of the protocol. -/
  version : Bytes := []
  /-- The identifier, if the message has one. -/
  id : Option Json := none
  method : Bytes := []
  /-- The parameters, if the message has any. -/
  params : Option Json := none
deriving Repr, Inhabited

namespace Json.RecordField

variable {α : Type}

/-- A field that holds a text. -/
def text (name : Bytes) (get : α → Bytes) (set : α → Bytes → α) : RecordField α :=
  ⟨name, fun a v => (text? (get a) v).map (set a)⟩

/-- A field that holds an integer. -/
def int (name : Bytes) (get : α → Int) (set : α → Int → α) : RecordField α :=
  ⟨name, fun a v => (int? (get a) v).map (set a)⟩

/-- A field that holds data with fields. -/
def inside (name : Bytes) (fields : List (RecordField α)) : RecordField α := ⟨name, record? fields⟩

end Json.RecordField

open Json (RecordField record? list? text?)

/-- The fields of a message. -/
def Request.fields : List (RecordField Request) :=
  [.text "jsonrpc" Request.version fun r v => { r with version := v },
   ⟨"id", fun r v => some { r with id := some v }⟩,
   .text "method" Request.method fun r m => { r with method := m },
   ⟨"params", fun r v => some { r with params := some v }⟩]

/-- Reads a message. -/
def Request.ofBody? (body : Bytes) : Option Request :=
  (Json.parse? body).bind (record? Request.fields {})

/-- Reads the parameters of a message, which must be there. -/
def Request.read? {α : Type} (r : Request) (fields : List (RecordField α)) (fresh : α) : Option α :=
  r.params.bind (record? fields fresh)

/-- The parameters at the start of a session. -/
structure StartParams where
  layout : Bytes := []
  board : Bytes := []
deriving DecidableEq, Repr, Inhabited

/-- The fields of the parameters at the start of a session. -/
def StartParams.fields : List (RecordField StartParams) :=
  [.inside "initializationOptions"
    [.text "layout" StartParams.layout fun p s => { p with layout := s },
     .text "board" StartParams.board fun p s => { p with board := s }]]

/-- The parameters for a document that is opened. -/
structure OpenParams where
  uri : Bytes := []
  text : Bytes := []
deriving DecidableEq, Repr, Inhabited

/-- The fields of the parameters for a document that is opened. -/
def OpenParams.fields : List (RecordField OpenParams) :=
  [.inside "textDocument"
    [.text "uri" OpenParams.uri fun p s => { p with uri := s },
     .text "text" OpenParams.text fun p s => { p with text := s }]]

/-- The parameters for a document that is changed: the whole new text after each change. -/
structure ChangeParams where
  uri : Bytes := []
  texts : Json.Row Bytes := {}
deriving DecidableEq, Repr, Inhabited

/-- The fields of the parameters for a document that is changed. -/
def ChangeParams.fields : List (RecordField ChangeParams) :=
  [.inside "textDocument" [.text "uri" ChangeParams.uri fun p s => { p with uri := s }],
   ⟨"contentChanges", fun p v =>
      (list? [] (record? [⟨"text", text?⟩]) p.texts v).map fun texts => { p with texts }⟩]

/-- The parameters that name a document. -/
structure CloseParams where
  uri : Bytes := []
deriving DecidableEq, Repr, Inhabited

/-- The fields of the parameters that name a document. -/
def CloseParams.fields : List (RecordField CloseParams) :=
  [.inside "textDocument" [.text "uri" CloseParams.uri fun p s => { p with uri := s }]]

/-- The parameters that name a place in a document. -/
structure PlaceParams where
  uri : Bytes := []
  line : Int := 0
  column : Int := 0
deriving DecidableEq, Repr, Inhabited

/-- The fields of the parameters that name a place in a document. -/
def PlaceParams.fields : List (RecordField PlaceParams) :=
  [.inside "textDocument" [.text "uri" PlaceParams.uri fun p s => { p with uri := s }],
   .inside "position"
    [.int "line" PlaceParams.line fun p n => { p with line := n },
     .int "character" PlaceParams.column fun p n => { p with column := n }]]

/-- The parameters that name a range of a document. -/
structure RangeParams where
  uri : Bytes := []
  firstLine : Int := 0
  firstColumn : Int := 0
  lastLine : Int := 0
  lastColumn : Int := 0
deriving DecidableEq, Repr, Inhabited

/-- The fields of the parameters that name a range of a document. -/
def RangeParams.fields : List (RecordField RangeParams) :=
  [.inside "textDocument" [.text "uri" RangeParams.uri fun p s => { p with uri := s }],
   .inside "range"
    [.inside "start"
      [.int "line" RangeParams.firstLine fun p n => { p with firstLine := n },
       .int "character" RangeParams.firstColumn fun p n => { p with firstColumn := n }],
     .inside "end"
      [.int "line" RangeParams.lastLine fun p n => { p with lastLine := n },
       .int "character" RangeParams.lastColumn fun p n => { p with lastColumn := n }]]]

/-- The parameters for a command. -/
structure CommandParams where
  command : Bytes := []
  arguments : Json.Row Bytes := {}
deriving DecidableEq, Repr, Inhabited

/-- The fields of the parameters for a command. -/
def CommandParams.fields : List (RecordField CommandParams) :=
  [.text "command" CommandParams.command fun p s => { p with command := s },
   ⟨"arguments",
    fun p v => (list? [] text? p.arguments v).map fun arguments => { p with arguments }⟩]

end KeyScript
