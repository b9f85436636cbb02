import KeyScript.Server.Frame
import KeyScript.Server.Reply
import KeyScript.Server.Request
import KeyScript.Sketch.Basic

/-!
# Sessions

The server keeps the open documents, the target of the sketches and whether it was asked to shut
down. Each message changes this state and is answered by at most one message, until a message asks
for the end.

## Main definitions

- `Server` — the state of a session
- `Turn` — what comes of a message
- `Server.handle` — the turn for a request
- `Server.receive` — the turn for the body of a message
- `Connection`, `Connection.feed` — a session over a stream of bytes
-/

namespace KeyScript

/-- The state of a session. -/
structure Server where
  /-- The open documents, under the names by which messages speak of them. -/
  documents : Dictionary Bytes Document := {}
  target : Target := {}
  /-- Whether the server was asked to shut down. -/
  isShutDown : Bool := false
deriving DecidableEq, Repr, Inhabited

/-- What comes of a message: the next state and what is sent, or the end with an exit code. -/
inductive Turn where
  | next (server : Server) (sent : Option Outgoing)
  | exit (code : Nat)
deriving Repr, Inhabited

namespace Server

/-- An open document. -/
def document? (s : Server) (uri : Bytes) : Option Document := s.documents.get? uri

/-- The turn that changes nothing and sends nothing. -/
def silent (s : Server) : Turn := .next s none

/-- The turn that changes nothing and sends a result. -/
def answer (s : Server) (id value : Json) : Turn := .next s (some (.result id value))

/-- The turn that changes nothing and sends a fault. -/
def refuse (s : Server) (id : Json) (fault : Fault) : Turn := .next s (some (.failure id fault))

/-- The turn that keeps a document under a name and sends its diagnostics. -/
def publish (s : Server) (uri : Bytes) (d : Document) : Turn :=
  .next { s with documents := s.documents.set uri d } (some (.diagnostics d.uri d.diagnostics))

/-- The start of a session. The layout is set before the board is looked at. -/
def start (s : Server) (id : Json) (r : Request) : Turn :=
  match r.read? StartParams.fields {} with
  | none => s.refuse id .badParams
  | some p =>
    match
      if p.layout = [] then .ok s.target.layout else (Layout.ofName p.layout).map Layout.name with
    | .error e => s.refuse id (.badTarget e)
    | .ok layout =>
      let s := { s with target := { s.target with layout } }
      match if p.board = [] then .ok s.target.board else (Board.ofName p.board).map Board.name with
      | .error e => s.refuse id (.badTarget e)
      | .ok board => { s with target := { s.target with board } }.answer id capabilities

/-- Opens a document. -/
def openDocument (s : Server) (r : Request) : Turn :=
  match r.read? OpenParams.fields {} with
  | none => s.silent
  | some p => s.publish p.uri (.ofText p.uri p.text)

/-- Changes an open document to the last of the new texts. -/
def changeDocument (s : Server) (r : Request) : Turn :=
  match r.read? ChangeParams.fields {} with
  | none => s.silent
  | some p =>
    match s.document? p.uri, p.texts.items.getLast? with
    | some d, some text => s.publish p.uri (d.setText text)
    | _, _ => s.silent

/-- Closes a document. -/
def closeDocument (s : Server) (r : Request) : Turn :=
  match r.read? CloseParams.fields {} with
  | none => s.silent
  | some p => { s with documents := s.documents.erase p.uri }.silent

/-- The code of a line between fences. -/
def fenced (code : Bytes) : Bytes := "```cpp\n" ++ code ++ "```"

/-- Answers with the code of a line. -/
def hover (s : Server) (id : Json) (r : Request) : Turn :=
  match r.read? PlaceParams.fields {} with
  | none => s.refuse id .badParams
  | some p =>
    match s.document? p.uri with
    | none => s.answer id .null
    | some d =>
      match d.hover p.line with
      | none => s.answer id .null
      | some code =>
        let contents := Json.record [("kind", .ofText "markdown"), ("value", .ofText (fenced code))]
        s.answer id (.record [("contents", contents), ("range", (d.lineSpan p.line).json)])

/-- Answers with the tokens of a document. -/
def highlight (s : Server) (id : Json) (r : Request) : Turn :=
  match r.read? CloseParams.fields {} with
  | none => s.refuse id .badParams
  | some p =>
    let data := ((s.document? p.uri).map fun d => encodeHighlights d.highlights).getD []
    s.answer id (.record [("data", .ofList (fun n => .ofInt n.toNat) data)])

/-- Answers with the words that are offered at a place. -/
def complete (s : Server) (id : Json) (r : Request) : Turn :=
  match r.read? PlaceParams.fields {} with
  | none => s.refuse id .badParams
  | some p =>
    let items := ((s.document? p.uri).map fun d => d.complete p.line p.column).getD []
    s.answer id (.record [("isIncomplete", .bool false), ("items", .ofList Completion.json items)])

/-- Answers with the fixes on the lines of a range. -/
def fixes (s : Server) (id : Json) (r : Request) : Turn :=
  match r.read? RangeParams.fields {} with
  | none => s.refuse id .badParams
  | some p =>
    let fixes := ((s.document? p.uri).map fun d => d.fixes p.firstLine p.lastLine).getD []
    s.answer id (.ofList (Fix.json p.uri) fixes)

/-- Runs a command; the only one answers with the sketch of a document. -/
def runCommand (s : Server) (id : Json) (r : Request) : Turn :=
  match r.read? CommandParams.fields {} with
  | none => s.refuse id .badParams
  | some p =>
    if p.command ≠ generateName then s.refuse id (.unknownCommand p.command)
    else match p.arguments.items with
      | [uri] =>
        match s.document? uri with
        | none => s.refuse id (.notOpen uri)
        | some d => s.answer id (.ofText (Sketch.generate (parse d.text).commands s.target))
      | _ => s.refuse id .badArguments

/-- The turn for a request that is only answered if it has an identifier. -/
def ifAsked (s : Server) (r : Request) (turn : Json → Turn) : Turn :=
  match r.id with
  | some id => turn id
  | none => s.silent

/-- The turn for a request. -/
def handle (s : Server) (r : Request) : Turn :=
  let id := r.id.getD .null
  let method := r.method
  if method = "initialize" then s.start id r
  else if method = "initialized" then s.silent
  else if method = "shutdown" then { s with isShutDown := true }.answer id .null
  else if method = "exit" then .exit (if s.isShutDown then 0 else 1)
  else if method = "textDocument/didOpen" then s.openDocument r
  else if method = "textDocument/didChange" then s.changeDocument r
  else if method = "textDocument/didClose" then s.closeDocument r
  else if method = "textDocument/hover" then s.ifAsked r fun id => s.hover id r
  else if method = "textDocument/semanticTokens/full" then s.ifAsked r fun id => s.highlight id r
  else if method = "textDocument/completion" then s.ifAsked r fun id => s.complete id r
  else if method = "textDocument/codeAction" then s.ifAsked r fun id => s.fixes id r
  else if method = "workspace/executeCommand" then s.ifAsked r fun id => s.runCommand id r
  else if method = "$/cancelRequest" then s.silent
  else if method = "workspace/didChangeConfiguration" then s.silent
  else s.ifAsked r fun id => s.refuse id (.unknownMethod method)

/-- The turn for the body of a message. -/
def receive (s : Server) (body : Bytes) : Turn :=
  match Request.ofBody? body with
  | none => s.refuse .null .malformed
  | some r => s.handle r

end Server

/-- A session over a stream of bytes. -/
structure Connection where
  server : Server := {}
  /-- The bytes that are not yet a whole frame. -/
  pending : Bytes := []
  /-- How the session ended, if it has ended. -/
  ended : Option StreamEnd := none
deriving DecidableEq, Repr, Inhabited

namespace Connection

/-- Handles the whole frames among the bytes that are there. Each frame takes at least one byte. -/
def drain : (fuel : Nat) → Connection → Connection × List Outgoing
  | 0, c => (c, [])
  | fuel + 1, c =>
    match readFrame c.pending with
    | .partly _ => (c, [])
    | .noLength => ({ c with ended := some .noLength }, [])
    | .badLength => ({ c with ended := some .badLength }, [])
    | .message body rest =>
      match c.server.receive body with
      | .exit code => ({ c with pending := rest, ended := some (.exit code) }, [])
      | .next server sent =>
        let (last, more) := drain fuel { c with server, pending := rest }
        (last, sent.toList ++ more)

/-- The session after some more bytes, and what is sent. A session that has ended takes no notice.
-/
def feed (c : Connection) (chunk : Bytes) : Connection × List Outgoing :=
  if c.ended.isSome then (c, [])
  else
    let pending := c.pending ++ chunk
    drain (pending.length + 1) { c with pending }

/-- How the session ends if no more bytes follow. -/
def finish (c : Connection) : StreamEnd := c.ended.getD (endOfStream c.pending)

end Connection

end KeyScript
