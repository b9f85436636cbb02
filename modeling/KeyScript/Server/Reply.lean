import KeyScript.Editor.Completion
import KeyScript.Editor.Fix
import KeyScript.Editor.Highlight
import KeyScript.Json.Value
import KeyScript.Sketch.Target
import KeyScript.Text.Quoted

/-!
# Replies

What the server sends: the answer to a request, which is a result or a fault, or the diagnostics
of a document.

## Main definitions

- `Fault` — why a request is not answered with a result
- `Outgoing` — a message from the server
- `Outgoing.json` — the JSON form of a message
-/

namespace KeyScript

/-- The name of the command that returns the sketch of a document. -/
def generateName : Bytes := "duckify.generate"

/-- The name of the server. -/
def serverName : Bytes := "duckylsp"

/-- Why a request is not answered with a result. -/
inductive Fault where
  /-- The message is not JSON, or not a request. -/
  | malformed
  /-- The parameters are missing or of the wrong kind. -/
  | badParams
  | unknownMethod (method : Bytes)
  | unknownCommand (command : Bytes)
  /-- The command was not given exactly one argument. -/
  | badArguments
  | notOpen (uri : Bytes)
  | badTarget (error : TargetError)
deriving DecidableEq, Repr, Inhabited

/-- The number of a fault. -/
def Fault.code : Fault → Int
  | malformed => -32700
  | unknownMethod _ => -32601
  | _ => -32602

/-- The wording of a fault. -/
def Fault.message : Fault → Bytes
  | malformed => "invalid message"
  | badParams => "invalid parameters"
  | unknownMethod method => "unsupported method " ++ Quoted.text method
  | unknownCommand command => "unknown command " ++ Quoted.text command
  | badArguments => generateName ++ " takes a document URI"
  | notOpen uri => "document " ++ Quoted.text uri ++ " is not open"
  | badTarget e => e.message

/-- A diagnostic with its span. -/
structure LocatedDiagnostic where
  span : Span
  message : Bytes
deriving DecidableEq, Repr, Inhabited

/-- The diagnostics of a document with their spans. -/
def Document.diagnostics (d : Document) : List LocatedDiagnostic :=
  d.result.errors.map fun e => ⟨d.lineSpan (e.line - 1), e.message⟩

/-- A message from the server. -/
inductive Outgoing where
  | result (id value : Json)
  | failure (id : Json) (fault : Fault)
  | diagnostics (uri : Bytes) (list : List LocatedDiagnostic)
deriving Repr, Inhabited

/-- A place in JSON. -/
def Position.json (p : Position) : Json :=
  .record [("line", .ofInt p.line), ("character", .ofInt p.column)]

/-- A span in JSON. -/
def Span.json (s : Span) : Json := .record [("start", s.start.json), ("end", s.finish.json)]

/-- A diagnostic in JSON. -/
def LocatedDiagnostic.json (d : LocatedDiagnostic) : Json :=
  .record [("range", d.span.json), ("severity", .ofInt 1), ("source", .ofText serverName),
    ("message", .ofText d.message)]

/-- The number of a kind of offered words. -/
def CompletionKind.code : CompletionKind → Int
  | keyword => 14
  | constant => 21

/-- An offered word in JSON. -/
def Completion.json (c : Completion) : Json :=
  .record [("label", .ofText c.label), ("kind", .ofInt c.kind.code)]

/-- A fix in JSON. -/
def Fix.json (uri : Bytes) (f : Fix) : Json :=
  let change := Json.record [("range", f.span.json), ("newText", .ofText f.word)]
  .record [("title", .ofText f.title), ("kind", .ofText "quickfix"),
    ("edit", .record [("changes", .record [(uri, .array [change])])])]

/-- What the server can do, in JSON. -/
def capabilities : Json :=
  let texts := fun list : List Bytes => Json.ofList Json.ofText list
  let legend := Json.record
    [("tokenTypes", texts ["comment", "keyword", "function", "string", "number", "enumMember"]),
     ("tokenModifiers", .array [])]
  .record
    [("capabilities", .record
      [("textDocumentSync", .record [("openClose", .bool true), ("change", .ofInt 1)]),
       ("hoverProvider", .bool true),
       ("completionProvider", .record []),
       ("codeActionProvider", .record [("codeActionKinds", texts ["quickfix"])]),
       ("executeCommandProvider", .record [("commands", texts [generateName])]),
       ("semanticTokensProvider", .record [("legend", legend), ("full", .bool true)])]),
     ("serverInfo", .record [("name", .ofText serverName)])]

/-- A message in JSON, where `wording` gives the texts of faults. -/
def Outgoing.json (wording : Fault → Bytes) : Outgoing → Json
  | result id value => .record [("jsonrpc", .ofText "2.0"), ("id", id), ("result", value)]
  | failure id fault =>
    .record [("jsonrpc", .ofText "2.0"), ("id", id),
      ("error", .record [("code", .ofInt fault.code), ("message", .ofText (wording fault))])]
  | diagnostics uri list =>
    .record [("jsonrpc", .ofText "2.0"), ("method", .ofText "textDocument/publishDiagnostics"),
      ("params", .record [("uri", .ofText uri),
        ("diagnostics", .ofList LocatedDiagnostic.json list)])]

end KeyScript
