import KeyScript.Exit
import KeyScript.Server.Session

/-!
# Serving a stream

A session as bytes in and bytes out, and how the server's program ends.

## Main definitions

- `Connection.respond` — the bytes that answer some bytes
- `Connection.wanted` — how many bytes can be waited for
- `StreamEnd.exitOf` — how the program ends
- `serve` — the answer to a whole stream
-/

namespace KeyScript

/-- A message from the server in its frame. -/
def Outgoing.framed (message : Outgoing) : Bytes := frame (message.json Fault.message).render

/-- The session after some more bytes, and the bytes that are sent. -/
def Connection.respond (c : Connection) (chunk : Bytes) : Connection × Bytes :=
  let (next, sent) := c.feed chunk
  (next, sent.flatMap Outgoing.framed)

/-- A number of bytes that a client must still send before it can expect an answer: those missing
from the message, or one while the header is not complete. -/
def Connection.wanted (c : Connection) : Nat :=
  match readHeader 0 [] c.pending with
  | none => 1
  | some (length, rest) => max 1 (length.toNat - rest.length)

/-- The exit code for a length that no message can have. -/
def badLengthCode : Nat := 2

/-- How the program ends when a session has ended. -/
def StreamEnd.exitOf (e : StreamEnd) : Exit :=
  let words := (e.message?.map (lastWords serverName)).getD []
  match e with
  | finished => { words }
  | exit code => { code, words }
  | badLength => { code := badLengthCode, words }
  | _ => { code := 1, words }

/-- What is sent in answer to a whole stream, and how the program ends. -/
def serve (stream : Bytes) : Bytes × Exit :=
  let (c, sent) := ({} : Connection).respond stream
  (sent, c.finish.exitOf)

end KeyScript
