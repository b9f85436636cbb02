import KeyScript.Server.Frame

/-!
# Messages from a stream

A stream of bytes is asked for one message at a time. It brings its bytes in reads, none of them
empty, and more bytes are read only as long as there is no whole frame.

## Main definitions

- `Inbox` — a stream while messages are read from it
- `Inbox.readMessage` — the next message
- `Inbox.messages` — the messages up to the first failure
-/

namespace KeyScript

/-- A stream while messages are read from it. -/
structure Inbox where
  /-- The bytes that were read and belong to no message yet. -/
  pending : Bytes := []
  /-- What the reads that are still to be made will bring. -/
  reads : List Bytes
  /-- A read brings at least one byte. -/
  reads_ne_nil : ∀ read ∈ reads, read ≠ []
deriving DecidableEq, Repr

namespace Inbox

/-- All bytes that belong to no message yet. -/
def stream (i : Inbox) : Bytes := i.pending ++ i.reads.flatten

/-- The next message behind some bytes that were read, and the stream behind it, or how the stream
ends. -/
def readFrom (pending : Bytes) :
    (reads : List Bytes) → (∀ read ∈ reads, read ≠ []) → Except StreamEnd (Bytes × Inbox)
  | [], h =>
    match readFrame pending with
    | .message body rest => .ok (body, ⟨rest, [], h⟩)
    | _ => .error (endOfStream pending)
  | read :: reads, h =>
    match readFrame pending with
    | .message body rest => .ok (body, ⟨rest, read :: reads, h⟩)
    | .partly _ => readFrom (pending ++ read) reads (List.forall_mem_cons.mp h).2
    | _ => .error (endOfStream pending)

/-- The next message and the stream behind it, or how the stream ends. -/
def readMessage (i : Inbox) : Except StreamEnd (Bytes × Inbox) :=
  readFrom i.pending i.reads i.reads_ne_nil

/-- A message takes at least one byte from the stream. -/
theorem length_stream_of_readFrom {pending body : Bytes} {reads : List Bytes}
    {hreads : ∀ read ∈ reads, read ≠ []} {next : Inbox}
    (h : readFrom pending reads hreads = .ok (body, next)) :
    next.stream.length < (pending ++ reads.flatten).length := by
  induction reads generalizing pending with
  | nil =>
    rw [readFrom] at h
    split at h
    · next hread =>
      cases h
      simpa [stream] using length_of_readFrame hread
    · cases h
  | cons read reads ih =>
    rw [readFrom] at h
    split at h
    · next hread =>
      have hlength := length_of_readFrame hread
      cases h
      simp only [stream, List.length_append]
      omega
    · have hlater := ih h
      rwa [List.append_assoc] at hlater
    · cases h

/-- The messages up to the first failure, and the failure. -/
def messages (i : Inbox) : List Bytes × StreamEnd :=
  match _h : i.readMessage with
  | .ok (body, next) =>
    let later := next.messages
    (body :: later.1, later.2)
  | .error e => ([], e)
termination_by i.stream.length
decreasing_by exact length_stream_of_readFrom _h

end Inbox

end KeyScript
