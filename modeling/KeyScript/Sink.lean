import KeyScript.Report.Page

/-!
# Writing into a bounded place

A sink takes bytes until it is full. A write that does not fit fills the sink and fails.

## Main definitions

- `Sink` — a place with some room
- `Sink.write` — a write
- `Sink.writeSketch`, `Sink.writePage` — writing a sketch or a page
-/

namespace KeyScript

/-- A place that takes a bounded number of bytes. -/
structure Sink where
  /-- The number of bytes that still fit. -/
  room : Nat
  /-- The bytes taken so far. -/
  taken : Bytes := []
deriving DecidableEq, Repr, Inhabited

/-- Why a write fails. -/
inductive SinkError where
  | full
deriving DecidableEq, Repr, Inhabited

/-- The message of a failed write. -/
def SinkError.message : SinkError → Bytes
  | full => "disk full"

namespace Sink

/-- Writes bytes as far as they fit. -/
def write (s : Sink) (data : Bytes) : Sink × Except SinkError Unit :=
  ({ room := s.room - data.length, taken := s.taken ++ data.take s.room },
    if data.length ≤ s.room then .ok () else .error .full)

/-- Writes the sketch of some commands. -/
def writeSketch (s : Sink) (commands : List Command) (target : Target) :
    Sink × Except SinkError Unit :=
  s.write (Sketch.generate commands target)

/-- Writes a report page. -/
def writePage (s : Sink) (page : Page) : Sink × Except SinkError Unit := s.write page.render

end Sink

end KeyScript
