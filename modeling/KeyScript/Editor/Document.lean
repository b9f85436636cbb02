import KeyScript.Dictionary
import KeyScript.Script.Result
import KeyScript.Sketch.Statement
import KeyScript.Text.Columns

/-!
# Documents

A document is a script that is being edited, together with its lines, its result, and the commands
and the diagnostics of each line. Lines and columns are counted from zero, columns in UTF-16 units.
While a script is edited, a repetition stands for a limited number of copies.

## Main definitions

- `Document` — a script under a name, with all that is derived from it
- `Document.setText` — the document after an edit
- `Document.ofText` — the document of a text
- `Document.lineSpan` — the span of a line
- `Document.hover` — the code of a line
-/

namespace KeyScript

/-- A place in a document. -/
structure Position where
  line : Int
  column : Int
deriving DecidableEq, Repr, Inhabited

/-- The places from one place up to another. -/
structure Span where
  start : Position
  finish : Position
deriving DecidableEq, Repr, Inhabited

/-- The span of some columns of a line. -/
def Span.onLine (line : Int) (start finish : Int) : Span := ⟨⟨line, start⟩, ⟨line, finish⟩⟩

/-- A script that is being edited. -/
structure Document where
  uri : Bytes
  text : Bytes := []
  lines : List Bytes := []
  result : Result := {}
  /-- The commands of the result, under the index of their line. -/
  commandIndex : Dictionary Int (List Command) := {}
  /-- The diagnostics of the result, under the index of their line. -/
  errorIndex : Dictionary Int (List Diagnostic) := {}
deriving DecidableEq, Repr, Inhabited

namespace Document

/-- The most copies of a command that a repetition stands for while a script is edited. -/
def maxRepeat : Int := 1000

/-- The document with a new text. The name stays. Both indexes are emptied and filled again, item by
item. -/
def setText (d : Document) (text : Bytes) : Document :=
  let result := parseMaxRepeat text maxRepeat
  { d with
    text
    lines := splitLines text
    result
    commandIndex := d.commandIndex.clear.pushAll (fun c => c.line - 1) result.commands
    errorIndex := d.errorIndex.clear.pushAll (fun e => e.line - 1) result.errors }

/-- The document of a text. -/
def ofText (uri text : Bytes) : Document := ({ uri } : Document).setText text

/-- A line of the document. -/
def line? (d : Document) (line : Int) : Option Bytes :=
  if 0 ≤ line then d.lines[line.toNat]? else none

/-- The span of a whole line; it is empty if there is no such line. -/
def lineSpan (d : Document) (line : Int) : Span :=
  .onLine line 0 ((d.line? line).map Bytes.units |>.getD 0)

/-- The commands of a line. -/
def commandsOn (d : Document) (line : Int) : List Command := d.commandIndex.listAt line

/-- Whether a line was rejected. -/
def isRejected (d : Document) (line : Int) : Bool := !(d.errorIndex.listAt line).isEmpty

/-- The code of the commands of a line, if there are any. -/
def hover (d : Document) (line : Int) : Option Bytes :=
  match d.commandsOn line with
  | [] => none
  | commands => some (commands.flatMap Command.code)

end Document

end KeyScript
