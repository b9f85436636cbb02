import KeyScript.Script.Decoder

/-!
# Parsing a whole script

The result of a script is the list of its commands, with repetitions written out, and the list of
its diagnostics. Parsing never fails. This module also has the lines of a script and the
diagnostics of a given line.

## Main definitions

- `Result` — commands and diagnostics
- `parse`, `parseMaxRepeat` — the result of a text
- `splitLines` — the lines of a text
- `Result.errorsOn` — the diagnostics of a line, found by bisection
- `Result.errorLines` — the diagnostics grouped by line
-/

namespace KeyScript

/-- The outcome of parsing a whole script. -/
structure Result where
  /-- The commands in script order, repetitions written out. -/
  commands : List Command := []
  /-- The diagnostics, one for each rejected line. -/
  errors : List Diagnostic := []
deriving DecidableEq, Repr, Inhabited

/-- The command of an outcome. -/
def Outcome.command? : Outcome → Option Command
  | command c => some c
  | _ => none

/-- The diagnostic of an outcome. -/
def Outcome.diagnostic? : Outcome → Option Diagnostic
  | rejected e => some e
  | _ => none

/-- The result of all that a decoder still hands out. -/
def Decoder.result (d : Decoder) : Result where
  commands := d.outcomes.filterMap Outcome.command?
  errors := d.outcomes.filterMap Outcome.diagnostic?

/-- The result of a text. -/
def parse (text : Bytes) : Result := (Decoder.ofText text).result

/-- The result of a text with at most `n` copies for each repetition, or without a cap if `n` is not
positive. -/
def parseMaxRepeat (text : Bytes) (n : Int) : Result :=
  ((Decoder.ofText text).setMaxRepeat n).result

/-- A text without the carriage returns that stand directly before a line feed. -/
def unifyLineEnds : Bytes → Bytes
  | [] => []
  | c :: s =>
    if c = Bytes.carriageReturn ∧ s.head? = some Bytes.lineFeed then unifyLineEnds s
    else c :: unifyLineEnds s

/-- The lines of a text. There is always at least one. -/
def splitLines (text : Bytes) : List Bytes := (unifyLineEnds text).splitAt Bytes.lineFeed

/-- The least index from `lo` on at which `p` holds, if `p` stays true once it is true and holds at
`hi`. It halves the interval, whatever `p` is. -/
def bisect (p : Nat → Bool) (lo hi : Nat) : Nat :=
  if lo < hi then
    let mid := (lo + hi) / 2
    if p mid then bisect p lo mid else bisect p (mid + 1) hi
  else lo
termination_by hi - lo

namespace Result

/-- The diagnostics with their line numbers, in words. -/
def messages (r : Result) : List Bytes := r.errors.map Diagnostic.text

/-- Whether every line was understood. -/
def isOk (r : Result) : Bool := r.errors.isEmpty

/-- The diagnostics of a line: the run of them that starts where bisection finds the line. -/
def errorsOn (r : Result) (line : Int) : List Diagnostic :=
  let errors := r.errors.toArray
  let first := bisect (fun i => errors[i]?.any fun e => line ≤ e.line) 0 errors.size
  (r.errors.drop first).takeWhile fun e => e.line == line

/-- Adds a diagnostic behind those of its line, with the lines in increasing order. -/
def insertByLine (e : Diagnostic) : List (Int × List Diagnostic) → List (Int × List Diagnostic)
  | [] => [(e.line, [e])]
  | (line, es) :: rest =>
    if e.line < line then (e.line, [e]) :: (line, es) :: rest
    else if e.line = line then (line, es ++ [e]) :: rest
    else (line, es) :: insertByLine e rest

/-- The lines that have diagnostics, in increasing order, each with its diagnostics in order. -/
def errorLines (r : Result) : List (Int × List Diagnostic) :=
  r.errors.foldl (fun groups e => insertByLine e groups) []

/-- The diagnostics of a line among grouped ones. -/
def errorsAt (groups : List (Int × List Diagnostic)) (line : Int) : List Diagnostic :=
  (groups.lookup line).getD []

end Result

end KeyScript
