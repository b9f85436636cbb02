import KeyScript.Proofs.Script.Decoding

/-!
# Parsing is going through the lines

The result of a text, which a decoder gathers outcome by outcome, is what the lines of the text
produce when they are taken one by one with nothing remembered but the command produced last.

## Main definitions

- `Result.ofOutcomes` — the commands and the diagnostics among some outcomes
- `LineByLine.result` — the result of lines taken one by one

## Main results

- `parse_eq_lineByLine` — the result of a text
-/

namespace KeyScript

/-- The commands and the diagnostics among some outcomes. -/
def Result.ofOutcomes (outcomes : List Outcome) : Result where
  commands := outcomes.filterMap Outcome.command?
  errors := outcomes.filterMap Outcome.diagnostic?

/-- The result of lines taken one by one, numbered from one, under a cap on repetitions. -/
def LineByLine.result (cap : Int) (lines : List Bytes) : Result :=
  .ofOutcomes (run cap none 1 lines).flatten

theorem parseMaxRepeat_eq_result (text : Bytes) (n : Int) :
    parseMaxRepeat text n = LineByLine.result n (splitLines text) := by
  rw [parseMaxRepeat, Decoder.result, Decoder.outcomes_ofText]
  rfl

/-- Without a cap, the result of a text is that of all outcomes of its lines. -/
theorem parse_eq_ofOutcomes (text : Bytes) :
    parse text = .ofOutcomes (LineByLine.run 0 none 1 (splitLines text)).flatten :=
  parseMaxRepeat_eq_result text 0

/-- The result of a text is the result of its lines taken one by one, without a cap. -/
theorem parse_eq_lineByLine (text : Bytes) :
    parse text = LineByLine.result 0 (splitLines text) :=
  parseMaxRepeat_eq_result text 0

end KeyScript
