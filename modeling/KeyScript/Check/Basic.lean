import KeyScript.Text.Words

/-!
# Checks

A check is one line of three parts: what is looked at, an operator, and the wanted value. The
first two parts are words; the wanted value is the rest of the line, spaces included.

## Main definitions

- `Check` — the three parts
- `cutWord` — the first word of a text and what is behind it
- `Check.ofLine` — the parts of a line
-/

namespace KeyScript

/-- The three parts of a check. -/
structure Check where
  subject : Bytes
  operator : Bytes
  want : Bytes
deriving DecidableEq, Repr, Inhabited

/-- The first word of a text, and the text from its second word on. -/
def cutWord (rs : List Rune) : List Rune × List Rune :=
  (takeWord isSpace (skipSpace isSpace rs), afterFirstWord isSpace rs)

/-- The parts of a check. One line feed at the end of the wanted value is dropped. -/
def Check.ofLine (line : Bytes) : Check :=
  let (subject, rest) := cutWord (runes line)
  let (operator, want) := cutWord rest
  { subject := Rune.join subject, operator := Rune.join operator,
    want := (Rune.join want).dropEnd "\n" }

end KeyScript
