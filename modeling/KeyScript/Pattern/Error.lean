import KeyScript.Text.Bytes

/-!
# Malformed patterns

What can be wrong with a pattern, together with the fragment of it that is to blame.

## Main definitions

- `PatternFault` — what is wrong
- `PatternError` — a fault with its fragment
- `PatternError.message` — the wording
-/

namespace KeyScript

/-- What is wrong with a pattern. -/
inductive PatternFault where
  | missingParen
  | unexpectedParen
  | missingBracket
  | missingRepeatArgument
  | nestedRepeat
  | repeatCount
  | escape
  | charRange
  | trailingBackslash
  | namedCapture
  | groupFlags
  | encoding
  | depth
  | size
deriving DecidableEq, Repr, Inhabited

/-- The wording of a fault. -/
def PatternFault.message : PatternFault → Bytes
  | missingParen => "missing closing )"
  | unexpectedParen => "unexpected )"
  | missingBracket => "missing closing ]"
  | missingRepeatArgument => "missing argument to repetition operator"
  | nestedRepeat => "invalid nested repetition operator"
  | repeatCount => "invalid repeat count"
  | escape => "invalid escape sequence"
  | charRange => "invalid character class range"
  | trailingBackslash => "trailing backslash at end of expression"
  | namedCapture => "invalid named capture"
  | groupFlags => "invalid or unsupported Perl syntax"
  | encoding => "invalid UTF-8"
  | depth => "expression nests too deeply"
  | size => "expression too large"

/-- A fault and the fragment of the pattern that has it. -/
structure PatternError where
  fault : PatternFault
  fragment : Bytes
deriving DecidableEq, Repr, Inhabited

/-- The wording of a malformed pattern. -/
def PatternError.message (e : PatternError) : Bytes :=
  "error parsing regexp: " ++ e.fault.message ++ ": `" ++ e.fragment ++ "`"

end KeyScript
