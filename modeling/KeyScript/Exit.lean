import KeyScript.Text.Bytes

/-!
# The end of a program

## Main definitions

- `Exit` — the exit code of a program and its last words
-/

namespace KeyScript

/-- How a program ends: its exit code and its last words on the standard error. -/
structure Exit where
  code : Nat := 0
  words : Bytes := []
deriving DecidableEq, Repr, Inhabited

/-- The last words of a program with a name. -/
def lastWords (program message : Bytes) : Bytes := program ++ ": " ++ message ++ "\n"

end KeyScript
