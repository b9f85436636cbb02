import KeyScript.Pattern.Match
import KeyScript.Pattern.Parser
import KeyScript.Text.Quoted

/-!
# Comparing a text with a wanted value

A text can be compared with a wanted value in six ways, each of them an operator with a name. An
operator says for itself whether the wanted value is a pattern, when the comparison holds, and what
is said if it does not. A comparison that makes no sense is told apart from one that fails.

## Main definitions

- `Operator` — a way to compare
- `Operator.named` — the operators under their names
- `Verdict` — what came of a comparison
- `compare` — compares a text under the operator of a given name
-/

namespace KeyScript

/-- Why a comparison makes no sense. -/
inductive CheckFault where
  | unknownOperator (name : Bytes)
  | badPattern (want : Bytes) (error : PatternError)
  | emptyWant
deriving DecidableEq, Repr, Inhabited

/-- The wording of a fault. -/
def CheckFault.message : CheckFault → Bytes
  | unknownOperator name => "unknown operator " ++ Quoted.text name
  | badPattern want e => "error compiling regex " ++ Quoted.plain want ++ ": " ++ e.message
  | emptyWant => "non-regex comparison requires non-empty want value"

/-- What came of a comparison. -/
inductive Verdict where
  | passed
  | failed (message : Bytes)
  | invalid (fault : CheckFault)
deriving DecidableEq, Repr, Inhabited

/-- The wording of a verdict; nothing if the comparison passed. -/
def Verdict.message : Verdict → Bytes
  | passed => []
  | failed message => message
  | invalid fault => fault.message

/-- Whether the comparison made sense. -/
def Verdict.isValid : Verdict → Bool
  | invalid _ => false
  | _ => true

/-- A text as it is shown below a message. -/
def indented (text : Bytes) : Bytes :=
  if text = [] then "(empty)"
  else if text = "\n" then "(blank line)"
  else
    let kept := text.dropEndWhile (· == Bytes.lineFeed)
    if kept = [] then "(blank lines)" else kept.replaceByte Bytes.lineFeed "\n\t"

/-- Whether a text matches a wanted value that is known to be a pattern. Nothing matches a value
that is none. -/
def matchesPattern (got want : Bytes) : Bool :=
  match Pattern.parse want with
  | .error _ => false
  | .ok p => p.isMatch got

/-- A way to compare a text with a wanted value. -/
structure Operator where
  /-- Whether the wanted value is a pattern. -/
  isPattern : Bool := false
  holds : (got want : Bytes) → Bool
  /-- The wording of a comparison that does not hold. -/
  failure : (subject got want : Bytes) → Bytes

namespace Operator

/-- The operators under their names. -/
def named : List (Bytes × Operator) :=
  [("==",
    { holds := fun got want => got == want
      failure := fun subject got want =>
        subject ++ " = " ++ Quoted.plain got ++ ", want " ++ Quoted.plain want }),
   ("!=",
    { holds := fun got want => got != want
      failure := fun subject _ want =>
        subject ++ " == " ++ Quoted.plain want ++ " (but should not)" }),
   ("~",
    { isPattern := true
      holds := matchesPattern
      failure := fun subject got want =>
        subject ++ " does not match " ++ Quoted.plain want ++ " (but should)\t" ++
          indented got }),
   ("!~",
    { isPattern := true
      holds := fun got want => !matchesPattern got want
      failure := fun subject got want =>
        subject ++ " matches " ++ Quoted.plain want ++ " (but should not)\t" ++ indented got }),
   ("contains",
    { holds := fun got want => want.isInfixOf got
      failure := fun subject got want =>
        subject ++ " does not contain " ++ Quoted.plain want ++ " (but should)\t" ++
          indented got }),
   ("!contains",
    { holds := fun got want => !want.isInfixOf got
      failure := fun subject got want =>
        subject ++ " contains " ++ Quoted.plain want ++ " (but should not)\t" ++ indented got })]

/-- The operator with a name. -/
def ofName? (name : Bytes) : Option Operator := named.lookup name

/-- Why a wanted value makes no sense for an operator, if it does not. -/
def fault? (op : Operator) (want : Bytes) : Option CheckFault :=
  if op.isPattern then
    match Pattern.parse want with
    | .error e => some (.badPattern want e)
    | .ok _ => none
  else if want = [] then some .emptyWant
  else none

end Operator

/-- Compares a text under the operator with a name. -/
def compare (subject operator got want : Bytes) : Verdict :=
  match Operator.ofName? operator with
  | none => .invalid (.unknownOperator operator)
  | some op =>
    match op.fault? want with
    | some fault => .invalid fault
    | none => if op.holds got want then .passed else .failed (op.failure subject got want)

end KeyScript
