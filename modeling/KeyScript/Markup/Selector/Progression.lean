import KeyScript.Markup.Selector.Token

/-!
# Progressions

The places of elements among their siblings are selected by a progression of numbers, which is
written as a word for the even or the odd numbers, as one number, or as a multiple of `n` with a
number added or taken away.

## Main definitions

- `Progression` — the numbers of a progression
- `Progression.has` — whether a number is among them
- `Progression.Fault` — a token that is not what is expected
- `Progression.read` — reads a progression
-/

namespace KeyScript.Markup

/-- The numbers that are `start` and any number of steps away from it. -/
structure Progression where
  step : Int
  start : Int
deriving DecidableEq, Repr, Inhabited

namespace Progression

/-- Whether a number is in a progression. -/
def has (p : Progression) (n : Int) : Bool :=
  if p.step = 0 then n == p.start
  else (n - p.start) % p.step == 0 && (n - p.start) / p.step ≥ 0

/-- What is expected at a place in a progression. -/
inductive Expectation where
  | start
  | signed
  | signless
  | unsigned
  | nothing
deriving DecidableEq, Repr, Inhabited

/-- The wording of an expectation. -/
def Expectation.message : Expectation → Bytes
  | start => "expected 'even', 'odd', or integer type"
  | signed => "expected one of the following: <signed-intger>, '+', '-'"
  | signless => "expected <signless-integer>"
  | unsigned => "expected unsigned integer"
  | nothing => "expected no more tokens"

/-- A token that is not what is expected. -/
structure Fault where
  token : SelectorToken
  expectation : Expectation
deriving DecidableEq, Repr, Inhabited

/-- The wording of a fault. -/
def Fault.message (f : Fault) : Bytes :=
  "consuming " ++ f.token.describe ++ ": " ++ f.expectation.message

/-- The next of some tokens, and those behind it. -/
def next : List SelectorToken → SelectorToken × List SelectorToken
  | [] => (⟨.finish, [], 0⟩, [])
  | t :: rest => (t, rest)

/-- A whole number without a sign. -/
def unsigned? (t : SelectorToken) : Option Int :=
  if t.kind = .number true && t.text.all Numeral.isDigit then some (Numeral.valueOf t.text)
  else none

/-- A whole number with a sign. -/
def signed? (t : SelectorToken) : Option Int :=
  if t.kind = .number true && !t.text.all Numeral.isDigit then Numeral.whole? t.text else none

/-- The end of a progression. -/
def finish (p : Progression) (tokens : List SelectorToken) : Except Fault Progression :=
  let (t, _) := next tokens
  if t.kind = .finish then .ok p else .error ⟨t, .nothing⟩

/-- A progression whose sign before the last number is known. -/
def readLast (step sign : Int) (expectation : Expectation) (tokens : List SelectorToken) :
    Except Fault Progression :=
  let (t, rest) := next tokens
  match unsigned? t with
  | some n => finish ⟨step, sign * n⟩ rest
  | none => .error ⟨t, expectation⟩

/-- A progression whose step is known. -/
def readStart (step : Int) (tokens : List SelectorToken) : Except Fault Progression :=
  let (t, rest) := next tokens
  if t.kind = .finish then .ok ⟨step, 0⟩
  else match signed? t with
    | some n => finish ⟨step, n⟩ rest
    | none =>
      if t.kind = .mark && t.text = "+" then readLast step 1 .signless rest
      else if t.kind = .mark && t.text = "-" then readLast step (-1) .signless rest
      else .error ⟨t, .signed⟩

/-- A progression whose step is known, where `suffix` is the letter `n` and what is written behind
it without a gap. -/
def readSuffix (t : SelectorToken) (step : Int) (suffix : Bytes) (tokens : List SelectorToken) :
    Except Fault Progression :=
  match suffix with
  | [110] => readStart step tokens
  | [110, 45] => readLast step (-1) .unsigned tokens
  | 110 :: 45 :: digits =>
    if digits.all Numeral.isDigit then finish ⟨step, -(Numeral.valueOf digits : Int)⟩ tokens
    else .error ⟨t, .start⟩
  | _ => .error ⟨t, .start⟩

/-- A progression that begins with a name. -/
def readWord (t : SelectorToken) (tokens : List SelectorToken) : Except Fault Progression :=
  if t.text = "even" then finish ⟨2, 0⟩ tokens
  else if t.text = "odd" then finish ⟨2, 1⟩ tokens
  else match t.text with
    | 45 :: suffix => readSuffix t (-1) suffix tokens
    | suffix => readSuffix t 1 suffix tokens

/-- A progression that begins with a plus sign, from behind it on. -/
def readPlus (tokens : List SelectorToken) : Except Fault Progression :=
  let (t, rest) := next tokens
  if t.kind = .name && t.text = "n" then readStart 1 rest else .error ⟨t, .start⟩

/-- Reads a progression from the tokens between parentheses, with one for their end behind them. -/
def read (tokens : List SelectorToken) : Except Fault Progression :=
  let (t, rest) := next tokens
  match t.kind with
  | .name => readWord t rest
  | .number true =>
    match Numeral.whole? t.text with
    | some n => finish ⟨0, n⟩ rest
    | none => .error ⟨t, .start⟩
  | .dimension true unit =>
    match Numeral.whole? t.text with
    | some step => readSuffix t step unit rest
    | none => .error ⟨t, .start⟩
  | .mark => if t.text = "+" then readPlus rest else .error ⟨t, .start⟩
  | _ => .error ⟨t, .start⟩

end Progression

end KeyScript.Markup
