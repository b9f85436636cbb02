import KeyScript.Json.Value

/-!
# Reading JSON

A JSON text is one value with white space around it. Strings may hold bytes that are not UTF-8;
brackets may be nested up to a fixed depth.

## Main definitions

- `Json.readSpelling`, `Json.readNumber` — strings and numbers
- `Json.parse?` — the value of a text
-/

namespace KeyScript.Json

/-- White space between tokens. -/
def isBlank (b : UInt8) : Bool := b == 32 || b == 9 || b == 13 || b == 10

/-- A text from its first byte that is not white space on. -/
def skipBlank (s : Bytes) : Bytes := s.dropWhile isBlank

/-- Whether a byte may follow a backslash by itself. -/
def isShortEscape (b : UInt8) : Bool :=
  b == 34 || b == 92 || b == 47 || b == 98 || b == 102 || b == 110 || b == 114 || b == 116

/-- Whether a byte is a hexadecimal digit. -/
def isHexDigit (b : UInt8) : Bool := (Numeral.hexValue? b).isSome

/-- The spelling of a string, from behind its opening quote on, and what is behind its closing
quote. What has been read is in `done`, latest first. -/
def readSpelling (done : Bytes) : Bytes → Option (Bytes × Bytes)
  | [] => none
  | 34 :: s => some (done.reverse, s)
  | 92 :: 117 :: a :: b :: c :: d :: s =>
    if isHexDigit a && isHexDigit b && isHexDigit c && isHexDigit d then
      readSpelling (d :: c :: b :: a :: 117 :: 92 :: done) s
    else none
  | 92 :: e :: s => if isShortEscape e then readSpelling (e :: 92 :: done) s else none
  | b :: s => if b < 0x20 || b = 92 then none else readSpelling (b :: done) s

/-- At least one digit, and what is behind the digits. -/
def readDigits (s : Bytes) : Option (Bytes × Bytes) :=
  let digits := s.takeWhile Numeral.isDigit
  if digits = [] then none else some (digits, s.dropWhile Numeral.isDigit)

/-- The part of a number in front of a point or an exponent. -/
def readWhole (s : Bytes) : Option (Bytes × Bytes) :=
  match s with
  | 48 :: rest => some ([48], rest)
  | _ => readDigits s

/-- The digits behind a point, if there is one. -/
def readFraction (s : Bytes) : Option (Bytes × Bytes) :=
  match s with
  | 46 :: rest => (readDigits rest).map fun (digits, after) => (46 :: digits, after)
  | _ => some ([], s)

/-- The exponent, if there is one. -/
def readExponent (s : Bytes) : Option (Bytes × Bytes) :=
  match s with
  | e :: rest =>
    if e = 101 || e = 69 then
      let sign := rest.take (if rest.head?.any fun b => b == 43 || b == 45 then 1 else 0)
      (readDigits (rest.drop sign.length)).map fun (digits, after) => (e :: sign ++ digits, after)
    else some ([], s)
  | [] => some ([], s)

/-- The spelling of a number and what is behind it. -/
def readNumber (s : Bytes) : Option (Bytes × Bytes) := do
  let sign := s.take (if s.head? == some Numeral.minus then 1 else 0)
  let (whole, s) ← readWhole (s.drop sign.length)
  let (fraction, s) ← readFraction s
  let (exponent, s) ← readExponent s
  return (sign ++ whole ++ fraction ++ exponent, s)

/-- The greatest depth of brackets. -/
def maxDepth : Nat := 10000

/-- A value that is neither an array nor an object. -/
def readScalar (s : Bytes) : Option (Json × Bytes) :=
  if s.startsWith "null" then some (.null, s.drop 4)
  else if s.startsWith "true" then some (.bool true, s.drop 4)
  else if s.startsWith "false" then some (.bool false, s.drop 5)
  else match s with
    | 34 :: rest => (readSpelling [] rest).map fun (spelling, after) => (.string spelling, after)
    | _ => (readNumber s).map fun (spelling, after) => (.number spelling, after)

/-- The key of a member with its colon. -/
def readKey (s : Bytes) : Option (Bytes × Bytes) :=
  match skipBlank s with
  | 34 :: rest => do
    let (key, after) ← readSpelling [] rest
    match skipBlank after with
    | 58 :: last => return (key, last)
    | _ => none
  | _ => none

mutual

/-- The value at the start of a text, inside which brackets may be nested `depth` deep, and what is
behind it. Each call takes at least one byte, so that `fuel` may be the length of the text. -/
def readValue (fuel depth : Nat) (s : Bytes) : Option (Json × Bytes) :=
  match fuel with
  | 0 => none
  | fuel + 1 =>
    match skipBlank s, depth with
    | 91 :: _, 0 | 123 :: _, 0 => none
    | 91 :: rest, depth + 1 =>
      match skipBlank rest with
      | 93 :: after => some (.array [], after)
      | _ => readItems fuel depth [] rest
    | 123 :: rest, depth + 1 =>
      match skipBlank rest with
      | 125 :: after => some (.object [], after)
      | _ => readMembers fuel depth [] rest
    | rest, _ => readScalar rest

/-- The items of an array up to its closing bracket, behind those in `done`, latest first. -/
def readItems (fuel depth : Nat) (done : List Json) (s : Bytes) : Option (Json × Bytes) :=
  match fuel with
  | 0 => none
  | fuel + 1 =>
    match readValue fuel depth s with
    | none => none
    | some (v, rest) =>
      match skipBlank rest with
      | 44 :: after => readItems fuel depth (v :: done) after
      | 93 :: after => some (.array (v :: done).reverse, after)
      | _ => none

/-- The members of an object up to its closing bracket, behind those in `done`, latest first. -/
def readMembers (fuel depth : Nat) (done : List (Bytes × Json)) (s : Bytes) :
    Option (Json × Bytes) :=
  match fuel with
  | 0 => none
  | fuel + 1 =>
    match readKey s with
    | none => none
    | some (key, colon) =>
      match readValue fuel depth colon with
      | none => none
      | some (v, rest) =>
        match skipBlank rest with
        | 44 :: after => readMembers fuel depth ((key, v) :: done) after
        | 125 :: after => some (.object ((key, v) :: done).reverse, after)
        | _ => none

end

/-- The value of a text. -/
def parse? (s : Bytes) : Option Json :=
  match readValue (2 * s.length + 1) maxDepth s with
  | some (v, rest) => if (skipBlank rest).isEmpty then some v else none
  | none => none

end KeyScript.Json
