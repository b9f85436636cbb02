import KeyScript.Text.Bytes

/-!
# Decimal numerals

Reading and writing integers of any size. The written form is canonical: no plus sign, no leading
zeros and no sign on zero.

## Main definitions

- `Numeral.ofNat`, `Numeral.ofInt` — the canonical numeral of a number
- `Numeral.leading?` — the number that a byte string begins with
- `Numeral.leadingText?` — the canonical numeral of that number, found on the digits alone
- `Numeral.whole?` — the number that a byte string is
- `Numeral.octal`, `Numeral.hex` — numerals of fixed width
-/

namespace KeyScript.Numeral

/-- Whether a byte is a decimal digit. -/
def isDigit (b : UInt8) : Bool := 48 ≤ b && b ≤ 57

/-- The value of a decimal digit. -/
def digitValue (b : UInt8) : Nat := b.toNat - 48

/-- The digit of a value below ten. -/
def digit (n : Nat) : UInt8 := UInt8.ofNat (48 + n)

/-- The value of a string of decimal digits. -/
def valueOf (digits : Bytes) : Nat := digits.foldl (fun n d => n * 10 + digitValue d) 0

/-- The decimal digits of a number in front of the digits `tail`, with `fuel` above the number. -/
def digitsInto : (fuel : Nat) → Nat → Bytes → Bytes
  | 0, _, tail => tail
  | fuel + 1, n, tail =>
    if n < 10 then digit n :: tail else digitsInto fuel (n / 10) (digit (n % 10) :: tail)

/-- The canonical numeral of a natural number. -/
def ofNat (n : Nat) : Bytes := digitsInto (n + 1) n []

/-- The minus sign. -/
def minus : UInt8 := 45

/-- The plus sign. -/
def plus : UInt8 := 43

/-- The canonical numeral of an integer. -/
def ofInt (v : Int) : Bytes := if v < 0 then minus :: ofNat v.natAbs else ofNat v.natAbs

/-- The number whose digits a byte string begins with, if it begins with a digit. -/
def unsigned? (s : Bytes) : Option Nat :=
  let digits := s.takeWhile isDigit
  if digits.isEmpty then none else some (valueOf digits)

/-- The integer that a byte string begins with: an optional sign and then as many digits as there
are, at least one. -/
def leading? (s : Bytes) : Option Int :=
  match s with
  | [] => none
  | c :: rest =>
    if c = minus then (unsigned? rest).map fun n => -Int.ofNat n
    else if c = plus then (unsigned? rest).map Int.ofNat
    else (unsigned? s).map Int.ofNat

/-- The digits of a byte string without its sign. -/
def unsignedPart (s : Bytes) : Bytes :=
  match s with
  | [] => []
  | c :: rest => if c = minus || c = plus then rest else s

/-- The digit zero. -/
def zero : UInt8 := 48

/-- The canonical numeral of the integer that a byte string begins with. It is cut out of the byte
string, so its length has no bound. -/
def leadingText? (s : Bytes) : Option Bytes :=
  match (unsignedPart s).takeWhile isDigit with
  | [] => none
  | digits =>
    match digits.dropWhile fun d => d == zero with
    | [] => some [zero]
    | significant => some (if s.head? = some minus then minus :: significant else significant)

/-- The integer that a byte string is: an optional sign and then nothing but digits. -/
def whole? (s : Bytes) : Option Int :=
  if (unsignedPart s).all isDigit then leading? s else none

/-- The largest and smallest 64-bit integers. -/
def maxWord : Int := 9223372036854775807

@[inherit_doc maxWord]
def minWord : Int := -9223372036854775808

/-- The 64-bit integer nearest to an integer. -/
def saturate (v : Int) : Int := if v > maxWord then maxWord else if v < minWord then minWord else v

/-- The octal digits of a byte, always three. -/
def octal (b : UInt8) : Bytes :=
  [digit (b.toNat / 64), digit (b.toNat / 8 % 8), digit (b.toNat % 8)]

/-- The hexadecimal digit of a value below sixteen, in lower case. -/
def hexDigit (n : Nat) : UInt8 := UInt8.ofNat (if n < 10 then 48 + n else 87 + n)

/-- The last `width` hexadecimal digits of a number. -/
def hex : (width : Nat) → Nat → Bytes
  | 0, _ => []
  | width + 1, n => hex width (n / 16) ++ [hexDigit (n % 16)]

/-- The value of a hexadecimal digit. -/
def hexValue? (b : UInt8) : Option Nat :=
  if isDigit b then some (digitValue b)
  else if 97 ≤ b && b ≤ 102 then some (b.toNat - 87)
  else if 65 ≤ b && b ≤ 70 then some (b.toNat - 55)
  else none

/-- The hexadecimal digits of a number, without leading zeros. -/
def hexInto : (fuel : Nat) → Nat → Bytes → Bytes
  | 0, _, tail => tail
  | fuel + 1, n, tail =>
    if n < 16 then hexDigit n :: tail else hexInto fuel (n / 16) (hexDigit (n % 16) :: tail)

/-- The hexadecimal numeral of a natural number. -/
def hexOfNat (n : Nat) : Bytes := hexInto (n + 1) n []

end KeyScript.Numeral
