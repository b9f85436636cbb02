import KeyScript.Text.Numeral

/-!
# Dates, times and large numbers of a configuration

A date or a time is written with a fixed number of digits for each of its parts, so that only the
ranges of the parts are left to be checked. A number with a fraction or an exponent is refused if
it is too large for 64 bits.

## Main definitions

- `MomentPart` — a part of a date or a time
- `momentFault?` — the first part that is out of range
- `isTooLarge` — whether a number is too large
-/

namespace KeyScript

/-- A part of a date or a time. -/
inductive MomentPart where
  | month
  | day
  | hour
  | minute
  | second
  | offsetHour
  | offsetMinute
deriving DecidableEq, Repr, Inhabited

/-- The name of a part. -/
def MomentPart.name : MomentPart → Bytes
  | month => "month"
  | day => "day"
  | hour => "hour"
  | minute => "minute"
  | second => "second"
  | offsetHour => "time zone offset hour"
  | offsetMinute => "time zone offset minute"

/-- The number of two digits at a place of a text. -/
def pairAt (s : Bytes) (place : Nat) : Nat := Numeral.valueOf ((s.drop place).take 2)

/-- Whether a year has a leap day. -/
def isLeapYear (year : Nat) : Bool := year % 4 == 0 && (year % 100 != 0 || year % 400 == 0)

/-- The number of days of a month. -/
def daysIn (year month : Nat) : Nat :=
  if month = 2 then if isLeapYear year then 29 else 28
  else if month = 4 || month = 6 || month = 9 || month = 11 then 30
  else 31

/-- A part, if it is out of range. -/
def outOfRange (part : MomentPart) (inRange : Bool) : Option MomentPart :=
  if inRange then none else some part

/-- The first part of a time of day that is out of range. -/
def clockFault? (s : Bytes) : Option MomentPart :=
  outOfRange .hour (pairAt s 0 < 24) <|> outOfRange .minute (pairAt s 3 < 60) <|>
    outOfRange .second (pairAt s 6 < 60)

/-- The part of the offset of a time that is out of range. A whole day and a whole hour are allowed,
and a minute counts before an hour. -/
def offsetFault? (clock : Bytes) : Option MomentPart :=
  let offset := (clock.drop 8).dropWhile fun b => b == 46 || Numeral.isDigit b
  if offset.length < 6 then none
  else outOfRange .offsetMinute (pairAt offset 4 ≤ 60) <|>
    outOfRange .offsetHour (pairAt offset 1 ≤ 24)

/-- The part of a date, a time of day or a date with a time that is out of range. The day is checked
last, when the month is known to be one. -/
def momentFault? (s : Bytes) : Option MomentPart :=
  let isDated := (s.drop 4).head? == some 45
  if !isDated then clockFault? s
  else
    let year := Numeral.valueOf (s.take 4)
    let month := pairAt s 5
    let day := pairAt s 8
    let clock := s.drop 11
    outOfRange .month (1 ≤ month && month ≤ 12) <|>
      (if clock = [] then none else clockFault? clock <|> offsetFault? clock) <|>
      outOfRange .day (1 ≤ day && day ≤ daysIn year month)

/-- The least number that is rounded to something too large for 64 bits. -/
def largeLimit : Nat := Nat.pow 2 1024 - Nat.pow 2 970

/-- Whether a number with a fraction or an exponent is too large. -/
def isTooLarge (numeral : Bytes) : Bool :=
  let isExponentMark := fun b : UInt8 => b == 101 || b == 69
  let unsigned := Numeral.unsignedPart numeral
  let mantissa := unsigned.takeWhile fun b => !isExponentMark b
  let shown := (unsigned.drop mantissa.length).drop 1
  let (whole, fraction) := Bytes.cut 46 mantissa
  let digits := whole ++ fraction.getD []
  let value := Numeral.valueOf digits
  let exponent := (Numeral.leading? shown).getD 0 - ((fraction.getD []).length : Int)
  let size := (digits.dropWhile (· == 48)).length + exponent
  if value = 0 || size < 308 then false
  else if size > 310 then true
  else if 0 ≤ exponent then largeLimit ≤ value * Nat.pow 10 exponent.toNat
  else largeLimit * Nat.pow 10 exponent.natAbs ≤ value

end KeyScript
