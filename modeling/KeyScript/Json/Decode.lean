import KeyScript.Json.Value
import KeyScript.Text.Case

/-!
# Data in JSON values

Data are read from a value by changing data that are there already: a member of an object changes
the field of its name, members without a field are ignored, and null changes nothing. A value of
the wrong kind is refused. Field names are compared up to case, and of several members for one
field the last one has its way.

## Main definitions

- `Json.unescape` — the text of a spelling
- `Json.text?`, `Json.int?` — texts and integers
- `Json.record?`, `Json.list?` — data with fields, and lists
- `Json.Row` — a list with the places behind its end
-/

namespace KeyScript.Json

/-- The character that a letter after a backslash stands for. -/
def shortEscape (b : UInt8) : UInt8 :=
  if b = 98 then 8
  else if b = 102 then 12
  else if b = 110 then 10
  else if b = 114 then 13
  else if b = 116 then 9
  else b

/-- The number that four hexadecimal digits stand for. -/
def hexNumber (a b c d : UInt8) : Nat :=
  [a, b, c, d].foldl (fun n x => n * 16 + (Numeral.hexValue? x).getD 0) 0

/-- Whether a number is the first half of a pair of UTF-16 units. -/
def isHighHalf (n : Nat) : Bool := 0xD800 ≤ n && n ≤ 0xDBFF

/-- Whether a number is the second half of a pair of UTF-16 units. -/
def isLowHalf (n : Nat) : Bool := 0xDC00 ≤ n && n ≤ 0xDFFF

/-- The character that a pair of UTF-16 units stands for. -/
def pairedChar (high low : Nat) : Char :=
  Char.ofNat (0x10000 + (high - 0xD800) * 0x400 + (low - 0xDC00))

/-- The character of a single UTF-16 unit, or the replacement character for half of a pair. -/
def unitChar (n : Nat) : Char := if isHighHalf n || isLowHalf n then replacement else Char.ofNat n

/-- The bytes of a spelling, behind those in `done`, latest first. -/
def unescapeFrom (done : Bytes) : Bytes → Bytes
  | 92 :: 117 :: a :: b :: c :: d :: 92 :: 117 :: e :: f :: g :: h :: s =>
    let high := hexNumber a b c d
    let low := hexNumber e f g h
    if isHighHalf high && isLowHalf low then
      unescapeFrom ((encode (pairedChar high low)).reverse ++ done) s
    else
      unescapeFrom ((encode (unitChar high)).reverse ++ done) (92 :: 117 :: e :: f :: g :: h :: s)
  | 92 :: 117 :: a :: b :: c :: d :: s =>
    unescapeFrom ((encode (unitChar (hexNumber a b c d))).reverse ++ done) s
  | 92 :: e :: s => unescapeFrom (shortEscape e :: done) s
  | b :: s => unescapeFrom (b :: done) s
  | [] => done.reverse

/-- The text of a spelling. A byte that is not UTF-8 becomes the replacement character. -/
def unescape (spelling : Bytes) : Bytes :=
  (runes (unescapeFrom [] spelling)).flatMap fun r => encode r.char

/-- Changes a text. -/
def text? (old : Bytes) : Json → Option Bytes
  | null => some old
  | string spelling => some (unescape spelling)
  | _ => none

/-- Changes a 64-bit integer. -/
def int? (old : Int) : Json → Option Int
  | null => some old
  | number spelling => (Numeral.whole? spelling).filter fun n => Numeral.saturate n == n
  | _ => none

/-- A field of data: its name, and how a value changes the data. -/
structure RecordField (α : Type) where
  name : Bytes
  change : α → Json → Option α

/-- Changes data by one member of an object. -/
def RecordField.changeBy {α : Type} (fields : List (RecordField α)) (old : α)
    (member : Bytes × Json) : Option α :=
  match fields.find? fun f => f.name.equalFold (unescape member.1) with
  | some f => f.change old member.2
  | none => some old

/-- Changes data with fields. -/
def record? {α : Type} (fields : List (RecordField α)) (old : α) : Json → Option α
  | null => some old
  | object members => members.foldlM (RecordField.changeBy fields) old
  | _ => none

/-- A list with the places behind its end that a longer list has left. They keep their old items,
which show again where a later list is longer and says nothing about them. -/
structure Row (α : Type) where
  items : List α := []
  spare : List α := []
deriving DecidableEq, Repr, Inhabited

/-- Changes the items in some places one after the other; there is a fresh item for each value that
has no place. Returns the changed items and the places that are left. -/
def fill? {α : Type} (fresh : α) (change : α → Json → Option α) :
    List α → List Json → Option (List α × List α)
  | places, [] => some ([], places)
  | [], v :: vs => do
    let x ← change fresh v
    let (items, left) ← fill? fresh change [] vs
    return (x :: items, left)
  | place :: places, v :: vs => do
    let x ← change place v
    let (items, left) ← fill? fresh change places vs
    return (x :: items, left)

/-- Changes a list. A list without values has no places. -/
def list? {α : Type} (fresh : α) (change : α → Json → Option α) (old : Row α) :
    Json → Option (Row α)
  | null | array [] => some {}
  | array values =>
    (fill? fresh change (old.items ++ old.spare) values).map fun (items, spare) => { items, spare }
  | _ => none

end KeyScript.Json
