import KeyScript.Text.CategoryTable
import KeyScript.Text.Numeral
import KeyScript.Text.WritingSystemTable

/-!
# Properties of characters

A set of characters may be given by the name of a category, of a group of categories or of a
writing system. Capital letters, underscores, hyphens and spaces make no difference in a name.

## Main definitions

- `plainName` — what counts in a name
- `propertyRanges?` — the ranges of the characters with a named property
-/

namespace KeyScript

/-- The value of a numeral in base sixteen. -/
def hexNumber (digits : Bytes) : Nat :=
  digits.foldl (fun n b => n * 16 + (Numeral.hexValue? b).getD 0) 0

/-- Every second number from the first to the last, each as a range of its own. -/
def everySecond (lo hi : Nat) : List (Nat × Nat) :=
  (List.range ((hi - lo) / 2 + 1)).map fun i => (lo + 2 * i, lo + 2 * i)

/-- The ranges that one word of a table stands for. -/
def readRanges (word : Bytes) : List (Nat × Nat) :=
  match Bytes.cut 45 word with
  | (lo, none) => [(hexNumber lo, hexNumber lo)]
  | (lo, some rest) =>
    match Bytes.cut 47 rest with
    | (hi, none) => [(hexNumber lo, hexNumber hi)]
    | (hi, some _) => everySecond (hexNumber lo) (hexNumber hi)

/-- The ranges that some lines of a table stand for. -/
def tableRanges (lines : List String) : List (Nat × Nat) :=
  lines.flatMap fun (line : String) => (Bytes.splitAt 32 line).flatMap readRanges

/-- A name without its separators and in small letters. -/
def plainName (s : Bytes) : Bytes :=
  (s.filter fun b => b != 95 && b != 45 && b != 32).map fun b =>
    if 65 ≤ b && b ≤ 90 then b + 32 else b

/-- The names of categories and groups of categories, with the categories they stand for. -/
def categoryNames : List (List String × List String) :=
  [(["c", "other"], ["Cc", "Cf", "Cn", "Co", "Cs"]), (["cc", "control", "cntrl"], ["Cc"]),
   (["cf", "format"], ["Cf"]), (["cn", "unassigned"], ["Cn"]), (["co", "privateuse"], ["Co"]),
   (["cs", "surrogate"], ["Cs"]), (["l", "letter"], ["Ll", "Lm", "Lo", "Lt", "Lu"]),
   (["lc", "casedletter"], ["Ll", "Lt", "Lu"]), (["ll", "lowercaseletter"], ["Ll"]),
   (["lm", "modifierletter"], ["Lm"]), (["lo", "otherletter"], ["Lo"]),
   (["lt", "titlecaseletter"], ["Lt"]), (["lu", "uppercaseletter"], ["Lu"]),
   (["m", "mark", "combiningmark"], ["Mc", "Me", "Mn"]), (["mc", "spacingmark"], ["Mc"]),
   (["me", "enclosingmark"], ["Me"]), (["mn", "nonspacingmark"], ["Mn"]),
   (["n", "number"], ["Nd", "Nl", "No"]), (["nd", "decimalnumber", "digit"], ["Nd"]),
   (["nl", "letternumber"], ["Nl"]), (["no", "othernumber"], ["No"]),
   (["p", "punctuation", "punct"], ["Pc", "Pd", "Pe", "Pf", "Pi", "Po", "Ps"]),
   (["pc", "connectorpunctuation"], ["Pc"]), (["pd", "dashpunctuation"], ["Pd"]),
   (["pe", "closepunctuation"], ["Pe"]), (["pf", "finalpunctuation"], ["Pf"]),
   (["pi", "initialpunctuation"], ["Pi"]), (["po", "otherpunctuation"], ["Po"]),
   (["ps", "openpunctuation"], ["Ps"]), (["s", "symbol"], ["Sc", "Sk", "Sm", "So"]),
   (["sc", "currencysymbol"], ["Sc"]), (["sk", "modifiersymbol"], ["Sk"]),
   (["sm", "mathsymbol"], ["Sm"]), (["so", "othersymbol"], ["So"]),
   (["z", "separator"], ["Zl", "Zp", "Zs"]), (["zl", "lineseparator"], ["Zl"]),
   (["zp", "paragraphseparator"], ["Zp"]), (["zs", "spaceseparator"], ["Zs"])]

/-- The ranges of a category. -/
def categoryRanges (code : String) : List (Nat × Nat) :=
  tableRanges ((categoryTable.lookup code).getD [])

/-- The ranges of the categories that a plain name stands for. -/
def namedCategory? (plain : Bytes) : Option (List (Nat × Nat)) :=
  (categoryNames.find? fun (names, _) => names.any fun name => plain == (name : Bytes)).map
    fun (_, codes) => codes.flatMap categoryRanges

/-- The ranges of the writing system that a plain name stands for. -/
def namedWritingSystem? (plain : Bytes) : Option (List (Nat × Nat)) :=
  (writingSystemTable.find? fun (name, _) => plain == plainName name).map
    fun (_, lines) => tableRanges lines

/-- The ranges of the characters that have a named property. -/
def propertyRanges? (name : Bytes) : Option (List (Nat × Nat)) :=
  let plain := plainName name
  if plain = "any" then some [(0, 0x10FFFF)]
  else if plain = "ascii" then some [(0, 0x7F)]
  else namedCategory? plain <|> namedWritingSystem? plain

end KeyScript
