import KeyScript.Pattern.CharSet
import KeyScript.Text.Property

/-!
# Named sets of characters

The sets that patterns know by a letter after a backslash or by a name in square brackets, which are
sets of ASCII characters or complements of such sets, and the sets given by a property.

## Main definitions

- `NamedSet` — a set that is known by a name
- `NamedSet.toSet` — the set itself, possibly up to case
- `letterSet?` — the set for a letter after a backslash
- `namedSet?` — the set for a name
- `propertySet?` — the set for a property
-/

namespace KeyScript

/-- A set that is known by a name. -/
structure NamedSet where
  ranges : List (Nat × Nat)
  /-- Whether the characters outside the ranges are meant. -/
  negated : Bool := false
  /-- Whether case always counts in the set. -/
  keepsCase : Bool := false
deriving DecidableEq, Repr, Inhabited

/-- The set that is meant, possibly up to case. -/
def NamedSet.toSet (s : NamedSet) (fold : Bool) : CharSet :=
  let base := CharSet.ofRanges s.ranges
  let folded := if fold && !s.keepsCase then base.upToCase else base
  if s.negated then folded.complement else folded

/-- The set for a letter after a backslash; a capital letter means the complement. -/
def letterSet? (letter : Char) : Option NamedSet :=
  match letter with
  | 'd' => some { ranges := digits }
  | 'D' => some { ranges := digits, negated := true }
  | 's' => some { ranges := spaces }
  | 'S' => some { ranges := spaces, negated := true }
  | 'w' => some { ranges := words }
  | 'W' => some { ranges := words, negated := true }
  | _ => none
where
  /-- The decimal digits. -/
  digits : List (Nat × Nat) := [(0x30, 0x39)]
  /-- Tab, line feed, form feed, carriage return and space. -/
  spaces : List (Nat × Nat) := [(0x09, 0x0A), (0x0C, 0x0D), (0x20, 0x20)]
  /-- Letters, digits and the underscore. -/
  words : List (Nat × Nat) := [(0x30, 0x39), (0x41, 0x5A), (0x5F, 0x5F), (0x61, 0x7A)]

/-- The sets with a name. -/
def namedSets : List (Bytes × List (Nat × Nat)) :=
  [("alnum", [(0x30, 0x39), (0x41, 0x5A), (0x61, 0x7A)]), ("alpha", [(0x41, 0x5A), (0x61, 0x7A)]),
   ("ascii", [(0, 0x7F)]), ("blank", [(0x09, 0x09), (0x20, 0x20)]),
   ("cntrl", [(0, 0x1F), (0x7F, 0x7F)]), ("digit", [(0x30, 0x39)]), ("graph", [(0x21, 0x7E)]),
   ("lower", [(0x61, 0x7A)]), ("print", [(0x20, 0x7E)]),
   ("punct", [(0x21, 0x2F), (0x3A, 0x40), (0x5B, 0x60), (0x7B, 0x7E)]),
   ("space", [(0x09, 0x0D), (0x20, 0x20)]), ("upper", [(0x41, 0x5A)]),
   ("word", [(0x30, 0x39), (0x41, 0x5A), (0x5F, 0x5F), (0x61, 0x7A)]),
   ("xdigit", [(0x30, 0x39), (0x41, 0x46), (0x61, 0x66)])]

/-- The set with a name; a caret before the name means the complement. -/
def namedSet? (name : Bytes) : Option NamedSet :=
  match name with
  | 94 :: rest => (namedSets.lookup rest).map fun ranges => { ranges, negated := true }
  | _ => (namedSets.lookup name).map fun ranges => { ranges }

/-- The names of the property of being a letter with case, in which case always counts. -/
def casedLetterNames : List Bytes := ["lc", "casedletter"]

/-- The set for the name of a property, or the complement of it; a caret before the name means the
complement once more. -/
def propertySet? (negated : Bool) (name : Bytes) : Option NamedSet :=
  let (negated, name) : Bool × Bytes :=
    match name with
    | 94 :: rest => (!negated, rest)
    | _ => (negated, name)
  if plainName name = "assigned" then
    some { ranges := categoryRanges "Cn", negated := !negated }
  else (propertyRanges? name).map fun ranges =>
    { ranges, negated, keepsCase := casedLetterNames.contains (plainName name) }

end KeyScript
