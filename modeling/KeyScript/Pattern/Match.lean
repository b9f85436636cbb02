import KeyScript.Pattern.Basic

/-!
# Matching patterns

A pattern matches a text if it matches some part of it. A pattern that is tied to the beginning of
the text, and for which each next character leaves only one way to go on, is compared with the text
byte by byte as far as it begins with letters. There a surrogate, which is no character, is written
as U+FFFD and so matches that character of a text; everywhere else a surrogate matches nothing.

## Main definitions

- `Pattern.items` — a pattern as a sequence, with counted repetitions written out
- `Outlook`, `Pattern.outlook?` — how a match may go on, if that is never in doubt
- `Pattern.isDefinite` — whether each next character leaves only one way to go on
- `Pattern.leadingLetters` — the letters that a pattern begins with
- `Pattern.isMatch` — whether a pattern matches somewhere in a text
-/

namespace KeyScript

namespace Pattern

/-- Up to `n` copies of a pattern, one inside the other. -/
def optionalCopies (p : Pattern) : Nat → Pattern
  | 0 => .empty
  | 1 => .option p
  | n + 1 => .option (.seq p (optionalCopies p n))

/-- A pattern as a sequence of patterns, with counted repetitions written out. -/
def items : Pattern → List Pattern
  | seq p q => p.items ++ q.items
  | times 0 none p => [star p]
  | times 1 none p => [plus p]
  | times (n + 2) none p => (List.replicate (n + 1) p.items).flatten ++ [plus p]
  | times 0 (some 0) _ => [empty]
  | times 1 (some 1) p => p.items
  | times least (some most) p =>
    (List.replicate least p.items).flatten ++
      (if most > least then [p.optionalCopies (most - least)] else [])
  | p => [p]

/-- Whether a pattern matches the empty text, apart from conditions on the position. -/
def isNullable : Pattern → Bool
  | empty | anchor _ | star _ | option _ => true
  | one _ => false
  | group p | plus p => p.isNullable
  | seq p q => p.isNullable && q.isNullable
  | alt p q => p.isNullable || q.isNullable
  | times least _ p => least == 0 || p.isNullable

/-- The number of steps in a pattern. -/
def stepCount : Pattern → Nat
  | empty | anchor _ | one _ => 1
  | group p => p.stepCount + 2
  | seq p q => p.stepCount + q.stepCount
  | alt p q => p.stepCount + q.stepCount + 1
  | star p => p.stepCount + (if p.isNullable then 2 else 1)
  | plus p | option p => p.stepCount + 1
  | times 0 none p => p.stepCount + (if p.isNullable then 2 else 1)
  | times least none p => least * p.stepCount + 1
  | times _ (some 0) _ => 1
  | times least (some most) p => most * p.stepCount + (most - least)

/-- Whether there is a choice in a pattern. -/
def hasChoice : Pattern → Bool
  | empty | anchor _ | one _ => false
  | group p => p.hasChoice
  | seq p q => p.hasChoice || q.hasChoice
  | alt _ _ | star _ | plus _ | option _ => true
  | times least most p => most != some 0 && (most != some least || p.hasChoice)

/-- The conditions on the position at the very end of a pattern; nothing for an end without one. -/
def lastConditions : Pattern → List (Option Anchor)
  | anchor a => [some a]
  | seq _ q => q.lastConditions
  | alt p q => p.lastConditions ++ q.lastConditions
  | times least most p => if most = some least && least > 0 then p.lastConditions else [none]
  | _ => [none]

end Pattern

/-- How a match may go on: the characters that may come next, and whether it may be over. -/
structure Outlook where
  next : CharSet
  mayEnd : Bool
deriving DecidableEq, Repr, Inhabited

/-- The outlook of a choice between two ways to go on, if the next character decides it. -/
def Outlook.join? (a b : Outlook) : Option Outlook :=
  if (a.mayEnd && b.mayEnd) || a.next.meets b.next then none
  else some ⟨a.next.union b.next, a.mayEnd || b.mayEnd⟩

namespace Pattern

/-- The characters that a match of a pattern may begin with. -/
def firstChars : Pattern → CharSet
  | empty | anchor _ => .empty
  | one set => set
  | group p | star p | plus p | option p => p.firstChars
  | seq p q => if p.isNullable then p.firstChars.union q.firstChars else p.firstChars
  | alt p q => p.firstChars.union q.firstChars
  | times _ most p => if most = some 0 then .empty else p.firstChars

/-- How a match of a pattern may go on if `after` tells how it may go on behind the pattern; nothing
if that is in doubt at some place. -/
def outlook? : Pattern → (after : Outlook) → Option Outlook
  | empty, after | anchor _, after => some after
  | one set, _ => some ⟨set, false⟩
  | group p, after => p.outlook? after
  | seq p q, after => do p.outlook? (← q.outlook? after)
  | alt p q, after => do (← p.outlook? after).join? (← q.outlook? after)
  | option p, after => do (← p.outlook? after).join? after
  | star p, after => repeated p p.outlook? after
  | plus p, after => do p.outlook? (← repeated p p.outlook? after)
  | times least most p, after => do
    let more ←
      match most with
      | none => repeated p p.outlook? after
      | some most => optional p.outlook? (most - least) after
    counted p.outlook? least more
where
  /-- Any number of copies of a pattern that cannot be empty. -/
  repeated (p : Pattern) (outlook : Outlook → Option Outlook) (after : Outlook) :
      Option Outlook := do
    if p.isNullable then none
    else
      let again ← Outlook.join? ⟨p.firstChars, false⟩ after
      (← outlook again).join? after
  /-- At most so many copies of a pattern. -/
  optional (outlook : Outlook → Option Outlook) : Nat → Outlook → Option Outlook
    | 0, after => some after
    | n + 1, after => do (← outlook (← optional outlook n after)).join? after
  /-- So many copies of a pattern. -/
  counted (outlook : Outlook → Option Outlook) : Nat → Outlook → Option Outlook
    | 0, after => some after
    | n + 1, after => do outlook (← counted outlook n after)

/-- Whether each next character of a text leaves only one way to go on in a pattern. A pattern with
a choice must end at the end of the text on all ways. -/
def isDefinite (p : Pattern) : Bool :=
  (p.lastConditions.all fun condition =>
    condition == some .endText || (condition == none && !p.hasChoice)) &&
  (p.outlook? ⟨.empty, true⟩).isSome

/-- The letters that a sequence of patterns begins with, and the rest of the sequence. U+FFFD does
not count as a letter, since it stands for bytes of many kinds. -/
def leadingLetters : List Pattern → List Nat × List Pattern
  | [] => ([], [])
  | one set :: rest =>
    match set.single? with
    | some n =>
      if n = replacement.toNat then ([], one set :: rest)
      else
        let (letters, after) := leadingLetters rest
        (n :: letters, after)
    | none => ([], one set :: rest)
  | plus p :: rest =>
    let (letters, after) := ownLetters p.items
    (letters, after ++ star p :: rest)
  | items => ([], items)
where
  /-- The letters that the copies of a repeated pattern begin with, and what is behind them. -/
  ownLetters : List Pattern → List Nat × List Pattern
    | [] => ([], [])
    | one set :: rest =>
      match set.single? with
      | some n =>
        if n = replacement.toNat then ([], one set :: rest)
        else
          let (letters, after) := ownLetters rest
          (n :: letters, after)
      | none => ([], one set :: rest)
    | items => ([], items)

/-- The UTF-8 bytes of a letter, which are those of U+FFFD for a surrogate. -/
def letterBytes (n : Nat) : Bytes :=
  encode (if n.isValidChar then Char.ofNat n else replacement)

/-- The number of steps from which on a pattern is not compared byte by byte. -/
def maxSteps : Nat := 998

/-- The letters with surrogates among them that a pattern which is tied to the beginning of the text
begins with, and the rest of the pattern, if these letters are to be compared byte by byte. -/
def surrogateStart? (p : Pattern) : Option (List Nat × List Pattern) :=
  if p.stepCount ≥ maxSteps then none
  else match p.items with
  | anchor .beginText :: rest =>
    let (letters, after) := leadingLetters (rest.dropWhile (· == empty))
    if (letters.any fun n => !n.isValidChar) && p.isDefinite then some (letters, after) else none
  | _ => none

/-- Whether a pattern matches somewhere in a text. -/
def isMatch (p : Pattern) (text : Bytes) : Bool :=
  let chars := text.chars.toArray
  match p.surrogateStart? with
  | some (letters, after) =>
    text.startsWith (letters.flatMap letterBytes) &&
      !(after.foldl (fun positions q => q.ends chars positions) [letters.length]).isEmpty
  | none => !(p.ends chars (List.range (chars.size + 1))).isEmpty

end Pattern

end KeyScript
