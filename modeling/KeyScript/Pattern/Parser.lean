import KeyScript.Pattern.CharSets
import KeyScript.Pattern.Grouping
import KeyScript.Text.Numeral

/-!
# Reading patterns

The notation of patterns, read from left to right. The first fault met is reported together with
its fragment; for a pattern that exceeds a limit this is the whole pattern.

## Main definitions

- `PatternReader.State` — what has been read so far
- `PatternReader.step` — reads the next item
- `Pattern.parse` — reads a whole pattern
-/

namespace KeyScript.PatternReader

/-- What has been read so far. -/
structure State where
  whole : Bytes
  /-- What is still to be read. -/
  rest : List Rune
  draft : Draft := {}
  /-- What was still to be read before the last item, if that was a repetition. -/
  lastRepeat : Option (List Rune) := none
deriving Repr, Inhabited

/-- The flags in force. -/
def State.flags (s : State) : Flags := s.draft.flags

/-- Adds an item to the draft, behind which `rest` is still to be read. -/
def State.add (s : State) (item : Drafting Unit) (rest : List Rune) : Except PatternError State :=
  match item.run s.draft with
  | .ok (_, draft) => .ok { s with rest, draft, lastRepeat := none }
  | .error fault => .error ⟨fault, s.whole⟩

/-- Adds a set to the draft. -/
def State.addSet (s : State) (set : CharSet) (rest : List Rune) : Except PatternError State :=
  s.add (pushNew (.set set)) rest

/-- A fault and the part of a text before its remainder `after`. -/
def failAt (fault : PatternFault) (start after : List Rune) : Except PatternError α :=
  .error ⟨fault, Rune.join (start.take (start.length - after.length))⟩

/-- The next character, which must be well formed. -/
def nextChar (rest : List Rune) : Except PatternError (Option Char × List Rune) :=
  match rest with
  | [] => .ok (none, [])
  | r :: after =>
    if r.isWellFormed then .ok (some r.char, after) else .error ⟨.encoding, Rune.join rest⟩

/-- The first character of what is still to be read. -/
def peek (rest : List Rune) : Option Char := rest.head?.map Rune.char

/-- The fault of a text that is not well formed, from its first bad place on. -/
def checkEncoding (text : List Rune) : Except PatternError Unit :=
  if text.all Rune.isWellFormed then .ok ()
  else .error ⟨.encoding, Rune.join (text.dropWhile Rune.isWellFormed)⟩

/-- The value of a digit in some base up to sixteen. -/
def digitValue? (base : Nat) (c : Char) : Option Nat :=
  (Numeral.hexValue? (if c.toNat < 0x80 then UInt8.ofNat c.toNat else 0)).filter (· < base)

/-- Up to `n` more octal digits behind a value. -/
def octalDigits : Nat → Nat → List Rune → Nat × List Rune
  | 0, value, rest => (value, rest)
  | n + 1, value, rest =>
    match (peek rest).bind (digitValue? 8) with
    | some d => octalDigits n (value * 8 + d) rest.tail
    | none => (value, rest)

/-- The digits of a number in braces, with the closing brace. -/
def bracedHex (start : List Rune) :
    (count value : Nat) → List Rune → Except PatternError (Nat × List Rune)
  | _, _, [] => failAt .escape start []
  | count, value, r :: rest => do
    let (_, _) ← nextChar (r :: rest)
    if r.char = '\x7d' then
      if count = 0 then failAt .escape start rest else return (value, rest)
    else match digitValue? 16 r.char with
      | none => failAt .escape start rest
      | some d =>
        if value * 16 + d > 0x10FFFF then failAt .escape start rest
        else bracedHex start (count + 1) (value * 16 + d) rest

/-- A number in base sixteen after a backslash and an x. -/
def hexEscape (start rest : List Rune) : Except PatternError (Nat × List Rune) := do
  if rest.isEmpty then failAt .escape start rest
  else
    let (first, after) ← nextChar rest
    if first = some '\x7b' then bracedHex start 0 0 after
    else
      let (second, last) ← nextChar after
      match first.bind (digitValue? 16), second.bind (digitValue? 16) with
      | some x, some y => return (x * 16 + y, last)
      | _, _ => failAt .escape start last

/-- The control character for a letter after a backslash. -/
def controlChar? (c : Char) : Option Nat :=
  match c with
  | 'a' => some 7
  | 'f' => some 12
  | 'n' => some 10
  | 'r' => some 13
  | 't' => some 9
  | 'v' => some 11
  | _ => none

/-- Whether a character is a letter or digit of ASCII. -/
def isAlphanumeric (c : Char) : Bool :=
  ('a' ≤ c && c ≤ 'z') || ('A' ≤ c && c ≤ 'Z') || ('0' ≤ c && c ≤ '9')

/-- The character number for an escape; `start` begins with the backslash. -/
def readEscape (start : List Rune) : Except PatternError (Nat × List Rune) := do
  match ← nextChar start.tail with
  | (none, _) => .error ⟨.trailingBackslash, []⟩
  | (some c, rest) =>
    if c.toNat < 0x80 && !isAlphanumeric c then return (c.toNat, rest)
    else if c = '0' then return octalDigits 2 0 rest
    else if c = 'x' then hexEscape start rest
    else match digitValue? 8 c, (peek rest).bind (digitValue? 8), controlChar? c with
      | some d, some _, _ => return octalDigits 2 d rest
      | _, _, some n => return (n, rest)
      | _, _, _ => failAt .escape start rest

/-- The name in front of the next `:]`, and what is behind it. -/
def untilColonBracket : List Rune → Option (List Rune × List Rune)
  | [] => none
  | [_] => none
  | a :: b :: rest =>
    if a.char = ':' && b.char = ']' then some ([], rest)
    else (untilColonBracket (b :: rest)).map fun (name, after) => (a :: name, after)

/-- A named set inside square brackets, if there is one. -/
def readNamedSet (rest : List Rune) : Except PatternError (Option (NamedSet × List Rune)) :=
  match rest with
  | a :: b :: body =>
    if a.char = '[' && b.char = ':' then
      match untilColonBracket body with
      | none => .ok none
      | some (name, after) =>
        match namedSet? (Rune.join name) with
        | some item => .ok (some (item, after))
        | none => failAt .charRange rest after
    else .ok none
  | _ => .ok none

/-- A set given by a letter after a backslash, if there is one. -/
def readLetterSet (rest : List Rune) : Option (NamedSet × List Rune) :=
  match rest with
  | a :: b :: after =>
    if a.char = '\\' then (letterSet? b.char).map fun item => (item, after) else none
  | _ => none

/-- The part of a list up to the first occurrence of a character, and what is behind it. -/
def cutAtChar (c : Char) : List Rune → Option (List Rune × List Rune)
  | [] => none
  | r :: rest =>
    if r.char = c then some ([], rest)
    else (cutAtChar c rest).map fun (before, after) => (r :: before, after)

/-- A set given by a property of its characters, if there is one: a backslash, the letter p and the
name of the property, in braces unless it is a single character. -/
def readProperty (rest : List Rune) : Except PatternError (Option (NamedSet × List Rune)) :=
  match rest with
  | a :: b :: body =>
    if a.char = '\\' && (b.char = 'p' || b.char = 'P') then do
      let (name, after) ←
        match ← nextChar body with
        | (none, _) => pure ([], [])
        | (some '\x7b', inner) =>
          match cutAtChar '\x7d' inner with
          | none =>
            checkEncoding rest
            failAt .charRange rest []
          | some (name, after) =>
            checkEncoding name
            pure (name, after)
        | (some _, after) => pure (body.take 1, after)
      match propertySet? (b.char == 'P') (Rune.join name) with
      | some item => return some (item, after)
      | none => failAt .charRange rest after
    else .ok none
  | _ => .ok none

/-- One character of a set in square brackets; `whole` begins with the opening bracket. -/
def readClassChar (whole rest : List Rune) : Except PatternError (Nat × List Rune) := do
  match rest with
  | [] => .error ⟨.missingBracket, Rune.join whole⟩
  | r :: _ =>
    if r.char = '\\' then readEscape rest
    else
      let (_, after) ← nextChar rest
      return (r.char.toNat, after)

/-- One character or one range of a set in square brackets. -/
def readClassRange (whole rest : List Rune) : Except PatternError (NamedSet × List Rune) := do
  let (lo, after) ← readClassChar whole rest
  match after with
  | dash :: next :: more =>
    if dash.char = '-' && next.char ≠ ']' then
      let (hi, last) ← readClassChar whole (next :: more)
      if hi < lo then failAt .charRange rest last
      else return ({ ranges := [(lo, hi)] }, last)
    else return ({ ranges := [(lo, lo)] }, after)
  | _ => return ({ ranges := [(lo, lo)] }, after)

/-- One item of a set in square brackets. -/
def readClassItem (whole rest : List Rune) : Except PatternError (NamedSet × List Rune) := do
  match ← readNamedSet rest with
  | some found => return found
  | none =>
    match ← readProperty rest with
    | some found => return found
    | none =>
      match readLetterSet rest with
      | some found => return found
      | none => readClassRange whole rest

/-- The items of a set up to its closing bracket, which cannot come `first`. Each item takes at
least one character, so that as many rounds as there are characters are enough. -/
def readClassItems (whole : List Rune) :
    (fuel : Nat) → (first : Bool) → List Rune → Except PatternError (List NamedSet × List Rune)
  | 0, _, _ => .error ⟨.missingBracket, Rune.join whole⟩
  | fuel + 1, first, rest => do
    if !first && peek rest == some ']' then return ([], rest.tail)
    else
      let (item, after) ← readClassItem whole rest
      let (items, last) ← readClassItems whole fuel false after
      return (item :: items, last)

/-- A set in square brackets; `whole` begins with the opening bracket. -/
def readClass (fold : Bool) (whole : List Rune) : Except PatternError (CharSet × List Rune) := do
  let body := whole.tail
  let negated := peek body == some '^'
  let (items, rest) ←
    readClassItems whole (whole.length + 1) true (if negated then body.tail else body)
  let union := CharSet.ofRanges (items.flatMap fun item => (item.toSet fold).ranges)
  return (if negated then union.complement else union, rest)

/-- A number without superfluous zeros. Numbers from 10^8 on count as too large. -/
def readCount (rest : List Rune) : Option (Nat × List Rune) :=
  let digits := rest.takeWhile fun r => (digitValue? 10 r.char).isSome
  match digits with
  | [] => none
  | first :: more =>
    if first.char = '0' && !more.isEmpty then none
    else some (Numeral.valueOf (Rune.join digits), rest.drop digits.length)

/-- The bounds of a repetition in braces, without the opening brace. -/
def readBounds (rest : List Rune) : Option (Nat × Option Nat × List Rune) := do
  let (least, after) ← readCount rest
  if peek after == some ',' then
    if peek after.tail == some '\x7d' then return (least, none, after.tail.tail)
    else
      let (most, last) ← readCount after.tail
      if peek last == some '\x7d' then return (least, some most, last.tail) else none
  else if peek after == some '\x7d' then return (least, some least, after.tail)
  else none

/-- The greatest number of copies that counted repetitions may ask for. -/
def maxCopies : Nat := 1000

/-- Applies a repetition to the last item; `before` begins with the operator and `after` is what is
behind it. The operator itself says whether the repetition is lazy, unless it is `reversed`. -/
def State.repeatLast (s : State) (make : Bool → PieceKind) (counted : Bool)
    (before after : List Rune) : Except PatternError State := do
  let reversed := peek after == some '?'
  let after := if reversed then after.tail else after
  match s.lastRepeat with
  | some start => failAt .nestedRepeat start after
  | none =>
    let bounded := repeatTop (make (s.flags.lazy != reversed)) maxCopies
    match (do if ← hasPiece then return some (← bounded) else return none).run s.draft with
    | .error fault => .error ⟨fault, s.whole⟩
    | .ok (none, _) => failAt .missingRepeatArgument before after
    | .ok (some isWithin, draft) =>
      if counted && !isWithin then failAt .repeatCount before after
      else return { s with rest := after, draft, lastRepeat := some before }

/-- A repetition in braces, or a brace by itself. -/
def State.readBraces (s : State) (before : List Rune) : Except PatternError State :=
  match readBounds before.tail with
  | none => s.add (pushChar 0x7B) before.tail
  | some (least, most, after) =>
    if least > maxCopies || most.any (fun m => m > maxCopies || m < least) then
      failAt .repeatCount before after
    else
      s.repeatLast (.times least most) (least ≥ 2 || most.any (· ≥ 2)) before after

/-- Whether a name may name a group. -/
def isGroupName (name : List Rune) : Bool :=
  !name.isEmpty && name.all fun r => r.char = '_' || isAlphanumeric r.char

/-- A named group; `name` is what is behind its angle bracket. -/
def State.openNamed (s : State) (start name : List Rune) : Except PatternError State := do
  match cutAtChar '>' name with
  | none =>
    checkEncoding start
    .error ⟨.namedCapture, Rune.join start⟩
  | some (word, after) =>
    checkEncoding word
    if isGroupName word then s.add (openGroup true s.flags) after
    else failAt .namedCapture start after

/-- The letters between a question mark and the colon or parenthesis that ends them. `negative` says
whether the letters switch flags off and `seen` whether there was a letter since the sign. -/
def State.readFlags (s : State) (start : List Rune) :
    (negative seen : Bool) → Flags → List Rune → Except PatternError State
  | _, _, _, [] => failAt .groupFlags start []
  | negative, seen, flags, r :: rest => do
    let (_, _) ← nextChar (r :: rest)
    match r.char with
    | 'i' => s.readFlags start negative true { flags with fold := !negative } rest
    | 'm' => s.readFlags start negative true { flags with multiline := !negative } rest
    | 's' => s.readFlags start negative true { flags with dotAll := !negative } rest
    | 'U' => s.readFlags start negative true { flags with lazy := !negative } rest
    | '-' =>
      if negative then failAt .groupFlags start rest else s.readFlags start true false flags rest
    | ':' =>
      if negative && !seen then failAt .groupFlags start rest
      else s.add (openGroup false flags) rest
    | ')' =>
      if negative && !seen then failAt .groupFlags start rest
      else s.add (modify fun draft => { draft with flags }) rest
    | _ => failAt .groupFlags start rest

/-- What follows an opening parenthesis. -/
def State.readGroup (s : State) (start : List Rune) : Except PatternError State :=
  match start with
  | _ :: question :: body =>
    if question.char = '?' then
      match body with
      | a :: b :: c :: name =>
        if a.char = 'P' && b.char = '<' then s.openNamed start (c :: name)
        else if a.char = '<' then s.openNamed start (b :: c :: name)
        else s.readFlags start false false s.flags body
      | [a, b] =>
        if a.char = '<' then s.openNamed start [b] else s.readFlags start false false s.flags body
      | _ => s.readFlags start false false s.flags body
    else s.add (openGroup true s.flags) start.tail
  | _ => s.add (openGroup true s.flags) start.tail

/-- The part of a list up to the first `\E`, and what is behind it. -/
def cutLiteral : List Rune → List Rune × List Rune
  | [] => ([], [])
  | [r] => ([r], [])
  | a :: b :: rest =>
    if a.char = '\\' && b.char = 'E' then ([], rest)
    else
      let (lit, after) := cutLiteral (b :: rest)
      (a :: lit, after)

/-- Adds literal characters to the draft; `rest` is what is behind them. -/
def State.addLiteral (s : State) (rest : List Rune) : List Rune → Except PatternError State
  | [] => .ok { s with rest, lastRepeat := none }
  | r :: lit => do
    let (_, _) ← nextChar (r :: lit)
    (← s.add (pushChar r.char.toNat) rest).addLiteral rest lit

/-- What follows a backslash; `start` begins with it. -/
def State.readBackslash (s : State) (start : List Rune) : Except PatternError State :=
  let after := start.tail.tail
  match peek start.tail with
  | some 'A' => s.add (pushNew (.anchor .beginText)) after
  | some 'b' => s.add (pushNew (.anchor .wordBoundary)) after
  | some 'B' => s.add (pushNew (.anchor .noWordBoundary)) after
  | some 'C' => failAt .escape start after
  | some 'Q' =>
    let (lit, rest) := cutLiteral after
    s.addLiteral rest lit
  | some 'z' => s.add (pushNew (.anchor .endText)) after
  | _ => do
    match ← readProperty start with
    | some (item, rest) => s.addSet (item.toSet s.flags.fold) rest
    | none =>
      match readLetterSet start with
      | some (item, rest) => s.addSet (item.toSet s.flags.fold) rest
      | none =>
        let (n, rest) ← readEscape start
        s.add (pushChar n) rest

/-- Reads the next item of a pattern. -/
def step (s : State) : Except PatternError State :=
  match s.rest with
  | [] => .ok s
  | r :: after =>
    match r.char with
    | '(' => s.readGroup s.rest
    | ')' => s.add closeGroup after
    | '|' => s.add nextAlternative after
    | '^' =>
      s.add (pushNew (.anchor (if s.flags.multiline then .beginLine else .beginText))) after
    | '$' => s.add (pushNew (.anchor (if s.flags.multiline then .endLine else .endText))) after
    | '.' => s.add (pushNew (if s.flags.dotAll then .any else .anyButNewline)) after
    | '[' => do
      let (set, rest) ← readClass s.flags.fold s.rest
      s.addSet set rest
    | '*' => s.repeatLast (fun _ => .star) false s.rest after
    | '+' => s.repeatLast (fun _ => .plus) false s.rest after
    | '?' => s.repeatLast (fun _ => .option) false s.rest after
    | '\x7b' => s.readBraces s.rest
    | '\\' => s.readBackslash s.rest
    | c => do
      let (_, _) ← nextChar s.rest
      s.add (pushChar c.toNat) after

/-- Reads items until nothing is left. Each item takes at least one character, so that as many
rounds as there are characters are enough. -/
def steps : (fuel : Nat) → State → Except PatternError State
  | 0, s => .ok s
  | fuel + 1, s => do if s.rest.isEmpty then return s else steps fuel (← step s)

end PatternReader

open PatternReader in
/-- Reads a pattern. -/
def Pattern.parse (text : Bytes) : Except PatternError Pattern := do
  let rest := runes text
  let s ← steps (rest.length + 1) { whole := text, rest }
  match finishDraft.run s.draft with
  | .ok (p, _) => return p.toPattern
  | .error fault => .error ⟨fault, text⟩

end KeyScript
