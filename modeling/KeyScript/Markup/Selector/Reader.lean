import KeyScript.Markup.Selector.Basic

/-!
# Reading selectors

A list of selectors is read token by token. Two compounds without a combinator between them are
joined as if there were white space.

## Main definitions

- `Reading` — a step of the reader
- `readCompound?`, `readComplex` — parts of a selector
- `parseSelector` — reads a list of selectors
-/

namespace KeyScript.Markup

/-- A step of the reader, with the tokens that are left. The last of them stays. -/
abbrev Reading := StateT (List SelectorToken) (Except SelectorError)

namespace Reading

/-- The token at a place in front of the reader, which may not be a faulty one. -/
def peekAt (n : Nat) : Reading SelectorToken := do
  let tokens ← get
  let t := tokens[n]?.getD (tokens.getLastD default)
  match t.kind with
  | .faulty fault => throw ⟨.badToken fault, t.place⟩
  | _ => return t

/-- The next token. -/
def peek : Reading SelectorToken := peekAt 0

/-- Passes over tokens. -/
def skip (n : Nat) : Reading Unit :=
  modify fun tokens => tokens.drop (min n (tokens.length - 1))

/-- Takes the next token. -/
def next : Reading SelectorToken := do
  let t ← peek
  skip 1
  return t

/-- Fails at a token. -/
def failAt (t : SelectorToken) (fault : SelectorFault) : Reading α := throw ⟨fault, t.place⟩

end Reading

open Reading

/-- Whether a token is a mark. -/
def SelectorToken.isMark (t : SelectorToken) (text : Bytes) : Bool :=
  t.kind == .mark && t.text == text

/-- Whether a token is a name or stands for any name. -/
def SelectorToken.isNameOrAny (t : SelectorToken) : Bool := t.kind == .name || t.isMark "*"

/-- The name that a token stands for; nothing if it stands for any name. -/
def SelectorToken.name? (t : SelectorToken) : Option Bytes :=
  if t.kind = .name then some t.text else none

/-- A name with what is in front of it, if there is one here. -/
def readQualifiedName? : Reading (Option QualifiedName) := do
  let first ← peek
  if first.isNameOrAny then
    let second ← peekAt 1
    if second.isMark "|" then
      let third ← peekAt 2
      if third.isNameOrAny then
        skip 3
        return some { label := first.name?, name := third.name?, place := third.place }
    skip 1
    return some { name := first.name?, place := first.place }
  else if first.isMark "|" then
    let second ← peekAt 1
    if second.isNameOrAny then
      skip 2
      return some { label := some [], name := second.name?, place := second.place }
    else return none
  else return none

/-- The comparisons that marks stand for. -/
def testOf? (mark : Bytes) : Option (Bytes → AttributeTest) :=
  if mark = "~" then some .hasWord
  else if mark = "|" then some .equalsOrDash
  else if mark = "^" then some .startsWith
  else if mark = "$" then some .endsWith
  else if mark = "*" then some .contains
  else none

/-- A comparison without its value. -/
def readMatcher : Reading (Bytes → AttributeTest) := do
  let t ← next
  if t.isMark "=" then return .equals
  else match if t.kind = .mark then testOf? t.text else none with
    | none => failAt t .expectedMatcher
    | some make =>
      let equals ← next
      if equals.isMark "=" then return make else failAt equals .expectedEquals

/-- The value that an attribute is compared with: a name or a text in quotes. -/
def readValueText : Reading Bytes := do
  let t ← next
  match t.kind with
  | .name | .quoted => return t.text
  | _ => failAt t .expectedValue

/-- Whether a comparison ignores case. -/
def readCase : Reading Bool := do
  let t ← peek
  if t.kind = .name && t.text.isOneOf ["i", "I", "s", "S"] then
    skip 1
    return t.text.isOneOf ["i", "I"]
  else return false

/-- A condition on an attribute, from behind its opening bracket on. -/
def readAttributeCondition : Reading Condition := do
  let start ← peek
  match ← readQualifiedName? with
  | none => failAt start .expectedIdentifier
  | some key =>
    if key.name.isNone then failAt start .expectedIdentifier
    if (← peek).kind = .bracketClose then
      skip 1
      return .hasAttribute key .present false
    let make ← readMatcher
    let value ← readValueText
    let ignoresCase ← readCase
    let close ← next
    if close.kind = .bracketClose then return .hasAttribute key (make value) ignoresCase
    else failAt close .expectedBracket

/-- The kind of token that closes what a token opens. -/
def TokenKind.closing? : TokenKind → Option TokenKind
  | function | parenOpen => some .parenClose
  | bracketOpen => some .bracketClose
  | braceOpen => some .braceClose
  | _ => none

/-- The tokens up to the one that closes the innermost of some openings, and those up to the ends of
the others; one for the end of the text stands in place of the last. -/
def readEnclosed : (fuel : Nat) → (closing : List TokenKind) → Reading (List SelectorToken)
  | 0, _ => return []
  | _, [] => return []
  | fuel + 1, close :: outer => do
    let t ← next
    if t.kind = .finish then failAt t (.unmatched close)
    else if t.kind = close then
      if outer.isEmpty then return [⟨.finish, [], t.place⟩]
      else return t :: (← readEnclosed fuel outer)
    else match t.kind.closing? with
      | some inner => return t :: (← readEnclosed fuel (inner :: close :: outer))
      | none => return t :: (← readEnclosed fuel (close :: outer))

/-- The tokens between the parentheses of a function. If there are none, their end has no place. -/
def readArguments : Reading (List SelectorToken) := do
  let tokens ← readEnclosed (← get).length [.parenClose]
  return if tokens.length ≤ 1 then [⟨.finish, [], 0⟩] else tokens

/-- The condition that a name behind a colon stands for. -/
def stateOf? (name : Bytes) : Option Condition :=
  let one : Progression := ⟨0, 1⟩
  if name = "empty" then some .isEmpty
  else if name = "root" then some .isRoot
  else if name = "first-child" then some (.isNumbered {} one)
  else if name = "last-child" then some (.isNumbered { fromEnd := true } one)
  else if name = "only-child" then some (.isOnly false)
  else if name = "first-of-type" then some (.isNumbered { ofType := true } one)
  else if name = "last-of-type" then some (.isNumbered { ofType := true, fromEnd := true } one)
  else if name = "only-of-type" then some (.isOnly true)
  else none

/-- The way of counting that a name with an opening parenthesis stands for. -/
def countingOf? (name : Bytes) : Option Counting :=
  if name = "nth-child(" then some {}
  else if name = "nth-last-child(" then some { fromEnd := true }
  else if name = "nth-of-type(" then some { ofType := true }
  else if name = "nth-last-of-type(" then some { ofType := true, fromEnd := true }
  else none

/-- The condition behind a colon. -/
def readState (colon : SelectorToken) : Reading Condition := do
  let t ← next
  let unknown := Condition.faulty ⟨.unsupportedPseudo t.text, colon.place⟩
  match t.kind with
  | .name => return (stateOf? t.text).getD unknown
  | .function =>
    let arguments ← readArguments
    match countingOf? t.text with
    | none => return unknown
    | some counting =>
      match Progression.read arguments with
      | .ok numbers => return .isNumbered counting numbers
      | .error fault => return .faulty ⟨.badProgression fault, colon.place⟩
  | _ => failAt t .expectedFunction

/-- The next condition of a compound, if there is one. -/
def readCondition? : Reading (Option Condition) := do
  let t ← peek
  match t.kind with
  | .hash =>
    skip 1
    return some (.hasId t.text)
  | .bracketOpen =>
    skip 1
    return some (← readAttributeCondition)
  | .colon =>
    if (← peekAt 1).kind = .colon then return none
    else
      skip 1
      return some (← readState t)
  | .mark =>
    if t.text = "." then
      skip 1
      let name ← next
      if name.kind = .name then return some (.hasClass name.text)
      else failAt name .expectedIdentifier
    else return none
  | _ => return none

/-- The conditions of a compound. -/
def readConditions : (fuel : Nat) → Reading (List Condition)
  | 0 => return []
  | fuel + 1 => do
    match ← readCondition? with
    | none => return []
    | some c => return c :: (← readConditions fuel)

/-- The names of parts that are not elements, each with the states behind it; answers whether there
is one. -/
def readParts : (fuel : Nat) → (hasPart : Bool) → Reading Bool
  | 0, hasPart => return hasPart
  | fuel + 1, hasPart => do
    let t ← peek
    if t.kind ≠ .colon then return hasPart
    let second ← peekAt 1
    if hasPart || second.kind = .colon then
      skip (if second.kind = .colon then 2 else 1)
      discard (readState t)
      readParts fuel true
    else return hasPart

/-- A compound, if there is one here. -/
def readCompound? : Reading (Option Compound) := do
  let start ← peek
  let fuel := (← get).length
  let name ← readQualifiedName?
  let conditions ← readConditions fuel
  let hasPart ← readParts fuel false
  if name.isNone && conditions.isEmpty && !hasPart then return none
  else return some { place := start.place, name, conditions, hasPart }

/-- A compound, which must be here. -/
def readCompound : Reading Compound := do
  let start ← peek
  match ← readCompound? with
  | some c => return c
  | none => failAt start .expectedCompound

/-- A combinator, if there is one here. -/
def readCombinator? : Reading (Option Combinator) := do
  let t ← peek
  if t.isMark ">" then
    skip 1
    return some .child
  else if t.isMark "+" then
    skip 1
    return some .adjacent
  else if t.isMark "~" then
    skip 1
    return some .sibling
  else if t.isMark "|" then
    if (← peekAt 1).isMark "|" then
      skip 2
      return some .column
    else return none
  else return none

/-- The compounds on the right of a compound. -/
def readRight : (fuel : Nat) → Reading (List (Combinator × Compound))
  | 0 => return []
  | fuel + 1 => do
    match ← readCombinator? with
    | some k =>
      let c ← readCompound
      return (k, c) :: (← readRight fuel)
    | none =>
      match ← readCompound? with
      | some c => return (.descendant, c) :: (← readRight fuel)
      | none => return []

/-- A selector. -/
def readComplex : Reading Complex := do
  let first ← readCompound
  let rest ← readRight (← get).length
  return { first, rest }

/-- Selectors with commas between them, up to the end. -/
def readSelectors : (fuel : Nat) → Reading (List Complex)
  | 0 => return []
  | fuel + 1 => do
    let s ← readComplex
    let t ← next
    match t.kind with
    | .finish => return [s]
    | .comma => return s :: (← readSelectors fuel)
    | _ => failAt t .expectedEnd

/-- Reads a list of selectors. -/
def parseSelector (text : Bytes) : Except SelectorError (List Complex) := do
  let tokens := selectorTokens text
  let (list, _) ← (readSelectors tokens.length).run tokens
  match list.findSome? Complex.fault? with
  | some e => .error e
  | none => return list

end KeyScript.Markup
