import KeyScript.Text.Numeral
import KeyScript.Text.Quoted
import KeyScript.Text.Rune

/-!
# Tokens of selectors

A selector is a sequence of names, marks, texts in quotes and numbers. A token keeps its text with
the escapes in it resolved, and its place in the selector. A selector ends at the first character
that is NUL or U+FFFD, however U+FFFD came about. What cannot be a token is kept as a faulty one, so
that a fault counts only when the token is wanted.

## Main definitions

- `TokenFault` — what is wrong with a token
- `TokenKind` — the kinds of tokens
- `SelectorToken` — a token with its text and its place
- `selectorTokens` — the tokens of a text
-/

namespace KeyScript.Markup

/-- What is wrong with a token. -/
inductive TokenFault where
  | unfinishedText
  | unfinishedAddress
  | addressCharacter (c : Char)
  | escape
  | escapeLength
  /-- A fault inside a text in quotes. -/
  | inText (fault : TokenFault)
  /-- A fault inside an address. -/
  | inAddress (fault : TokenFault)
deriving DecidableEq, Repr, Inhabited

/-- The wording of a fault. -/
def TokenFault.message : TokenFault → Bytes
  | unfinishedText => "unexpected eof parsing string"
  | unfinishedAddress => "unexpected eof parsing URL"
  | addressCharacter c => "invalid character parsing URL: " ++ encode c
  | escape => "invalid escape character"
  | escapeLength => "too many hex digits consuming escape sequence"
  | inText fault => "parsing string: " ++ fault.message
  | inAddress fault => "parsing URL: " ++ fault.message

/-- The kinds of tokens. -/
inductive TokenKind where
  | name
  /-- A name with an opening parenthesis behind it. -/
  | function
  | atName
  /-- A name behind a number sign. -/
  | hash
  /-- A text in quotes. -/
  | quoted
  | url
  | mark
  | number (isWhole : Bool)
  | percentage
  /-- A number with a unit. -/
  | dimension (isWhole : Bool) (unit : Bytes)
  | commentOpen
  | commentClose
  | colon
  | semicolon
  | comma
  | bracketOpen
  | bracketClose
  | parenOpen
  | parenClose
  | braceOpen
  | braceClose
  | finish
  /-- What cannot be a token. -/
  | faulty (fault : TokenFault)
deriving DecidableEq, Repr, Inhabited

/-- The name of a kind of tokens. -/
def TokenKind.title : TokenKind → Bytes
  | name => "<ident-token>"
  | function => "<function-token>"
  | atName => "<at-keyword-token>"
  | hash => "<hash-token>"
  | quoted => "<string-token>"
  | url => "<url-token>"
  | mark => "<delim-token>"
  | number _ => "<number-token>"
  | percentage => "<percentage-token>"
  | dimension .. => "<dimension-token>"
  | commentOpen => "<CDO-token>"
  | commentClose => "<CDC-token>"
  | colon => "<colon-token>"
  | semicolon => "<semicolon-token>"
  | comma => "<comma-token>"
  | bracketOpen => "<[-token>"
  | bracketClose => "<]-token>"
  | parenOpen => "<(-token>"
  | parenClose => "<)-token>"
  | braceOpen => "<\x7b-token>"
  | braceClose => "<\x7d-token>"
  | finish => "<eof-token>"
  | faulty _ => ""

/-- A token with its text and its place, counted in bytes. The text of a number with a unit is the
number alone. -/
structure SelectorToken where
  kind : TokenKind
  text : Bytes
  place : Nat
deriving DecidableEq, Repr, Inhabited

/-- The description of a token. -/
def SelectorToken.describe (t : SelectorToken) : Bytes :=
  t.kind.title ++ " " ++ Quoted.text t.text ++ " pos=" ++ Numeral.ofNat t.place

/-- The character in front of an escape. -/
def backslash : Char := Char.ofNat 92

/-- Whether a character may stand around a text. -/
def isQuote (c : Char) : Bool := c.toNat == 34 || c.toNat == 39

/-- Whether a character is a decimal digit. -/
def isDigitChar (c : Char) : Bool := '0' ≤ c && c ≤ '9'

/-- The value of a hexadecimal digit. -/
def hexDigit? (c : Char) : Option Nat :=
  if c.toNat < 128 then Numeral.hexValue? c.toNat.toUInt8 else none

/-- Whether a name may begin with a character, apart from hyphens. -/
def isIdentifierStart (c : Char) : Bool :=
  ('a' ≤ c && c ≤ 'z') || ('A' ≤ c && c ≤ 'Z') || c == '_' || c.toNat > 128

/-- Whether a name may hold a character. -/
def isIdentifierChar (c : Char) : Bool := isIdentifierStart c || isDigitChar c || c == '-'

/-- Whether an escape begins at the start of a text. -/
def beginsEscape (s : List Char) : Bool :=
  match s with
  | first :: c :: _ => first == backslash && c != '\n'
  | _ => false

/-- Whether a name begins at the start of a text. -/
def beginsIdentifier (s : List Char) : Bool :=
  match s with
  | '-' :: rest => rest.head?.any isIdentifierStart || beginsEscape rest
  | c :: _ => isIdentifierStart c || beginsEscape s
  | [] => false

/-- Whether digits begin at the start of a text, possibly behind a point. -/
def beginsDigits (s : List Char) : Bool :=
  match s with
  | '.' :: c :: _ => isDigitChar c
  | c :: _ => isDigitChar c
  | [] => false

/-- Whether a number begins at the start of a text. -/
def beginsNumber (s : List Char) : Bool :=
  match s with
  | '+' :: rest | '-' :: rest => beginsDigits rest
  | _ => beginsDigits s

/-- What was read of a text: the bytes it stands for, its length in characters, and whether an
escape in it is too long. -/
structure Fragment where
  text : Bytes := []
  size : Nat := 0
  isFaulty : Bool := false
deriving DecidableEq, Repr, Inhabited

/-- A fragment with a character in front of it that stands for some bytes. -/
def Fragment.behind (bytes : Bytes) (f : Fragment) : Fragment :=
  { f with text := bytes ++ f.text, size := f.size + 1 }

/-- The escape behind a backslash: one character that stands for itself, or up to six hexadecimal
digits, of which all but the first give the number of a character. -/
def readEscape (s : List Char) : Fragment :=
  match s with
  | [] => {}
  | c :: rest =>
    if (hexDigit? c).isNone then { text := encode c, size := 1 }
    else
      let digits := rest.takeWhile fun d => (hexDigit? d).isSome
      let number := digits.foldl (fun n d => n * 16 + (hexDigit? d).getD 0) 0
      { text := encode (if number.isValidChar then Char.ofNat number else replacement)
        size := digits.length + 1
        isFaulty := digits.length > 5 }

/-- The name at the start of a text; the next `skip` characters belong to an escape already read. -/
def readIdentifierName : (skip : Nat) → List Char → Fragment
  | _, [] => {}
  | skip + 1, _ :: s => (readIdentifierName skip s).behind []
  | 0, c :: s =>
    if isIdentifierChar c then (readIdentifierName 0 s).behind (encode c)
    else if beginsEscape (c :: s) then
      let e := readEscape s
      if e.isFaulty then { isFaulty := true } else (readIdentifierName e.size s).behind e.text
    else {}

/-- The number of digits at the start of a text. -/
def digitCount (s : List Char) : Nat := (s.takeWhile isDigitChar).length

/-- The number of signs at the start of a text, one or none. -/
def signCount (s : List Char) : Nat := if s.head?.any fun c => c == '+' || c == '-' then 1 else 0

/-- The length of the part behind the point of a number, with the point. -/
def fractionLength (s : List Char) : Nat :=
  match s with
  | '.' :: rest => if digitCount rest = 0 then 0 else digitCount rest + 1
  | _ => 0

/-- The length of the exponent of a number. -/
def exponentLength (s : List Char) : Nat :=
  match s with
  | 'e' :: rest | 'E' :: rest =>
    let sign := signCount rest
    let digits := digitCount (rest.drop sign)
    if digits = 0 then 0 else 1 + sign + digits
  | _ => 0

/-- A token without its place, and its length in characters. -/
structure Lexeme where
  kind : TokenKind
  text : Bytes
  size : Nat
deriving DecidableEq, Repr, Inhabited

/-- What cannot be a token. -/
def Lexeme.faulty (fault : TokenFault) : Lexeme := ⟨.faulty fault, [], 1⟩

/-- The token that a name makes, unless an escape in it is too long. -/
def Lexeme.ofName (name : Fragment) (make : Bytes → Lexeme) : Lexeme :=
  if name.isFaulty then .faulty .escapeLength else make name.text

/-- The number at the start of a text, with its unit. -/
def numberLexeme (s : List Char) : Lexeme :=
  let whole := signCount s + digitCount (s.drop (signCount s))
  let fraction := fractionLength (s.drop whole)
  let exponent := exponentLength (s.drop (whole + fraction))
  let size := whole + fraction + exponent
  let isWhole := fraction == 0 && exponent == 0
  let number := Bytes.ofChars (s.take size)
  let rest := s.drop size
  if beginsIdentifier rest then
    let unit := readIdentifierName 0 rest
    Lexeme.ofName unit fun text => ⟨.dimension isWhole text, number, size + unit.size⟩
  else if rest.head? == some '%' then ⟨.percentage, number, size + 1⟩
  else ⟨.number isWhole, number, size⟩

/-- The text in quotes at the start of a text, from behind the opening quote on, up to the closing
one; nothing if that is missing. The next `skip` characters belong to an escape already read. -/
def readQuoted (quote : Char) : (skip : Nat) → List Char → Option Fragment
  | _, [] => none
  | skip + 1, _ :: s => (readQuoted quote skip s).map (·.behind [])
  | 0, c :: s =>
    if c = quote then some { size := 1 }
    else if c = backslash then
      let e := readEscape s
      if e.isFaulty then some { isFaulty := true }
      else (readQuoted quote e.size s).map (·.behind e.text)
    else (readQuoted quote 0 s).map (·.behind (encode c))

/-- The token of a text in quotes, from behind the opening quote on. -/
def quotedLexeme (quote : Char) (s : List Char) : Lexeme :=
  match readQuoted quote 0 s with
  | none => .faulty .unfinishedText
  | some f => if f.isFaulty then .faulty (.inText .escapeLength) else ⟨.quoted, f.text, f.size + 1⟩

/-- Whether an address without quotes may not hold a character. -/
def isBadInAddress (c : Char) : Bool :=
  isQuote c || c == '(' || c.toNat ≤ 8 || c.toNat == 11 ||
    (14 ≤ c.toNat && c.toNat ≤ 31) || c.toNat == 127

/-- An address without quotes, from behind its opening parenthesis on, up to the closing one. The
next `skip` characters belong to an escape already read. -/
def readAddress : (skip : Nat) → List Char → Except TokenFault Fragment
  | _, [] => .error .unfinishedAddress
  | skip + 1, _ :: s => (readAddress skip s).map (·.behind [])
  | 0, c :: s =>
    if c = ')' then .ok { size := 1 }
    else if isBadInAddress c then .error (.addressCharacter c)
    else if c = backslash then
      if beginsEscape (c :: s) then
        let e := readEscape s
        if e.isFaulty then .error (.inAddress .escapeLength)
        else (readAddress e.size s).map (·.behind e.text)
      else .error (.addressCharacter c)
    else (readAddress 0 s).map (·.behind (encode c))

/-- Whether a name is that of an address. -/
def isAddressName (name : Bytes) : Bool :=
  name.map (fun b => if 65 ≤ b && b ≤ 90 then b + 32 else b) == "url"

/-- The name at the start of a text, with a parenthesis behind it, or an address. -/
def nameLexeme (s : List Char) : Lexeme :=
  let name := readIdentifierName 0 s
  Lexeme.ofName name fun text =>
    match s.drop name.size with
    | '(' :: rest =>
      if isAddressName text && !(rest.head?.any isQuote) then
        match readAddress 0 rest with
        | .ok address => ⟨.url, address.text, name.size + 1 + address.size⟩
        | .error fault => .faulty fault
      else ⟨.function, text ++ "(", name.size + 1⟩
    | _ => ⟨.name, text, name.size⟩

/-- The kinds of the marks that have kinds of their own. -/
def markKind : Char → TokenKind
  | ':' => .colon
  | ';' => .semicolon
  | ',' => .comma
  | '[' => .bracketOpen
  | ']' => .bracketClose
  | '(' => .parenOpen
  | ')' => .parenClose
  | '\x7b' => .braceOpen
  | '\x7d' => .braceClose
  | _ => .mark

/-- The token that begins with a character. -/
def firstLexeme (c : Char) (rest : List Char) : Lexeme :=
  if isQuote c then quotedLexeme c rest
  else if c = '#' && (rest.head?.any isIdentifierChar || beginsEscape rest) then
    let name := readIdentifierName 0 rest
    Lexeme.ofName name fun text => ⟨.hash, text, name.size + 1⟩
  else if beginsNumber (c :: rest) then numberLexeme (c :: rest)
  else if c = '-' && rest.take 2 == ['-', '>'] then ⟨.commentClose, "-->", 3⟩
  else if beginsIdentifier (c :: rest) then nameLexeme (c :: rest)
  else if c = '<' && rest.take 3 == ['!', '-', '-'] then ⟨.commentOpen, "<!--", 4⟩
  else if c = '@' && beginsIdentifier rest then
    let name := readIdentifierName 0 rest
    Lexeme.ofName name fun text => ⟨.atName, text, name.size + 1⟩
  else if c = backslash then .faulty .escape
  else ⟨markKind c, encode c, 1⟩

/-- The tokens of the rest of a text, from a place on; `skip` characters belong to the token
before. -/
def selectorTokensFrom : (skip place : Nat) → List Char → List SelectorToken
  | _, place, [] => [⟨.finish, [], place⟩]
  | skip + 1, place, c :: s => selectorTokensFrom skip (place + (encode c).length) s
  | 0, place, c :: s =>
    let first := firstLexeme c s
    ⟨first.kind, first.text, place⟩ ::
      selectorTokensFrom (first.size - 1) (place + (encode c).length) s

/-- Whether a selector ends in front of a character. -/
def endsSelector (c : Char) : Bool := c == replacement || c.toNat == 0

/-- The tokens of a text. The last one stands for its end. -/
def selectorTokens (s : Bytes) : List SelectorToken :=
  selectorTokensFrom 0 0 (s.chars.takeWhile fun c => !endsSelector c)

end KeyScript.Markup
