import KeyScript.Markup.Content
import KeyScript.Markup.Node
import KeyScript.Markup.Reference

/-!
# Tokens of markup

Markup text is a sequence of texts, tags, comments and document types. The content of some
elements is not markup; it is a text up to the end tag of the element. Text that only looks like
the start of a tag is text, and a tag that is not finished at the end of the input is dropped.

## Main definitions

- `Token` — a token
- `Scanner` — what is still to be read, and how
- `Scanner.next` — the next token
-/

namespace KeyScript.Markup

/-- A token of markup. -/
inductive Token where
  | text (data : Bytes)
  /-- A start tag; it may have a slash before its end. -/
  | startTag (name : Bytes) (attributes : List Attribute) (hasSlash : Bool)
  | endTag (name : Bytes)
  | comment (data : Bytes)
  | doctype (data : Bytes)
  /-- The end of the input. -/
  | finish
deriving DecidableEq, Repr, Inhabited

/-- A text whose lines all end in a line feed only. -/
def normalizeLines : Bytes → Bytes
  | [] => []
  | [b] => [if b = 13 then 10 else b]
  | a :: b :: s =>
    if a = 13 then if b = 10 then normalizeLines (b :: s) else 10 :: normalizeLines (b :: s)
    else a :: normalizeLines (b :: s)

/-- A text in which the byte zero is replaced by the replacement character. -/
def replaceZeros (s : Bytes) : Bytes := s.replaceByte 0 (encode replacement)

/-- The value of an attribute and what is behind it, from behind its equals sign on. -/
def readValue (s : Bytes) : Option (Bytes × Bytes) :=
  match s.dropWhile isTagSpace with
  | [] => none
  | b :: rest =>
    if b = 62 then some ([], b :: rest)
    else if b = 34 || b = 39 then
      match Bytes.cut b rest with
      | (value, some after) => some (value, after)
      | (_, none) => none
    else
      let isEnd := fun c => isTagSpace c || c == 62
      some ((b :: rest).takeWhile (fun c => !isEnd c), (b :: rest).dropWhile fun c => !isEnd c)

/-- The name of an attribute and what is behind it. An equals sign may stand at its start. -/
def readKey (s : Bytes) : Bytes × Bytes :=
  let inKey := fun c => !(isTagSpace c || c == 47 || c == 62 || c == 61)
  match s with
  | 61 :: rest => (61 :: rest.takeWhile inKey, rest.dropWhile inKey)
  | _ => (s.takeWhile inKey, s.dropWhile inKey)

/-- One attribute, whether a slash ended it, and what is behind it; the name may be missing. -/
def readAttribute (s : Bytes) : Option (Attribute × Bool × Bytes) :=
  let (key, rest) := readKey s
  match rest.dropWhile isTagSpace with
  | [] => none
  | 47 :: after => some (attr (lowerBytes key) [], true, after)
  | 61 :: after =>
    (readValue after).map fun (value, last) =>
      (attr (lowerBytes key) (unescape true (normalizeLines value)), false, last)
  | after => some (attr (lowerBytes key) [], false, after)

/-- The attributes of a tag, whether there is a slash before its end, and what is behind it; `slash`
says whether there is one before the text. There are as many rounds as `rounds` has bytes; each
round takes at least one byte. -/
def readAttributes : (rounds : Bytes) → (slash : Bool) → (seen : List Attribute) → Bytes →
    Option (List Attribute × Bool × Bytes)
  | [], _, _, _ => none
  | _ :: rounds, slash, seen, s =>
    match s with
    | [] => none
    | b :: rest =>
      if isTagSpace b then readAttributes rounds false seen rest
      else if b = 62 then some (seen.reverse, slash, rest)
      else do
        let (a, slash, after) ← readAttribute s
        readAttributes rounds slash (if a.key = [] then seen else a :: seen) after

/-- A tag: its name, its attributes, whether there is a slash before its end, and what is behind
it. -/
def readTag (s : Bytes) : Option (Bytes × List Attribute × Bool × Bytes) :=
  let inName := fun c => !(isTagSpace c || c == 47 || c == 62)
  let rest := s.dropWhile inName
  (readAttributes rest false [] rest).map fun (attributes, slash, after) =>
    (lowerBytes (s.takeWhile inName), attributes, slash, after)

/-- The element whose content reaches to the end of the input. -/
def lastName : Bytes := "plaintext"

/-- The elements whose content is not markup but may hold character references. -/
def referenceElements : List Bytes := ["textarea", "title"]

/-- The elements whose content is not markup. -/
def textElements : List Bytes :=
  ["iframe", "noembed", "noframes", "noscript", lastName, scriptName, "style", "textarea", "title",
   "xmp"]

/-- The bytes of a comment that are left when the input ends in it, latest first. What could be a
part of its end does not count. -/
def dropHalfEnd : Bytes → Bytes
  | 33 :: 45 :: 45 :: done => done
  | 45 :: 45 :: done => done
  | 45 :: done => done
  | done => done

/-- The bytes of a comment and what is behind it, from behind the bytes in `done` on, latest first.
The comment ends at a closing angle bracket behind two hyphens, possibly with an exclamation mark
between them, or at its very beginning. -/
def readCommentFrom : (hyphens : Nat) → (atStart : Bool) → (done : Bytes) → Bytes → Bytes × Bytes
  | _, _, done, [] => ((dropHalfEnd done).reverse, [])
  | hyphens, atStart, done, b :: c :: s =>
    if b = 45 then readCommentFrom (hyphens + 1) atStart (b :: done) (c :: s)
    else if b = 62 && (hyphens ≥ 2 || atStart) then ((done.drop 2).reverse, c :: s)
    else if b = 33 && hyphens ≥ 2 then
      if c = 62 then ((done.drop 2).reverse, s)
      else if c = 45 then readCommentFrom 1 false (c :: b :: done) s
      else readCommentFrom 0 false (c :: b :: done) s
    else readCommentFrom 0 false (b :: done) (c :: s)
  | hyphens, atStart, done, [b] =>
    if b = 62 && (hyphens ≥ 2 || atStart) then ((done.drop 2).reverse, [])
    else ((dropHalfEnd (b :: done)).reverse, [])

/-- A comment with some bytes. -/
def commentOf (data : Bytes) : Token :=
  .comment (unescape false (replaceZeros (normalizeLines data)))

/-- A comment, from behind its opening on. -/
def readComment (s : Bytes) : Token × Bytes :=
  let (data, rest) := readCommentFrom 0 true [] s
  (commentOf data, rest)

/-- Something that is taken for a comment, up to the next closing angle bracket. -/
def readBogusComment (s : Bytes) : Token × Bytes :=
  let (data, rest) := Bytes.cut 62 s
  (commentOf data, rest.getD [])

/-- What begins with a word, and the input ends in the word or something else follows. -/
def readBroken (word s : Bytes) : Token × Bytes :=
  let start := s.take word.length
  if start.length < word.length && (lowerBytes start).isPrefixOf word then (.comment [], [])
  else readBogusComment s

/-- A document type, from behind the word for it on. -/
def readDoctype (s : Bytes) : Token × Bytes :=
  let (data, rest) := Bytes.cut 62 (s.dropWhile isTagSpace)
  (.doctype (unescape false (normalizeLines data)), rest.getD [])

/-- The word that begins a document type. -/
def doctypeWord : Bytes := "doctype"

/-- The mark that begins a plain text inside embedded elements. -/
def plainMark : Bytes := "[CDATA["

/-- A plain text inside embedded elements, from behind the mark for it on. -/
def readPlain (s : Bytes) : Token × Bytes :=
  let (data, rest) := cutAt s
  (.text (unescape false (replaceZeros (normalizeLines data))), rest)
where
  /-- The part of a text before the end of a plain text, and the part behind it. -/
  cutAt : Bytes → Bytes × Bytes
    | [] => ([], [])
    | b :: s =>
      if Bytes.startsWith (b :: s) "]]>" then ([], s.drop 2)
      else
        let (before, after) := cutAt s
        (b :: before, after)

/-- A comment, document type or plain text, from behind its exclamation mark on. -/
def readDeclaration (allowPlain : Bool) (s : Bytes) : Token × Bytes :=
  if (s.drop 1).isEmpty then (commentOf s, [])
  else if s.startsWith "--" then readComment (s.drop 2)
  else if lowerBytes (s.take 7) == doctypeWord then readDoctype (s.drop 7)
  else if allowPlain && s.startsWith plainMark then readPlain (s.drop 7)
  else if allowPlain && s.isPrefixOf plainMark then (.comment [], [])
  else readBroken doctypeWord s

/-- What is still to be read, and the name of the element whose content it begins with, if that
content is not markup. -/
structure Scanner where
  rest : Bytes
  content : Bytes := []
deriving DecidableEq, Repr, Inhabited

/-- The part of a text before the next tag, comment or document type, and what follows from there
on. -/
def cutText : Bytes → Bytes × Bytes
  | [] => ([], [])
  | [b] => ([b], [])
  | b :: c :: s =>
    if b = 60 && (isLetter c || c == 47 || c == 33 || c == 63) then ([], b :: c :: s)
    else
      let (text, rest) := cutText (c :: s)
      (b :: text, rest)

/-- A text with its references replaced. -/
def textOf (data : Bytes) : Token := .text (unescape false (normalizeLines data))

/-- The token of a start tag, from its name on. -/
def readStartTag (s : Bytes) : Token × Scanner :=
  match readTag s with
  | none => (.finish, { rest := [] })
  | some (name, attributes, slash, rest) =>
    (.startTag name attributes slash,
      { rest, content := if textElements.contains name then name else [] })

/-- The token of an end tag, from behind its slash on. -/
def readEndTag (s : Bytes) : Token × Bytes :=
  match s with
  | [] => (.text "</", [])
  | b :: rest =>
    if b = 62 then (.comment [], rest)
    else if isLetter b then
      match readTag s with
      | some (name, _, _, after) => (.endTag name, after)
      | none => (.finish, [])
    else readBogusComment s

/-- The next token of markup, and what follows it. Inside embedded elements a plain text is allowed
among the declarations. -/
def readMarkup (allowPlain : Bool) (s : Bytes) : Token × Scanner :=
  match cutText s with
  | ([], []) => (.finish, { rest := [] })
  | ([], 60 :: 47 :: rest) => (readEndTag rest).map id fun rest => { rest }
  | ([], 60 :: 33 :: rest) => (readDeclaration allowPlain rest).map id fun rest => { rest }
  | ([], 60 :: 63 :: rest) => (readBogusComment (63 :: rest)).map id fun rest => { rest }
  | ([], _ :: rest) => readStartTag rest
  | (text, rest) => (textOf text, { rest })

/-- The content of an element that is not markup, and what follows it. -/
def cutElement (name s : Bytes) : Bytes × Bytes :=
  if name = lastName then (s, []) else if name = scriptName then cutScript s else cutContent name s

/-- The next token. -/
def Scanner.next (allowPlain : Bool) (scanner : Scanner) : Token × Scanner :=
  if scanner.content = [] then readMarkup allowPlain scanner.rest
  else
    let (data, rest) := cutElement scanner.content scanner.rest
    if data = [] then readMarkup allowPlain rest
    else
      let data := replaceZeros (normalizeLines data)
      let shown := if referenceElements.contains scanner.content then unescape false data else data
      (.text shown, { rest })

end KeyScript.Markup
