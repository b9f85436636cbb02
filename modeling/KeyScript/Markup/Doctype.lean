import KeyScript.Markup.Content
import KeyScript.Text.Case

/-!
# Document types

A document type has a name and may have a public and a system identifier. Old document types are
told apart by their identifiers, because paragraphs end differently in old documents.

## Main definitions

- `Doctype` — a document type
- `readDoctypeText` — reads a document type from the text of its declaration
-/

namespace KeyScript.Markup

/-- A document type; an identifier that is missing is empty. -/
structure Doctype where
  name : Bytes
  publicId : Bytes := []
  systemId : Bytes := []
  /-- Whether the document is an old one. -/
  isLegacy : Bool := false
deriving DecidableEq, Repr, Inhabited

/-- The public identifiers of old document types. -/
def legacyIds : List Bytes :=
  ["-//w3o//dtd w3 html strict 3.0//en//", "-/w3d/dtd html 4.0 transitional/en", "html"]

/-- What the public identifiers of old document types begin with. -/
def legacyStarts : List Bytes :=
  (["+//silmaril//dtd html pro v0r11 19970101//",
   "-//advasoft ltd//dtd html 3.0 aswedit + extensions//",
   "-//as//dtd html 3.0 aswedit + extensions//",
   "-//ietf//dtd html 2.0 level 1//",
   "-//ietf//dtd html 2.0 level 2//",
   "-//ietf//dtd html 2.0 strict level 1//",
   "-//ietf//dtd html 2.0 strict level 2//",
   "-//ietf//dtd html 2.0 strict//",
   "-//ietf//dtd html 2.0//",
   "-//ietf//dtd html 2.1e//",
   "-//ietf//dtd html 3.0//",
   "-//ietf//dtd html 3.2 final//",
   "-//ietf//dtd html 3.2//",
   "-//ietf//dtd html 3//",
   "-//ietf//dtd html level 0//",
   "-//ietf//dtd html level 1//",
   "-//ietf//dtd html level 2//",
   "-//ietf//dtd html level 3//",
   "-//ietf//dtd html strict level 0//",
   "-//ietf//dtd html strict level 1//",
   "-//ietf//dtd html strict level 2//",
   "-//ietf//dtd html strict level 3//",
   "-//ietf//dtd html strict//",
   "-//ietf//dtd html//",
   "-//metrius//dtd metrius presentational//",
   "-//microsoft//dtd internet explorer 2.0 html strict//",
   "-//microsoft//dtd internet explorer 2.0 html//",
   "-//microsoft//dtd internet explorer 2.0 tables//",
   "-//microsoft//dtd internet explorer 3.0 html strict//",
   "-//microsoft//dtd internet explorer 3.0 html//",
   "-//microsoft//dtd internet explorer 3.0 tables//",
   "-//netscape comm. corp.//dtd html//",
   "-//netscape comm. corp.//dtd strict html//",
   "-//o'reilly and associates//dtd html 2.0//",
   "-//o'reilly and associates//dtd html extended 1.0//",
   "-//o'reilly and associates//dtd html extended relaxed 1.0//",
   "-//softquad software//dtd hotmetal pro 6.0::19990601::extensions to html 4.0//",
   "-//softquad//dtd hotmetal pro 4.0::19971010::extensions to html 4.0//",
   "-//spyglass//dtd html 2.0 extended//",
   "-//sq//dtd html 2.0 hotmetal + extensions//",
   "-//sun microsystems corp.//dtd hotjava html//",
   "-//sun microsystems corp.//dtd hotjava strict html//",
   "-//w3c//dtd html 3 1995-03-24//",
   "-//w3c//dtd html 3.2 draft//",
   "-//w3c//dtd html 3.2 final//",
   "-//w3c//dtd html 3.2//",
   "-//w3c//dtd html 3.2s draft//",
   "-//w3c//dtd html 4.0 frameset//",
   "-//w3c//dtd html 4.0 transitional//",
   "-//w3c//dtd html experimental 19960712//",
   "-//w3c//dtd html experimental 970421//",
   "-//w3c//dtd w3 html//",
   "-//w3o//dtd w3 html 3.0//",
   "-//webtechs//dtd mozilla html 2.0//",
   "-//webtechs//dtd mozilla html//"] : List String).map Bytes.ofString

/-- Whether a public identifier is that of an old document type. -/
def isLegacyId (publicId : Bytes) : Bool :=
  let id := publicId.lower
  legacyIds.contains id || legacyStarts.any fun start => id.startsWith start

/-- The system identifier of an old document type, an address, by the parts between its slashes. -/
def legacySystemParts : List Bytes :=
  ["http:", "", "www.ibm.com", "data", "dtd", "v11", "ibmxhtml1-transitional.dtd"]

/-- Whether a system identifier is that of an old document type. -/
def isLegacySystemId (systemId : Bytes) : Bool :=
  systemId.equalFold (Bytes.joinWith "/" legacySystemParts)

/-- An identifier in quotes, and what is behind it; the closing quote may be missing. -/
def readIdentifier (s : Bytes) : Option (Bytes × Bytes) :=
  match s.dropWhile isTagSpace with
  | [] => none
  | quote :: rest =>
    if quote = 34 || quote = 39 then
      let (id, after) := Bytes.cut quote rest
      some (id, after.getD [])
    else none

/-- A document type with a system identifier, from behind the public one on. The document is an old
one if the identifier is missing, is that of an old one, or something follows it. -/
def readSystem (doctype : Doctype) (s : Bytes) : Doctype :=
  match readIdentifier s with
  | none => { doctype with isLegacy := true }
  | some (systemId, rest) =>
    { doctype with
      systemId
      isLegacy := doctype.isLegacy || isLegacySystemId systemId || rest ≠ [] }

/-- A document type with both identifiers, from behind the word for a public one on. -/
def readPublic (doctype : Doctype) (s : Bytes) : Doctype :=
  match readIdentifier s with
  | none => { doctype with isLegacy := true }
  | some (publicId, rest) =>
    readSystem { doctype with publicId, isLegacy := doctype.isLegacy || isLegacyId publicId } rest

/-- Reads a document type from the text of its declaration. -/
def readDoctypeText (s : Bytes) : Doctype :=
  let name : Bytes := s.takeWhile fun b => !isTagSpace b
  let rest := (s.drop name.length).dropWhile isTagSpace
  let doctype : Doctype := { name := name.lower, isLegacy := name ≠ "html" }
  let word := Bytes.lower (rest.take 6)
  if rest = [] then doctype
  else if rest.length ≥ 6 && word == "public" then readPublic doctype (rest.drop 6)
  else if rest.length ≥ 6 && word == "system" then readSystem doctype (rest.drop 6)
  else { doctype with isLegacy := true }

end KeyScript.Markup
