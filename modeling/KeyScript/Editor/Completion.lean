import KeyScript.Editor.Document
import KeyScript.Script.Vocabulary

/-!
# Completions

The words that may stand at a place of a document. Only the first word of a line and the words of
a chord are completed.

## Main definitions

- `Completion` — a word that is offered
- `cursorWords` — the words before a place, and the word that touches it
- `Document.complete` — the words that are offered at a place
-/

namespace KeyScript

/-- What an offered word is. -/
inductive CompletionKind where
  /-- A word that starts a line. -/
  | keyword
  /-- A word of a chord. -/
  | constant
deriving DecidableEq, Repr, Inhabited

/-- A word that is offered. -/
structure Completion where
  label : Bytes
  kind : CompletionKind
deriving DecidableEq, Repr, Inhabited

/-- The words of a text, with the word that touches its end apart; that word is empty if there is
none. -/
def cursorWords (before : Bytes) : List LocatedWord × Bytes :=
  let words := before.wordsAt isBlank
  match words.getLast? with
  | some w => if w.finish = before.units then (words.dropLast, w.text) else (words, [])
  | none => (words, [])

/-- The words that may stand behind others, and what they are. -/
def wordsBehind (words : List LocatedWord) : List Bytes × CompletionKind :=
  match words with
  | [] => (startWords, .keyword)
  | w :: _ => (if isModifier w.text.upper then followWords else [], .constant)

/-- The words that are offered at a place. -/
def Document.complete (d : Document) (line column : Int) : List Completion :=
  match d.line? line with
  | none => []
  | some text =>
    let (words, typed) := cursorWords (text.takeUnits column)
    let (offered, kind) := wordsBehind words
    (offered.filter fun w => typed.isEmpty || matchesLoosely typed w).map fun w => ⟨w, kind⟩

end KeyScript
