import KeyScript.Editor.Document
import KeyScript.Script.Vocabulary

/-!
# Fixes

An unknown command can be fixed by a word that is close to it. A fix replaces the first word of
the line.

## Main definitions

- `Fix` — a span and the word that replaces it
- `Document.fixes` — the fixes on some lines
-/

namespace KeyScript

/-- The replacement of a span by a word. -/
structure Fix where
  span : Span
  word : Bytes
deriving DecidableEq, Repr, Inhabited

/-- The title of a fix. -/
def Fix.title (f : Fix) : Bytes := "Replace with '" ++ f.word ++ "'"

/-- The fixes of the first word of a line. -/
def lineFixes (line : Int) (text : Bytes) : List Fix :=
  match text.wordsAt isBlank with
  | [] => []
  | w :: _ => (suggest w.text).map fun word => ⟨.onLine line w.start w.finish, word⟩

/-- The fixes of the unknown commands on the lines from `first` to `last`. -/
def Document.fixes (d : Document) (first last : Int) : List Fix :=
  d.result.errors.flatMap fun e =>
    let line := e.line - 1
    if line < first || line > last || e.cause.errorClass ≠ .unknownCommand then []
    else ((d.line? line).map (lineFixes line)).getD []

end KeyScript
