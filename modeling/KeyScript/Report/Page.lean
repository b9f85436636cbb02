import KeyScript.Markup.Node
import KeyScript.Script.Result
import KeyScript.Sketch.Basic

/-!
# Report pages

A report page shows what comes of a script: the script with its rejected lines marked, the
diagnostics, the target and the sketch. It is built as a markup tree.

## Main definitions

- `Page` — the content of a report
- `Page.ofScript` — the page of a script
- `Page.document` — the page as a markup tree
- `Page.render` — the page as text
-/

namespace KeyScript

open Markup

/-- The content of a report. -/
structure Page where
  /-- The title, `duckify` if it is empty. -/
  title : Bytes := []
  script : Bytes := []
  result : Result := {}
  sketch : Bytes := []
  target : Target := {}
deriving DecidableEq, Repr, Inhabited

namespace Page

/-- The page of a script for a target. -/
def ofScript (title script : Bytes) (target : Target) : Page :=
  let result := parse script
  { title, script, result, sketch := Sketch.generate result.commands target, target }

/-- The style sheet of every page. -/
def style : Bytes :=
  Bytes.joinWith "\n"
    ["body\x7bfont-family:sans-serif;margin:2em\x7d",
     "pre\x7bbackground:#f6f8fa;padding:1em;overflow:auto\x7d",
     "span.error\x7bbackground:#ffebe9\x7d",
     "#errors li\x7bcolor:#cf222e\x7d",
     "dt\x7bfont-weight:bold\x7d"]

/-- The list of the target's names. -/
def targetList (target : Target) : Node :=
  .page "dl" [attr "id" "options"]
    [.withText "dt" [] "Layout", .withText "dd" [attr "class" "layout"] target.layout,
     .withText "dt" [] "Board", .withText "dd" [attr "class" "board"] target.board]

/-- A line of the script with its number and the diagnostics of that line. -/
def lineSpan (number : Nat) (errors : List Diagnostic) (line : Bytes) : Node :=
  let title : List Attribute :=
    if errors = [] then []
    else [attr "title" (Bytes.joinWith "\n" (errors.map Diagnostic.message))]
  let cls : Bytes := if errors = [] then "line" else "line error"
  .withText "span" (attr "data-line" (Numeral.ofNat number) :: title ++ [attr "class" cls]) line

/-- The lines of a script from line `number` on, each followed by a line feed. -/
def lineSpans (groups : List (Int × List Diagnostic)) : (number : Nat) → List Bytes → List Node
  | _, [] => []
  | number, line :: lines =>
    lineSpan number (Result.errorsAt groups number) line :: .text "\n" ::
      lineSpans groups (number + 1) lines

/-- The script block. -/
def scriptBlock (script : Bytes) (result : Result) : Node :=
  .page "pre" [attr "id" "script"] (lineSpans result.errorLines 1 (splitLines script))

/-- The item for a diagnostic. -/
def item (e : Diagnostic) : Node :=
  .withText "li" [attr "data-line" (Numeral.ofInt e.line)] e.text

/-- The list of diagnostics. -/
def errorList (result : Result) : Node :=
  .page "ul" [attr "id" "errors"] (result.errors.map item)

/-- The title that is shown. -/
def shownTitle (p : Page) : Bytes := if p.title = [] then "duckify" else p.title

/-- The page as a markup tree. -/
def document (p : Page) : List Node :=
  [.doctype "html" [] [],
   .page "html" []
    [.page "head" []
      [.page "meta" [attr "charset" "utf-8"] [], .withText "title" [] p.shownTitle,
       .withText "style" [] style],
     .page "body" []
      [.withText "h1" [] p.shownTitle, targetList p.target,
       .withText "h2" [] "Script", scriptBlock p.script p.result,
       .withText "h2" [] "Diagnostics", errorList p.result,
       .withText "h2" [] "Sketch", .withText "pre" [attr "id" "sketch"] p.sketch]]]

/-- The page as text. -/
def render (p : Page) : Bytes := renderNodes false p.document

end Page

end KeyScript
