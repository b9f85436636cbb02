import KeyScript.Check.Basic
import KeyScript.Check.Comparison
import KeyScript.Markup.Select
import KeyScript.Markup.Selector.Reader
import KeyScript.Markup.Tree
import KeyScript.Report.Page

/-!
# Checks of markup

A check of markup looks at the first element that a selector describes, or counts the elements. A
check whose operator or wanted value makes no sense is refused before the selector and the markup
are read, and a check of an element that is not there never passes.

## Main definitions

- `PageVerdict` — what came of a check
- `Check.onMarkup` — checks a text of markup
- `Check.onPage` — checks the page of a script
-/

namespace KeyScript

open Markup

/-- What came of a check of markup. -/
inductive PageVerdict where
  /-- The content or number of the elements was compared. -/
  | compared (verdict : Verdict)
  | badSelector (selector : Bytes) (error : SelectorError)
  | badMarkup (error : TreeError)
  | emptyCount
  | noElement (selector : Bytes)
deriving DecidableEq, Repr, Inhabited

/-- The wording of a verdict; nothing if the check passed. -/
def PageVerdict.message : PageVerdict → Bytes
  | compared verdict => verdict.message
  | badSelector selector e => "error parsing selector " ++ Quoted.text selector ++ ": " ++ e.message
  | badMarkup e => "error parsing HTML: " ++ e.message
  | emptyCount => "count operator requires non-empty want value"
  | noElement selector => "no elements match selector " ++ Quoted.text selector

/-- The name of the operator that counts elements. -/
def countName : Bytes := "count"

/-- Compares the elements that were found. -/
def Check.onElements (c : Check) (found : List Place) : PageVerdict :=
  if c.operator = countName then
    if c.want = [] then .emptyCount
    else .compared (compare c.subject "==" (Numeral.ofNat found.length) c.want)
  else match found with
    | [] => .noElement c.subject
    | first :: _ => .compared (compare c.subject c.operator (innerText first.children) c.want)

/-- Checks a text of markup. -/
def Check.onMarkup (c : Check) (body : Bytes) : PageVerdict :=
  let trial := compare c.subject c.operator "_" c.want
  if !trial.isValid && c.operator ≠ countName then .compared trial
  else match parseSelector c.subject with
    | .error e => .badSelector c.subject e
    | .ok selectors =>
      match parseDocument body with
      | .error e => .badMarkup e
      | .ok tree => c.onElements (select selectors tree)

/-- Checks the page of a script. -/
def Check.onPage (c : Check) (page : Page) : PageVerdict := c.onMarkup page.render

end KeyScript
