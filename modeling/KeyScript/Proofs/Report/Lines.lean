import Mathlib.Data.List.Forall2
import KeyScript.Markup.Selector.Reader
import KeyScript.Proofs.Markup.Elements
import KeyScript.Proofs.Script.ErrorLines
import KeyScript.Report.Page

/-!
# The lines of a report page

The page of a script shows each line of the script once, in a span with the number of the line, and
each diagnostic once, in an item of a list. The spans that are marked as errors and the items belong
together one by one.

## Main definitions

- `Page.elements` — the elements of a page that a selector describes
- `Page.spans` — the spans for lines

## Main results

- `Page.elements_script`, `Page.elements_errors` — the two blocks, for any page
- `Page.elements_ofScript` — the page of a script
-/

namespace KeyScript

open Markup

namespace Page

/-- The elements of a page that a selector describes; none if it is no selector. -/
def elements (p : Page) (selector : Bytes) : List Node :=
  match parseSelector selector with
  | .ok selectors => Place.nodes (select selectors p.document)
  | .error _ => []

/-- The spans for lines that are numbered from `n` on. -/
def spans (groups : List (Int × List Diagnostic)) (n : Nat) (lines : List Bytes) : List Node :=
  (lines.zipIdx n).map fun p => lineSpan p.2 (Result.errorsAt groups (p.2 : Nat)) p.1

theorem spans_cons (groups : List (Int × List Diagnostic)) (n : Nat) (line : Bytes)
    (lines : List Bytes) : spans groups n (line :: lines) =
      lineSpan n (Result.errorsAt groups n) line :: spans groups (n + 1) lines := by
  rw [spans, List.zipIdx_cons]
  rfl

theorem elementsIn_lineSpans (groups : List (Int × List Diagnostic)) (n : Nat)
    (lines : List Bytes) : elementsIn (lineSpans groups n lines) = spans groups n lines := by
  induction lines generalizing n with
  | nil => exact elementsIn_nil
  | cons line lines ih =>
    rw [lineSpans, spans_cons, lineSpan, elementsIn_withText_cons, elementsIn_text_cons, ih]

theorem elementsIn_items (errors : List Diagnostic) :
    elementsIn (errors.map item) = errors.map item := by
  induction errors with
  | nil => exact elementsIn_nil
  | cons e errors ih => rw [List.map_cons, item, elementsIn_withText_cons, ih]

/-- The names of all elements of a page but its three blocks. -/
def frameNames : List Bytes :=
  ["html", "head", "meta", "title", "style", "body", "h1", "h2", "dl", "dt", "dd", "span", "li"]

section Blocks

variable {place : Nat} {name : Bytes} {conditions : List Condition}

/-- The script block, with nothing of another name in it. -/
theorem filter_elementsIn_scriptBlock_cons (h : ("span" == name) = false) (script : Bytes)
    (result : Result) (nodes : List Node) :
    (elementsIn (scriptBlock script result :: nodes)).filter
        (Compound.named place name conditions).meets =
      [scriptBlock script result].filter (Compound.named place name conditions).meets ++
        (elementsIn nodes).filter (Compound.named place name conditions).meets := by
  have hspans : (elementsIn (lineSpans result.errorLines 1 (splitLines script))).filter
      (Compound.named place name conditions).meets = [] := by
    rw [elementsIn_lineSpans, List.filter_eq_nil_iff]
    intro node hnode
    obtain ⟨line, -, rfl⟩ := List.mem_map.mp hnode
    rw [lineSpan, Node.withText, meets_page_of_ne h]
    exact Bool.false_ne_true
  rw [scriptBlock, filter_elementsIn_page_cons, hspans, List.nil_append]

/-- The list of diagnostics, with nothing of another name in it. -/
theorem filter_elementsIn_errorList_cons (h : ("li" == name) = false) (result : Result)
    (nodes : List Node) :
    (elementsIn (errorList result :: nodes)).filter (Compound.named place name conditions).meets =
      [errorList result].filter (Compound.named place name conditions).meets ++
        (elementsIn nodes).filter (Compound.named place name conditions).meets := by
  have hitems : (elementsIn (result.errors.map item)).filter
      (Compound.named place name conditions).meets = [] := by
    rw [elementsIn_items, List.filter_eq_nil_iff]
    intro node hnode
    obtain ⟨e, -, rfl⟩ := List.mem_map.mp hnode
    rw [item, Node.withText, meets_page_of_ne h]
    exact Bool.false_ne_true
  rw [errorList, filter_elementsIn_page_cons]
  exact congrArg (_ ++ ·) (congrArg (· ++ _) hitems)

/-- What is selected by a name that is none of those of the frame is among the three blocks. -/
theorem filter_elementsIn_document (h : frameNames.contains name = false) (p : Page) :
    (elementsIn p.document).filter (Compound.named place name conditions).meets =
      [scriptBlock p.script p.result, errorList p.result,
        .withText "pre" [attr "id" "sketch"] p.sketch].filter
          (Compound.named place name conditions).meets := by
  have hne : ∀ other ∈ frameNames, (other == name) = false := by
    intro other hother
    refine beq_false_of_ne fun heq => ?_
    rw [← heq, List.contains_iff_mem.mpr hother] at h
    cases h
  have hsketch : elementsIn [.withText "pre" [attr "id" "sketch"] p.sketch] =
      [.withText "pre" [attr "id" "sketch"] p.sketch] := by
    rw [elementsIn_withText_cons, elementsIn_nil]
  simp (disch := (apply hne; decide)) only [document, targetList, elementsIn_doctype_cons,
    filter_elementsIn_page_of_ne, filter_elementsIn_withText_of_ne,
    filter_elementsIn_scriptBlock_cons, filter_elementsIn_errorList_cons, hsketch, elementsIn_nil,
    List.filter_nil, List.nil_append, List.append_nil]
  rw [← List.filter_append, ← List.filter_append]
  rfl

end Blocks

theorem parseSelector_script :
    parseSelector "pre#script" = .ok [⟨.named 0 "pre" [.hasId "script"], []⟩] := by
  decide +kernel

theorem parseSelector_errors :
    parseSelector "ul#errors" = .ok [⟨.named 0 "ul" [.hasId "errors"], []⟩] := by
  decide +kernel

/-- The script block is the only one with its identifier. -/
theorem elements_script (p : Page) : p.elements "pre#script" = [scriptBlock p.script p.result] := by
  have hsketch : (("sketch" : Bytes) == "script") = false := by decide
  simp only [elements, parseSelector_script]
  rw [nodes_found (by decide), filter_elementsIn_document (by decide)]
  simp (disch := decide) only [scriptBlock, errorList, Node.withText, List.filter_cons,
    List.filter_nil, meets_page_id, meets_page_of_ne, beq_self_eq_true, hsketch]
  rfl

/-- The list of diagnostics is the only one with its identifier. -/
theorem elements_errors (p : Page) : p.elements "ul#errors" = [errorList p.result] := by
  simp only [elements, parseSelector_errors]
  rw [nodes_found (by decide), filter_elementsIn_document (by decide)]
  simp (disch := decide) only [scriptBlock, errorList, Node.withText, List.filter_cons,
    List.filter_nil, meets_page_id, meets_page_of_ne, beq_self_eq_true]
  rfl

/-- A selector for children of what another one describes. -/
theorem elements_child (p : Page) {block selector : Bytes} {place place' : Nat} {name name' : Bytes}
    {conditions conditions' : List Condition}
    (hblock : parseSelector block = .ok [⟨.named place' name' conditions', []⟩])
    (hselector : parseSelector selector = .ok
      [⟨.named place' name' conditions', [(.child, .named place name conditions)]⟩])
    (h : conditions.all Condition.isLocal = true) :
    p.elements selector = (p.elements block).flatMap fun node =>
      node.children.filter (Compound.named place name conditions).meets := by
  simp only [elements, hblock, hselector]
  exact nodes_found_child h p.document

theorem filter_lineSpans {q : Node → Bool} (h : q (.text "\n") = false)
    (groups : List (Int × List Diagnostic)) (n : Nat) (lines : List Bytes) :
    (lineSpans groups n lines).filter q = (spans groups n lines).filter q := by
  induction lines generalizing n with
  | nil => rfl
  | cons line lines ih =>
    rw [lineSpans, spans_cons, List.filter_cons, List.filter_cons, List.filter_cons, h,
      if_neg Bool.false_ne_true, ih]

/-- The spans in the script block. -/
theorem elements_script_span (p : Page) :
    p.elements "pre#script>span" = spans p.result.errorLines 1 (splitLines p.script) := by
  have hselector : parseSelector "pre#script>span" =
      .ok [⟨.named 0 "pre" [.hasId "script"], [(.child, .named 11 "span" [])]⟩] := by
    decide +kernel
  rw [elements_child p parseSelector_script hselector (by decide), elements_script,
    List.flatMap_singleton]
  refine (filter_lineSpans rfl _ _ _).trans (List.filter_eq_self.mpr fun node hnode => ?_)
  obtain ⟨line, -, rfl⟩ := List.mem_map.mp hnode
  rw [lineSpan, Node.withText, meets_page_self]

/-- The spans in the script block that are marked as errors. -/
theorem elements_script_error (p : Page) :
    p.elements "pre#script>span.error" =
      (spans p.result.errorLines 1 (splitLines p.script)).filter (Node.hasClass "error") := by
  have hselector : parseSelector "pre#script>span.error" =
      .ok [⟨.named 0 "pre" [.hasId "script"],
        [(.child, .named 11 "span" [.hasClass "error"])]⟩] := by decide +kernel
  rw [elements_child p parseSelector_script hselector (by decide), elements_script,
    List.flatMap_singleton]
  refine (filter_lineSpans rfl _ _ _).trans (List.filter_congr fun node hnode => ?_)
  obtain ⟨line, -, rfl⟩ := List.mem_map.mp hnode
  rw [lineSpan, Node.withText, meets_page_class]

/-- The items in the list of diagnostics. -/
theorem elements_errors_item (p : Page) :
    p.elements "ul#errors>li" = p.result.errors.map item := by
  have hselector : parseSelector "ul#errors>li" =
      .ok [⟨.named 0 "ul" [.hasId "errors"], [(.child, .named 10 "li" [])]⟩] := by
    decide +kernel
  rw [elements_child p parseSelector_errors hselector (by decide), elements_errors,
    List.flatMap_singleton]
  refine List.filter_eq_self.mpr fun node hnode => ?_
  obtain ⟨e, -, rfl⟩ := List.mem_map.mp hnode
  rw [item, Node.withText, meets_page_self]

section Marks

variable {errors : List Diagnostic}

theorem value?_title_lineSpan (n : Nat) (h : errors ≠ []) (line : Bytes) :
    (lineSpan n errors line).value? "title" =
      some (Bytes.joinWith "\n" (errors.map Diagnostic.message)) := by
  rw [lineSpan, if_neg h]
  rfl

/-- A span is marked as an error exactly if it has a diagnostic. -/
theorem hasClass_lineSpan (n : Nat) (errors : List Diagnostic) (line : Bytes) :
    (lineSpan n errors line).hasClass "error" = !errors.isEmpty := by
  have hnumber : (("data-line" : Bytes) == "class") = false := by decide
  have htitle : (("title" : Bytes) == "class") = false := by decide
  have hplain : ("error" : Bytes) ∉ ("line" : Bytes).words isSpace := by decide
  have hmarked : ("error" : Bytes) ∈ ("line error" : Bytes).words isSpace := by decide
  cases errors with
  | nil => simp [lineSpan, Node.withText, hasClass_page, attr, hnumber, hplain]
  | cons e errors =>
    simp [lineSpan, Node.withText, hasClass_page, attr, hnumber, htitle, hmarked]

end Marks

/-- A marked span and an item belong together: they have the same line number, and the item says the
number and then what the title of the span says. -/
def Agree (span item : Node) : Prop :=
  ∃ n message, span.value? "data-line" = some n ∧ item.value? "data-line" = some n ∧
    span.value? "title" = some message ∧ item.text? = some ("Line " ++ n ++ ": " ++ message)

theorem agree_lineSpan_item {n : Nat} {e : Diagnostic} (h : e.line = n) (line : Bytes) :
    Agree (lineSpan n [e] line) (item e) := by
  have hnumber : Numeral.ofInt e.line = Numeral.ofNat n := by rw [h, Numeral.ofInt_natCast]
  have htext : e.text = "Line " ++ Numeral.ofNat n ++ ": " ++ e.message := by
    rw [Diagnostic.text, Diagnostic.place, hnumber]
    simp only [List.append_assoc]
    rfl
  refine ⟨Numeral.ofNat n, e.message, rfl, ?_, value?_title_lineSpan n (by simp) line, ?_⟩
  · rw [item, hnumber]
    rfl
  · rw [item, text?_withText, htext]

/-- If each line has at most one diagnostic, the marked spans of lines and the items of their
diagnostics belong together one by one. -/
theorem forall₂_agree {groups : List (Int × List Diagnostic)}
    (h : ∀ l : Int, Result.errorsAt groups l = [] ∨
      ∃ e, e.line = l ∧ Result.errorsAt groups l = [e]) (n : Nat) (lines : List Bytes) :
    List.Forall₂ Agree ((spans groups n lines).filter (Node.hasClass "error"))
      (((lines.zipIdx n).flatMap fun p => Result.errorsAt groups (p.2 : Nat)).map item) := by
  induction lines generalizing n with
  | nil => exact .nil
  | cons line lines ih =>
    rw [spans_cons, List.zipIdx_cons, List.flatMap_cons, List.map_append, List.filter_cons,
      hasClass_lineSpan]
    rcases h n with hnone | ⟨e, hline, hone⟩
    · simp only [hnone]
      exact ih (n + 1)
    · simp only [hone]
      exact .cons (agree_lineSpan_item hline line) (ih (n + 1))

/-- The page of a script has one script block and one list of diagnostics. In the block there is one
span for each line, with its number and its text, and it is marked exactly if there is a diagnostic
on the line. The marked spans and the items of the list belong together one by one. -/
theorem elements_ofScript (title text : Bytes) (target : Target) :
    let page := ofScript title text target
    let spans := page.elements "pre#script>span"
    let marked := page.elements "pre#script>span.error"
    let items := page.elements "ul#errors>li"
    (page.elements "pre#script").length = 1 ∧ (page.elements "ul#errors").length = 1 ∧
      List.Forall₂ (fun numbered span =>
          span.value? "data-line" = some (Numeral.ofNat numbered.2) ∧
          span.text? = some numbered.1 ∧
          (span.hasClass "error" = true ↔ ∃ e ∈ (parse text).errors, e.line = numbered.2))
        ((splitLines text).zipIdx 1) spans ∧
      marked = spans.filter (Node.hasClass "error") ∧ marked.length = items.length ∧
      List.Forall₂ Agree marked items := by
  intro page spans marked items
  have hspans : spans = Page.spans (parse text).errorLines 1 (splitLines text) :=
    elements_script_span page
  have hmarked : marked = spans.filter (Node.hasClass "error") := by
    rw [hspans]
    exact elements_script_error page
  have hitems : items = (parse text).errors.map item := elements_errors_item page
  have hagree : List.Forall₂ Agree marked items := by
    have hpaired := forall₂_agree (errorsAt_parse_cases text) 1 (splitLines text)
    rwa [flatMap_errorsAt_parse, ← hspans, ← hmarked, ← hitems] at hpaired
  refine ⟨?_, ?_, ?_, hmarked, hagree.length_eq, hagree⟩
  · rw [elements_script, List.length_singleton]
  · rw [elements_errors, List.length_singleton]
  · rw [hspans, Page.spans, List.forall₂_map_right_iff, List.forall₂_same]
    intro numbered _
    refine ⟨rfl, text?_withText _, ?_⟩
    rw [hasClass_lineSpan, Result.errorsAt_errorLines]
    simp [List.filter_eq_nil_iff]

end Page

end KeyScript
