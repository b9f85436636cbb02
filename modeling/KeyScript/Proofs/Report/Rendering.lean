import KeyScript.Proofs.Markup.Marks
import KeyScript.Proofs.Script.ErrorLines
import KeyScript.Report.Page

/-!
# Reading a rendered page

A report page is written as text, and a reader that cuts the text at its angle brackets gets the
tags of the page: a frame that is the same for every page, two tags for every line of the script and
two for every diagnostic. What the page shows stands between them and is read back unchanged.

## Main definitions

- `Page.frontMarks`, `Page.errorsMarks`, `Page.backMarks` — the frame
- `Page.lineMarks`, `Page.itemMarks` — the lines and the diagnostics

## Main results

- `Page.read_render` — what is read from a page
- `Page.read_render_texts` — the tags are those of the page, and no text is lost
-/

namespace KeyScript.Page

open Markup

/-- The marks of the head of a page. -/
def headMarks (p : Page) : List Mark :=
  [⟨"head", []⟩, ⟨"meta charset=\"utf-8\"/", []⟩, ⟨"title", escapeText p.shownTitle⟩,
   ⟨"/title", []⟩, ⟨"style", style⟩, ⟨"/style", []⟩, ⟨"/head", []⟩]

/-- The marks of the body of a page up to the start tag of the script block. -/
def bodyMarks (p : Page) : List Mark :=
  [⟨"body", []⟩, ⟨"h1", escapeText p.shownTitle⟩, ⟨"/h1", []⟩,
   ⟨"dl id=\"options\"", []⟩, ⟨"dt", "Layout"⟩, ⟨"/dt", []⟩,
   ⟨"dd class=\"layout\"", escapeText p.target.layout⟩, ⟨"/dd", []⟩, ⟨"dt", "Board"⟩, ⟨"/dt", []⟩,
   ⟨"dd class=\"board\"", escapeText p.target.board⟩, ⟨"/dd", []⟩, ⟨"/dl", []⟩, ⟨"h2", "Script"⟩,
   ⟨"/h2", []⟩, ⟨"pre id=\"script\"", []⟩]

/-- The marks of a page from the end tag of the script block to the start tag of the list of
diagnostics. -/
def errorsMarks : List Mark :=
  [⟨"/pre", []⟩, ⟨"h2", "Diagnostics"⟩, ⟨"/h2", []⟩, ⟨"ul id=\"errors\"", []⟩]

/-- The marks of a page from the end tag of the list of diagnostics to the end of the body. -/
def sketchMarks (p : Page) : List Mark :=
  [⟨"/ul", []⟩, ⟨"h2", "Sketch"⟩, ⟨"/h2", []⟩,
   ⟨"pre id=\"sketch\"", guardNewline "pre" [.text p.sketch] ++ escapeText p.sketch⟩, ⟨"/pre", []⟩,
   ⟨"/body", []⟩]

/-- The start mark of a line of the script with its number, and its text. -/
def lineStart (groups : List (Int × List Diagnostic)) (line : Bytes × Nat) : Mark where
  tag := (lineSpan line.2 (Result.errorsAt groups line.2) line.1).startTag.content
  text := escapeText line.1

/-- The marks of the lines of a script from line `number` on. -/
def lineMarks (groups : List (Int × List Diagnostic)) (number : Nat) (lines : List Bytes) :
    List Mark :=
  markPairs (lineStart groups) ⟨"/span", "\n"⟩ (lines.zipIdx number)

/-- The start mark of a diagnostic, and its text. -/
def itemStart (e : Diagnostic) : Mark where
  tag := (item e).startTag.content
  text := escapeText e.text

/-- The marks of diagnostics. -/
def itemMarks (errors : List Diagnostic) : List Mark := markPairs itemStart ⟨"/li", []⟩ errors

theorem lineMarks_cons (groups : List (Int × List Diagnostic)) (number : Nat) (line : Bytes)
    (lines : List Bytes) :
    lineMarks groups number (line :: lines) =
      lineStart groups (line, number) :: ⟨"/span", "\n"⟩ :: lineMarks groups (number + 1) lines :=
  rfl

theorem itemMarks_cons (e : Diagnostic) (errors : List Diagnostic) :
    itemMarks (e :: errors) = itemStart e :: ⟨"/li", []⟩ :: itemMarks errors := rfl

/-! ## The marks of the tree -/

/-- The spans of the lines are divided into the marks of the lines. -/
theorem markAll_lineSpans (groups : List (Int × List Diagnostic)) (number : Nat)
    (lines : List Bytes) (ms : List Mark) :
    markAll false (lineSpans groups number lines) { marks := ms } =
      { marks := lineMarks groups number lines ++ ms } := by
  induction lines generalizing number with
  | nil => rfl
  | cons line lines ih =>
    rw [lineSpans, markAll, markAll, ih, lineMarks_cons, lineStart, lineSpan, markBefore_withText
      (by decide) (by decide), startTag_withText]
    rfl

/-- The items of a list are divided into the marks of the diagnostics. -/
theorem markAll_items (errors : List Diagnostic) (ms : List Mark) :
    markAll false (errors.map item) { marks := ms } = { marks := itemMarks errors ++ ms } := by
  induction errors with
  | nil => rfl
  | cons e errors ih =>
    rw [List.map_cons, markAll, ih, itemMarks_cons, itemStart, item,
      markBefore_withText (by decide) (by decide), startTag_withText]
    rfl

/-- A span does not begin with a text. -/
theorem guardNewline_lineSpans (name : Bytes) (groups : List (Int × List Diagnostic)) (number : Nat)
    (lines : List Bytes) : guardNewline name (lineSpans groups number lines) = [] := by
  cases lines <;> rfl

/-- The marks of the script block. -/
theorem markBefore_scriptBlock (script : Bytes) (result : Result) (literal : Bool)
    (ms : List Mark) :
    (scriptBlock script result).markBefore literal { marks := ms } =
      { marks := ⟨"pre id=\"script\"", []⟩ ::
          (lineMarks result.errorLines 1 (splitLines script) ++ ⟨"/pre", []⟩ :: ms) } :=
  markBefore_page (by decide) (guardNewline_lineSpans _ _ _ _) (markAll_lineSpans _ _ _ _)

/-- The marks of the list of diagnostics. -/
theorem markBefore_errorList (result : Result) (literal : Bool)
    (ms : List Mark) :
    (errorList result).markBefore literal { marks := ms } =
      { marks := ⟨"ul id=\"errors\"", []⟩ ::
          (itemMarks result.errors ++ ⟨"/ul", []⟩ :: ms) } :=
  markBefore_page (by decide) (guardNewline_of_ne (by decide) _) (markAll_items _ _)

/-- The marks of the list that names the target. -/
theorem markBefore_targetList (target : Target) (literal : Bool)
    (ms : List Mark) :
    (targetList target).markBefore literal { marks := ms } =
      { marks := [⟨"dl id=\"options\"", []⟩, ⟨"dt", "Layout"⟩, ⟨"/dt", []⟩,
          ⟨"dd class=\"layout\"", escapeText target.layout⟩, ⟨"/dd", []⟩, ⟨"dt", "Board"⟩,
          ⟨"/dt", []⟩, ⟨"dd class=\"board\"", escapeText target.board⟩, ⟨"/dd", []⟩,
          ⟨"/dl", []⟩] ++ ms } := by
  refine markBefore_page (by decide) (guardNewline_of_ne (by decide) _) ?_
  simp (disch := decide) only [markAll, markBefore_withText, guardNewline_of_ne]
  rfl

/-- The marks of the head. Its style sheet is written without escapes. -/
theorem markBefore_head (p : Page) (literal : Bool) (ms : List Mark) :
    (Node.page "head" []
      [.page "meta" [attr "charset" "utf-8"] [], .withText "title" [] p.shownTitle,
       .withText "style" [] style]).markBefore literal { marks := ms } =
      { marks := p.headMarks ++ ms } := by
  have hmeta (ms : List Mark) :
      (Node.page "meta" [attr "charset" "utf-8"] []).markBefore false { marks := ms } =
        { marks := ⟨"meta charset=\"utf-8\"/", []⟩ :: ms } := rfl
  have hstyle (ms : List Mark) :
      (Node.withText "style" [] style).markBefore false { marks := ms } =
        { marks := ⟨"style", style⟩ :: ⟨"/style", []⟩ :: ms } := rfl
  have hhead : literalElements.contains ("head" : Bytes) = false := by decide
  refine markBefore_page (by decide) (guardNewline_of_ne (by decide) _) ?_
  simp (disch := decide) only [hhead, markAll, hmeta, hstyle, markBefore_withText,
    guardNewline_of_ne]
  rfl

/-- The marks of the body, from those of its blocks. -/
theorem markBefore_body (p : Page) (literal : Bool) (ms : List Mark) :
    (Node.page "body" []
      [.withText "h1" [] p.shownTitle, targetList p.target,
       .withText "h2" [] "Script", scriptBlock p.script p.result,
       .withText "h2" [] "Diagnostics", errorList p.result,
       .withText "h2" [] "Sketch",
       .withText "pre" [attr "id" "sketch"] p.sketch]).markBefore literal { marks := ms } =
      { marks := p.bodyMarks ++ (lineMarks p.result.errorLines 1 (splitLines p.script) ++
          (errorsMarks ++ (itemMarks p.result.errors ++ (p.sketchMarks ++ ms)))) } := by
  refine markBefore_page (by decide) (guardNewline_of_ne (by decide) _) ?_
  simp (disch := decide) only [markAll, markBefore_withText, markBefore_scriptBlock,
    markBefore_errorList, markBefore_targetList, guardNewline_of_ne]
  rfl

/-- The marks of a page, from those of its head and its body. -/
theorem markAll_document (p : Page) :
    markAll false p.document {} =
      { marks := ⟨"!DOCTYPE html", []⟩ :: ⟨"html", []⟩ :: (p.headMarks ++ (p.bodyMarks ++
          (lineMarks p.result.errorLines 1 (splitLines p.script) ++ (errorsMarks ++
            (itemMarks p.result.errors ++ (p.sketchMarks ++ [⟨"/html", []⟩])))))) } := by
  rw [document, markAll, markAll, markAll, markBefore_page (by decide)
    (guardNewline_of_ne (by decide) _)
    (by rw [markAll, markAll, markAll, markBefore_body, markBefore_head])]
  rfl

/-! ## Plain names -/

/-- The start tag of a line has plain names, with or without a diagnostic. -/
theorem isPlain_startTag_lineSpan (number : Nat) (errors : List Diagnostic) (line : Bytes) :
    (lineSpan number errors line).startTag.isPlain = true := by
  rw [lineSpan, startTag_withText]
  cases errors <;> rfl

theorem arePlain_lineSpans (literal : Bool) (groups : List (Int × List Diagnostic)) (number : Nat)
    (lines : List Bytes) : arePlain literal (lineSpans groups number lines) = true := by
  induction lines generalizing number with
  | nil => rfl
  | cons line lines ih =>
    have hspan := isPlain_startTag_lineSpan number (Result.errorsAt groups number) line
    rw [lineSpan, startTag_withText] at hspan
    rw [lineSpans, arePlain, arePlain, ih, lineSpan,
      isPlain_withText hspan (by decide) (by decide) (by decide)]
    cases literal <;> rfl

theorem arePlain_items (literal : Bool) (errors : List Diagnostic) :
    arePlain literal (errors.map item) = true := by
  induction errors with
  | nil => rfl
  | cons e errors ih =>
    rw [List.map_cons, arePlain, ih, item, isPlain_withText rfl (by decide) (by decide) (by decide)]
    rfl

/-- All names of a page are plain, and its style sheet holds no less-than sign. -/
theorem arePlain_document (p : Page) : arePlain false p.document = true := by
  have hdoctype : (Node.doctype "html" [] []).isPlain false = true := rfl
  have hmeta (literal : Bool) :
      (Node.page "meta" [attr "charset" "utf-8"] []).isPlain literal = true := rfl
  have hstyle (literal : Bool) : (Node.withText "style" [] style).isPlain literal = true := by
    decide +revert
  simp (disch := decide) only [document, targetList, scriptBlock, errorList, arePlain, hdoctype,
    hmeta, hstyle, isPlain_page, isPlain_withText, arePlain_lineSpans, arePlain_items,
    Bool.and_true]

/-- The marks of a page in front of the lines of its script. -/
def frontMarks (p : Page) : List Mark :=
  ⟨"!DOCTYPE html", []⟩ :: ⟨"html", []⟩ :: (p.headMarks ++ p.bodyMarks)

/-- The marks of a page behind its diagnostics. -/
def backMarks (p : Page) : List Mark := p.sketchMarks ++ [⟨"/html", []⟩]

/-- What is read from a page: the frame, with the lines and the diagnostics in it. -/
theorem read_render (p : Page) :
    Marked.read p.render =
      { marks := p.frontMarks ++ lineMarks p.result.errorLines 1 (splitLines p.script) ++
          errorsMarks ++ itemMarks p.result.errors ++ p.backMarks } := by
  rw [render, read_renderNodes (arePlain_document p), markAll_document]
  simp only [frontMarks, backMarks, List.cons_append, List.append_assoc]

/-! ## What is read -/

section Lines

variable (groups : List (Int × List Diagnostic)) (number : Nat) (lines : List Bytes)

theorem name_lineStart (line : Bytes × Nat) : (lineStart groups line).name = "span" := by
  rw [lineStart, lineSpan, startTag_withText]
  exact name_content (show (32 : UInt8) ∉ ("span" : Bytes) by decide) _

theorem length_lineMarks : (lineMarks groups number lines).length = 2 * lines.length := by
  rw [lineMarks, length_markPairs, List.length_zipIdx]

/-- The texts of the lines, if the lines are what is looked for. -/
theorem texts_lineMarks {q : Mark → Bool} {wanted : Bool}
    (hstart : ∀ m : Mark, m.name = "span" → q m = wanted) (hend : q ⟨"/span", "\n"⟩ = false) :
    texts q (lineMarks groups number lines) = if wanted then lines.map escapeText else [] := by
  have htexts : ((lines.zipIdx number).map fun line => (lineStart groups line).text) =
      lines.map escapeText := by
    have hmap : (fun line => (lineStart groups line).text) = escapeText ∘ Prod.fst := rfl
    rw [hmap, ← List.map_map, List.zipIdx_map_fst]
  rw [lineMarks, texts_markPairs (fun line => hstart _ (name_lineStart groups line)) hend, htexts]

/-- The outlines of the start tag and the end tag of a line. -/
def lineOutlines (rejected : Bool) : List (List Bytes) :=
  [if rejected then ["span data-line=", " title=", " class=", ""]
   else ["span data-line=", " class=", ""], ["/span"]]

/-- The outlines of the lines depend on which of them have a diagnostic. -/
theorem map_outline_lineMarks :
    (lineMarks groups number lines).map Mark.outline =
      ((lines.zipIdx number).map fun line => !(Result.errorsAt groups line.2).isEmpty).flatMap
        lineOutlines := by
  have hline (line : Bytes × Nat) :
      [(lineStart groups line).outline, Mark.outline ⟨"/span", "\n"⟩] =
        lineOutlines !(Result.errorsAt groups line.2).isEmpty := by
    rw [lineStart, outline_content (isPlain_startTag_lineSpan _ _ _), lineSpan, startTag_withText]
    cases Result.errorsAt groups line.2 <;> rfl
  rw [lineMarks, map_outline_markPairs, List.flatMap_map]
  simp only [hline]

end Lines

theorem name_itemStart (e : Diagnostic) : (itemStart e).name = "li" := by
  rw [itemStart, item, startTag_withText]
  exact name_content (show (32 : UInt8) ∉ ("li" : Bytes) by decide) _

theorem length_itemMarks (errors : List Diagnostic) :
    (itemMarks errors).length = 2 * errors.length := length_markPairs _ _ errors

/-- The texts of the diagnostics, if the diagnostics are what is looked for. -/
theorem texts_itemMarks {q : Mark → Bool} {wanted : Bool}
    (hstart : ∀ m : Mark, m.name = "li" → q m = wanted) (hend : q ⟨"/li", []⟩ = false)
    (errors : List Diagnostic) :
    texts q (itemMarks errors) =
      if wanted then (errors.map Diagnostic.text).map escapeText else [] := by
  rw [itemMarks, texts_markPairs (fun e => hstart _ (name_itemStart e)) hend, List.map_map]
  rfl

/-- The outlines of the start tag and the end tag of a diagnostic. -/
def itemOutlines : List (List Bytes) := [["li data-line=", ""], ["/li"]]

/-- The outlines of the diagnostics depend on how many there are. -/
theorem map_outline_itemMarks (errors : List Diagnostic) :
    (itemMarks errors).map Mark.outline =
      (List.replicate errors.length itemOutlines).flatten := by
  have hitem (e : Diagnostic) :
      [(itemStart e).outline, Mark.outline ⟨"/li", []⟩] = itemOutlines := by
    rw [itemStart, item, startTag_withText, outline_content rfl]
    rfl
  rw [itemMarks, map_outline_markPairs, ← List.map_const', List.flatMap]
  simp only [hitem]

/-- Which lines of the script have a diagnostic. -/
def rejectedLines (p : Page) : List Bool :=
  ((splitLines p.script).zipIdx 1).map fun line => p.result.errors.any (·.line == line.2)

theorem rejectedLines_eq (p : Page) :
    p.rejectedLines = ((splitLines p.script).zipIdx 1).map fun line =>
      !(Result.errorsAt p.result.errorLines line.2).isEmpty := by
  refine List.map_congr_left fun line _ => ?_
  rw [Result.errorsAt_errorLines, Bool.eq_iff_iff]
  simp

/-- The outlines of the tags of a page, from which of its lines have a diagnostic and how many
diagnostics it has. -/
def outlines (rejected : List Bool) (errors : Nat) : List (List Bytes) :=
  (frontMarks {}).map Mark.outline ++ rejected.flatMap lineOutlines ++
    errorsMarks.map Mark.outline ++ (List.replicate errors itemOutlines).flatten ++
    (backMarks {}).map Mark.outline

section Reading

variable (p : Page)

/-- The number of tags: those of the frame, and two for each line and each diagnostic. -/
theorem count_lessThan_render : p.render.count lessThan =
    36 + 2 * (splitLines p.script).length + 2 * p.result.errors.length := by
  have hfront : p.frontMarks.length = 25 := rfl
  have hmiddle : errorsMarks.length = 4 := rfl
  have hback : p.backMarks.length = 7 := rfl
  rw [← Marked.length_marks_read, read_render]
  simp only [List.length_append, length_lineMarks, length_itemMarks]
  omega

/-- The outlines of the tags that are read. -/
theorem map_outline_read : (Marked.read p.render).marks.map Mark.outline =
    outlines p.rejectedLines p.result.errors.length := by
  rw [read_render, rejectedLines_eq]
  simp only [List.map_append, map_outline_lineMarks, map_outline_itemMarks]
  rfl

/-- The texts that are read, part by part. -/
theorem texts_read (q : Mark → Bool) :
    texts q (Marked.read p.render).marks =
      texts q p.frontMarks ++ texts q (lineMarks p.result.errorLines 1 (splitLines p.script)) ++
        texts q errorsMarks ++ texts q (itemMarks p.result.errors) ++ texts q p.backMarks := by
  simp only [read_render, texts_append]

/-- What has another name than the lines and the diagnostics is in the frame of the page. -/
theorem texts_read_of_ne {q : Mark → Bool} {name : Bytes}
    (hq : ∀ m : Mark, q m = true → m.name = name)
    (h : name ∉ ([("span" : Bytes), "/span", "li", "/li"])) :
    texts q (Marked.read p.render).marks =
      texts q p.frontMarks ++ texts q errorsMarks ++ texts q p.backMarks := by
  have hother (other : Bytes) (hmem : other ∈ ([("span" : Bytes), "/span", "li", "/li"]))
      (m : Mark) (hm : m.name = other) : q m = false :=
    Bool.eq_false_iff.mpr fun htrue => h (hq m htrue ▸ hm ▸ hmem)
  rw [texts_read,
    texts_lineMarks _ _ _ (hother "span" (by decide)) (hother "/span" (by decide) _ rfl),
    texts_itemMarks (hother "li" (by decide)) (hother "/li" (by decide) _ rfl)]
  simp only [Bool.false_eq_true, if_false, List.append_nil]

/-- What is nowhere in the frame of the page is among the lines and the diagnostics. -/
theorem texts_read_of_frame {q : Mark → Bool} (hfront : texts q p.frontMarks = [])
    (hmiddle : texts q errorsMarks = []) (hback : texts q p.backMarks = []) :
    texts q (Marked.read p.render).marks =
      texts q (lineMarks p.result.errorLines 1 (splitLines p.script)) ++
        texts q (itemMarks p.result.errors) := by
  rw [texts_read, hfront, hmiddle, hback, List.nil_append, List.append_nil, List.append_nil]

/-- The texts in spans are the lines of the script. -/
theorem texts_read_span :
    texts (·.name == "span") (Marked.read p.render).marks =
      (splitLines p.script).map escapeText := by
  rw [texts_read_of_frame p rfl rfl rfl,
    texts_lineMarks _ _ _ (fun m hm => beq_iff_eq.mpr hm) (by decide),
    texts_itemMarks (fun m hm => by rw [hm]) (by decide)]
  exact List.append_nil _

/-- The texts in items are the diagnostics with their line numbers. -/
theorem texts_read_item :
    texts (·.name == "li") (Marked.read p.render).marks =
      (p.result.errors.map Diagnostic.text).map escapeText := by
  rw [texts_read_of_frame p rfl rfl rfl,
    texts_lineMarks _ _ _ (fun m hm => by rw [hm]) (by decide),
    texts_itemMarks (fun m hm => beq_iff_eq.mpr hm) (by decide)]
  rfl

/-- The sketch is the text of one of the two blocks, with a line feed in front if it begins with
one. -/
theorem texts_read_sketch :
    texts (·.tag == "pre id=\"sketch\"") (Marked.read p.render).marks =
      [(if p.sketch.startsWith "\n" then ("\n" : Bytes) else []) ++ escapeText p.sketch] := by
  -- The start tag of the script block has the same name, but not the same identifier.
  have hname (m : Mark) (hm : (m.tag == "pre id=\"sketch\"") = true) : m.name = "pre" := by
    rw [Mark.name, eq_of_beq hm]
    decide
  exact texts_read_of_ne p hname (by decide)

/-- A rendered page is cut at its less-than signs into the tags of the page, whatever its texts are.
The outlines of the tags depend on nothing but which lines have a diagnostic and how many
diagnostics there are, and no text is lost. -/
theorem read_render_texts :
    let found := Marked.read p.render
    let textsNamed := fun name : Bytes =>
      (texts (fun m => m.name == name) found.marks).map (unescape false)
    p.render.count lessThan =
      36 + 2 * (splitLines p.script).length + 2 * p.result.errors.length ∧
    found.lead = [] ∧
    found.marks.map Mark.outline = outlines p.rejectedLines p.result.errors.length ∧
    textsNamed "title" = [p.shownTitle] ∧
    textsNamed "h1" = [p.shownTitle] ∧
    textsNamed "dd" = [p.target.layout, p.target.board] ∧
    textsNamed "span" = splitLines p.script ∧
    textsNamed "li" = p.result.errors.map Diagnostic.text ∧
    ∃ text, texts (fun m => m.tag == "pre id=\"sketch\"") found.marks =
        [(if p.sketch.startsWith "\n" then ("\n" : Bytes) else []) ++ text] ∧
      unescape false text = p.sketch := by
  intro found textsNamed
  have hread {name : Bytes} {shown : List Bytes}
      (h : texts (fun m => m.name == name) found.marks = shown.map escapeText) :
      textsNamed name = shown := by
    simp only [textsNamed, h, map_unescape_map_escapeText]
  -- The frame is the same for every page but for its texts, so its part is read off.
  refine ⟨count_lessThan_render p, congrArg Marked.lead (read_render p), map_outline_read p,
    hread ?_, hread ?_, hread ?_, hread (texts_read_span p), hread (texts_read_item p),
    escapeText p.sketch, texts_read_sketch p, unescape_escapeText p.sketch⟩
  all_goals exact texts_read_of_ne p (fun _ => eq_of_beq) (by decide)

end Reading

end KeyScript.Page
