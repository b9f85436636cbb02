import KeyScript.Proofs.Markup.References
import KeyScript.Proofs.Script.Printing

/-!
# Reading the tags of a text

A reader that knows nothing of trees cuts a text of markup at its angle brackets: a tag runs from a
less-than sign to the next greater-than sign, and the text behind it up to the next less-than sign.
The text form of a tree with plain tags is cut in this way into the tags of the tree, so no text and
no attribute value of the tree can be taken for a tag.

## Main definitions

- `Mark` — a tag of a text and the text that follows it
- `Marked.read` — cuts a text at its tags
- `Node.isPlain` — a tree whose names are plain
- `Node.markBefore` — the marks of a tree in front of other marks

## Main results

- `Markup.read_renderNodes` — what is read from the text form of a tree
- `Markup.outline_content` — the part of a tag outside its attribute values
-/

namespace KeyScript.Markup

/-- A tag of a text without its angle brackets, and the text between it and the next tag. -/
structure Mark where
  tag : Bytes
  text : Bytes
deriving DecidableEq, Repr, Inhabited

/-- A text that is cut at its tags: the text before the first tag, and the tags. -/
structure Marked where
  lead : Bytes := []
  marks : List Mark := []
deriving DecidableEq, Repr, Inhabited

/-- A piece of text behind a less-than sign as a mark. -/
def Mark.ofPiece (piece : Bytes) : Mark :=
  let halves := Bytes.cut greaterThan piece
  { tag := halves.1, text := halves.2.getD [] }

/-- Cuts a text at its tags. -/
def Marked.read (s : Bytes) : Marked :=
  match Bytes.splitAt lessThan s with
  | lead :: pieces => { lead, marks := pieces.map Mark.ofPiece }
  | [] => {}

/-- The name of a tag, with a slash in front if it is an end tag. -/
def Mark.name (m : Mark) : Bytes := (Bytes.cut 32 m.tag).1

/-- Every other one of some byte strings, from the first on. -/
def everyOther : List Bytes → List Bytes
  | part :: _ :: parts => part :: everyOther parts
  | parts => parts

/-- The parts of a tag outside its quotes: its name, and the names of its attributes. -/
def Mark.outline (m : Mark) : List Bytes := everyOther (Bytes.splitAt quotationMark m.tag)

/-- The texts behind some of the tags. -/
def texts (q : Mark → Bool) (ms : List Mark) : List Bytes := (ms.filter q).map Mark.text

theorem texts_append (q : Mark → Bool) (ms ms' : List Mark) :
    texts q (ms ++ ms') = texts q ms ++ texts q ms' := by
  rw [texts, List.filter_append, List.map_append]
  rfl

/-- A start mark and an end mark for each of some things. The end marks are all the same. -/
def markPairs {α : Type} (start : α → Mark) (finish : Mark) (xs : List α) : List Mark :=
  xs.flatMap fun x => [start x, finish]

section Pairs

variable {α : Type} (start : α → Mark) (finish : Mark)

theorem markPairs_cons (x : α) (xs : List α) :
    markPairs start finish (x :: xs) = start x :: finish :: markPairs start finish xs := rfl

theorem length_markPairs (xs : List α) : (markPairs start finish xs).length = 2 * xs.length := by
  induction xs with
  | nil => rfl
  | cons x xs ih =>
    rw [markPairs_cons, List.length_cons, List.length_cons, ih, List.length_cons]
    omega

theorem map_outline_markPairs (xs : List α) :
    (markPairs start finish xs).map Mark.outline =
      xs.flatMap fun x => [(start x).outline, finish.outline] := by
  rw [markPairs, List.map_flatMap]
  rfl

variable {start finish}

/-- If either all start marks count or none does, and no end mark does, then either the texts of all
of them are there or none is. -/
theorem texts_markPairs {q : Mark → Bool} {wanted : Bool} (hstart : ∀ x, q (start x) = wanted)
    (hfinish : q finish = false) (xs : List α) :
    texts q (markPairs start finish xs) =
      if wanted then xs.map fun x => (start x).text else [] := by
  induction xs with
  | nil => cases wanted <;> rfl
  | cons x xs ih =>
    have hstep : texts q (markPairs start finish (x :: xs)) =
        texts q [start x, finish] ++ texts q (markPairs start finish xs) := texts_append q _ _
    rw [hstep, ih]
    cases wanted <;> simp [texts, hstart x, hfinish]

end Pairs

/-! ## Marks that are told apart -/

def Mark.render (m : Mark) : Bytes := lessThan :: m.tag ++ greaterThan :: m.text

def Marked.render (t : Marked) : Bytes := t.lead ++ t.marks.flatMap Mark.render

/-- A mark that holds no angle brackets but its own. A greater-than sign behind the tag does no
harm. -/
structure Mark.IsClean (m : Mark) : Prop where
  lessThan_tag : lessThan ∉ m.tag
  greaterThan_tag : greaterThan ∉ m.tag
  lessThan_text : lessThan ∉ m.text

/-- A text that is cut only where its tags begin. -/
structure Marked.IsClean (t : Marked) : Prop where
  lead : lessThan ∉ t.lead
  marks : ∀ m ∈ t.marks, m.IsClean

theorem Mark.ofPiece_append {m : Mark} (h : m.IsClean) :
    Mark.ofPiece (m.tag ++ greaterThan :: m.text) = m := by
  have hcut : Bytes.cut greaterThan (m.tag ++ greaterThan :: m.text) = (m.tag, some m.text) := by
    rw [Bytes.cut_append, Bytes.cut_of_notMem h.greaterThan_tag, Bytes.cut, if_pos rfl]
    simp only [List.append_nil]
  simp only [Mark.ofPiece, hcut, Option.getD_some]

theorem splitAt_append_flatMap_render {lead : Bytes} {ms : List Mark} (hlead : lessThan ∉ lead)
    (h : ∀ m ∈ ms, m.IsClean) :
    Bytes.splitAt lessThan (lead ++ ms.flatMap Mark.render) =
      lead :: ms.map fun m => m.tag ++ greaterThan :: m.text := by
  -- What stands behind a less-than sign is the text before the next one, for any such text.
  induction ms generalizing lead with
  | nil => rw [List.flatMap_nil, List.append_nil, Bytes.splitAt_of_notMem hlead, List.map_nil]
  | cons m ms ih =>
    obtain ⟨hm, hms⟩ := List.forall_mem_cons.mp h
    have hpiece : lessThan ∉ m.tag ++ greaterThan :: m.text := by
      simp only [List.mem_append, List.mem_cons, not_or]
      exact ⟨hm.lessThan_tag, by decide, hm.lessThan_text⟩
    rw [List.flatMap_cons, Mark.render, List.cons_append, List.cons_append,
      Bytes.splitAt_append_cons hlead, ih hpiece hms, List.map_cons]

/-- A text is cut into the marks that it was put together from. -/
theorem Marked.read_render {t : Marked} (h : t.IsClean) : Marked.read t.render = t := by
  rw [Marked.read, Marked.render, splitAt_append_flatMap_render h.lead h.marks]
  simp only [List.map_map]
  congr
  refine (List.map_congr_left fun m hm => ?_).trans (List.map_id _)
  exact Mark.ofPiece_append (h.marks m hm)

/-- There is one mark for every less-than sign. -/
theorem Marked.length_marks_read (s : Bytes) : (Marked.read s).marks.length = s.count lessThan := by
  have hlength := Bytes.length_splitAt lessThan s
  rw [Marked.read]
  split <;> simp_all

/-! ## The marks of a tree -/

/-- What stands between the angle brackets of a start tag. -/
def Tag.content (tag : Tag) : Bytes := tag.name ++ tag.attributes.flatMap Attribute.render

/-- Whether the names of a tag hold nothing that can be taken for its end. -/
def Tag.isPlain (tag : Tag) : Bool :=
  tag.name.all isTagFree && tag.attributes.all fun a => a.name.all isTagFree

mutual

/-- Whether the names of a node are plain, and the texts that are written without escapes, too. -/
def Node.isPlain (literal : Bool) : Node → Bool
  | .text data => !literal || !data.contains lessThan
  | .comment _ => false
  | .doctype _ publicId systemId => publicId.isEmpty && systemId.isEmpty
  | .element tag children =>
    tag.isPlain &&
      if tag.isVoid then children.isEmpty else !tag.isLast && arePlain tag.isLiteral children

def arePlain (literal : Bool) : List Node → Bool
  | [] => true
  | node :: nodes => node.isPlain literal && arePlain literal nodes

end

mutual

/-- The marks of a node in front of what follows it. A comment and an identifier of a document type
are not divided into marks. -/
def Node.markBefore (literal : Bool) : Node → Marked → Marked
  | .text data, rest =>
    { rest with lead := (if literal then data else escapeText data) ++ rest.lead }
  | .comment data, rest => { rest with lead := (Node.comment data).render literal ++ rest.lead }
  | .doctype name _ _, rest =>
    { marks := { tag := "!DOCTYPE " ++ escapeText name, text := rest.lead } :: rest.marks }
  | .element tag children, rest =>
    if tag.isVoid then { marks := { tag := tag.content ++ "/", text := rest.lead } :: rest.marks }
    else
      let inner := markAll tag.isLiteral children
        { marks := { tag := "/" ++ tag.name, text := rest.lead } :: rest.marks }
      { marks := { tag := tag.content, text := guardNewline tag.name children ++ inner.lead } ::
          inner.marks }

def markAll (literal : Bool) : List Node → Marked → Marked
  | [], rest => rest
  | node :: nodes, rest => node.markBefore literal (markAll literal nodes rest)

end

/-- The start tag of a node that is an element. -/
def Node.startTag : Node → Tag
  | .element tag _ => tag
  | _ => { name := [] }

section Tags

variable {tag : Tag}

theorem startTag_withText (name : Bytes) (attributes : List Attribute) (data : Bytes) :
    (Node.withText name attributes data).startTag = { name, attributes } := by
  unfold Node.withText
  split <;> rfl

/-- The name of a start tag is what stands before its attributes. -/
theorem name_content (h : 32 ∉ tag.name) (text : Bytes) :
    Mark.name { tag := tag.content, text } = tag.name := by
  rw [Mark.name, Tag.content, Bytes.cut_append, Bytes.cut_of_notMem h]
  cases hattributes : tag.attributes with
  | nil => simp [Bytes.cut]
  | cons a attributes =>
    -- The text of an attribute begins with a space.
    obtain ⟨rest, hrender⟩ : ∃ rest, a.render = 32 :: rest := ⟨_, rfl⟩
    rw [List.flatMap_cons, hrender, List.cons_append, Bytes.cut, if_pos rfl]
    exact List.append_nil _

theorem notMem_of_all_isTagFree {s : Bytes} (h : s.all isTagFree = true) :
    lessThan ∉ s ∧ greaterThan ∉ s ∧ quotationMark ∉ s := by
  rw [List.all_eq_true] at h
  refine ⟨fun hb => ?_, fun hb => ?_, fun hb => ?_⟩ <;>
    exact absurd (h _ hb) (by decide)

theorem notMem_content (h : tag.isPlain = true) :
    lessThan ∉ tag.content ∧ greaterThan ∉ tag.content := by
  rw [Tag.isPlain, Bool.and_eq_true] at h
  obtain ⟨hname, hattributes⟩ := h
  rw [List.all_eq_true] at hattributes
  have hrender : ∀ a ∈ tag.attributes, lessThan ∉ a.render ∧ greaterThan ∉ a.render := by
    intro a ha
    obtain ⟨hless, hgreater, -⟩ := notMem_of_all_isTagFree (hattributes a ha)
    obtain ⟨hless', hgreater', -⟩ := notMem_of_all_isTagFree (escapeText_all a.value)
    simp only [Attribute.render, List.mem_append, not_or]
    exact ⟨⟨⟨⟨⟨by decide, hless⟩, by decide⟩, hless'⟩, by decide⟩,
      ⟨⟨⟨by decide, hgreater⟩, by decide⟩, hgreater'⟩, by decide⟩
  obtain ⟨hless, hgreater, -⟩ := notMem_of_all_isTagFree hname
  simp only [Tag.content, List.mem_append, List.mem_flatMap, not_or, not_exists, not_and]
  exact ⟨⟨hless, fun a ha => (hrender a ha).1⟩, hgreater, fun a ha => (hrender a ha).2⟩

theorem lessThan_notMem_guardNewline (name : Bytes) (children : List Node) :
    lessThan ∉ guardNewline name children := by
  unfold guardNewline
  split
  · split <;> decide
  · decide

end Tags

theorem isClean_cons {tag text : Bytes} {ms : List Mark} (hless : lessThan ∉ tag)
    (hgreater : greaterThan ∉ tag) (htext : lessThan ∉ text) (h : ∀ m ∈ ms, m.IsClean) :
    Marked.IsClean { marks := { tag, text } :: ms } :=
  ⟨List.not_mem_nil, List.forall_mem_cons.mpr ⟨⟨hless, hgreater, htext⟩, h⟩⟩

mutual

/-- The marks of a plain node can be told apart if those that follow it can. -/
theorem Node.isClean_markBefore (literal : Bool) : ∀ (node : Node) {rest : Marked},
    node.isPlain literal = true → rest.IsClean → (node.markBefore literal rest).IsClean
  | .text data, rest, h, hrest => by
    rw [Node.markBefore]
    refine ⟨?_, hrest.marks⟩
    rw [List.mem_append, not_or]
    refine ⟨?_, hrest.lead⟩
    split
    next hliteral => simpa [Node.isPlain, hliteral] using h
    next => exact (notMem_of_all_isTagFree (escapeText_all data)).1
  | .comment data, _, h, _ => by simp [Node.isPlain] at h
  | .doctype name _ _, rest, _, hrest => by
    obtain ⟨hless, hgreater, -⟩ := notMem_of_all_isTagFree (escapeText_all name)
    rw [Node.markBefore]
    refine isClean_cons ?_ ?_ hrest.lead hrest.marks <;> rw [List.mem_append, not_or]
    · exact ⟨by decide, hless⟩
    · exact ⟨by decide, hgreater⟩
  | .element tag children, rest, h, hrest => by
    rw [Node.isPlain, Bool.and_eq_true] at h
    obtain ⟨htag, hchildren⟩ := h
    obtain ⟨hless, hgreater⟩ := notMem_content htag
    rw [Node.markBefore]
    split at hchildren
    next hvoid =>
      rw [if_pos hvoid]
      refine isClean_cons ?_ ?_ hrest.lead hrest.marks <;> rw [List.mem_append, not_or]
      · exact ⟨hless, by decide⟩
      · exact ⟨hgreater, by decide⟩
    next hvoid =>
      rw [if_neg hvoid]
      rw [Bool.and_eq_true] at hchildren
      rw [Tag.isPlain, Bool.and_eq_true] at htag
      obtain ⟨hless', hgreater', -⟩ := notMem_of_all_isTagFree htag.1
      -- Behind the children stands the end tag, and behind it what follows the element.
      have hend : Marked.IsClean
          { marks := { tag := "/" ++ tag.name, text := rest.lead } :: rest.marks } := by
        refine isClean_cons ?_ ?_ hrest.lead hrest.marks <;> rw [List.mem_append, not_or]
        · exact ⟨by decide, hless'⟩
        · exact ⟨by decide, hgreater'⟩
      have hinner := isClean_markAll tag.isLiteral children hchildren.2 hend
      refine isClean_cons hless hgreater ?_ hinner.marks
      rw [List.mem_append, not_or]
      exact ⟨lessThan_notMem_guardNewline _ _, hinner.lead⟩

theorem isClean_markAll (literal : Bool) : ∀ (nodes : List Node) {rest : Marked},
    arePlain literal nodes = true → rest.IsClean → (markAll literal nodes rest).IsClean
  | [], _, _, hrest => hrest
  | node :: nodes, _, h, hrest => by
    rw [arePlain, Bool.and_eq_true] at h
    exact Node.isClean_markBefore literal node h.1 (isClean_markAll literal nodes h.2 hrest)

end

mutual

/-- The text form goes on behind a plain node. -/
theorem Node.endsText_of_isPlain {literal : Bool} : ∀ {node : Node},
    node.isPlain literal = true → node.endsText = false
  | .text _, _ | .comment _, _ | .doctype _ _ _, _ => rfl
  | .element tag children, h => by
    rw [Node.isPlain, Bool.and_eq_true] at h
    have hchildren := h.2
    rw [Node.endsText]
    split at hchildren
    next hvoid => simp [hvoid, hchildren]
    next hvoid =>
      rw [Bool.and_eq_true, Bool.not_eq_true'] at hchildren
      rw [if_neg hvoid, hchildren.1, Bool.false_or, endText_of_arePlain hchildren.2]

theorem endText_of_arePlain {literal : Bool} : ∀ {nodes : List Node},
    arePlain literal nodes = true → endText nodes = false
  | [], _ => rfl
  | node :: nodes, h => by
    rw [arePlain, Bool.and_eq_true] at h
    rw [endText, Node.endsText_of_isPlain h.1, endText_of_arePlain h.2, Bool.or_false]

end

theorem Marked.render_cons (tag text : Bytes) (ms : List Mark) :
    Marked.render { marks := { tag, text } :: ms } =
      lessThan :: tag ++ greaterThan :: Marked.render { lead := text, marks := ms } := by
  simp only [Marked.render, Mark.render, List.flatMap_cons, List.nil_append, List.append_assoc,
    List.cons_append]

theorem Tag.render_eq_content (tag : Tag) : tag.render = lessThan :: tag.content := rfl

mutual

/-- The marks of a plain node make up its text form. -/
theorem Node.render_markBefore (literal : Bool) : ∀ (node : Node) (rest : Marked),
    node.isPlain literal = true →
      (node.markBefore literal rest).render = node.render literal ++ rest.render
  | .text data, rest, _ => by
    simp only [Node.markBefore, Node.render, Marked.render, List.append_assoc]
  | .comment data, rest, h => by simp [Node.isPlain] at h
  | .doctype name publicId systemId, rest, h => by
    simp only [Node.isPlain, Bool.and_eq_true, List.isEmpty_iff] at h
    have hdoctype : renderDoctype name publicId systemId =
        lessThan :: ("!DOCTYPE " ++ escapeText name) ++ [greaterThan] := by
      simp only [renderDoctype, h, ne_eq, not_true, if_false, List.append_nil]
      rfl
    rw [Node.markBefore, Marked.render_cons, Node.render, hdoctype, List.append_assoc,
      List.singleton_append]
  | .element tag children, rest, h => by
    rw [Node.isPlain, Bool.and_eq_true] at h
    have hchildren := h.2
    rw [Node.markBefore, Node.render]
    split at hchildren
    next hvoid =>
      have hend : ("/>" : Bytes) = "/" ++ [greaterThan] := rfl
      rw [if_pos hvoid, if_pos hvoid, if_pos hchildren, Marked.render_cons, hend]
      simp only [Tag.render_eq_content, List.append_assoc, List.cons_append, List.nil_append]
    next hvoid =>
      rw [Bool.and_eq_true, Bool.not_eq_true'] at hchildren
      have hinner := render_markAll tag.isLiteral children
        { marks := { tag := "/" ++ tag.name, text := rest.lead } :: rest.marks } hchildren.2
      rw [Marked.render_cons] at hinner
      rw [if_neg hvoid, if_neg hvoid, hchildren.1, endText_of_arePlain hchildren.2,
        Marked.render_cons, Marked.render, List.append_assoc, ← Marked.render, hinner]
      have hend : tag.renderEnd = lessThan :: ("/" ++ tag.name) ++ [greaterThan] := rfl
      have hclose : (">" : Bytes) = [greaterThan] := rfl
      simp only [Tag.render_eq_content, hend, hclose, Bool.or_false, Bool.false_eq_true, if_false,
        List.append_assoc, List.cons_append, List.nil_append]

theorem render_markAll (literal : Bool) : ∀ (nodes : List Node) (rest : Marked),
    arePlain literal nodes = true →
      (markAll literal nodes rest).render = renderNodes literal nodes ++ rest.render
  | [], _, _ => rfl
  | node :: nodes, rest, h => by
    rw [arePlain, Bool.and_eq_true] at h
    rw [markAll, Node.render_markBefore literal node _ h.1, render_markAll literal nodes rest h.2,
      renderNodes, Node.endsText_of_isPlain h.1, if_neg Bool.false_ne_true, List.append_assoc]

end

/-- Reading the text form of plain nodes gives their marks. -/
theorem read_renderNodes {literal : Bool} {nodes : List Node} (h : arePlain literal nodes = true) :
    Marked.read (renderNodes literal nodes) = markAll literal nodes {} := by
  have hclean : (markAll literal nodes {}).IsClean :=
    isClean_markAll literal nodes h ⟨List.not_mem_nil, fun _ hm => absurd hm List.not_mem_nil⟩
  have hrender := render_markAll literal nodes {} h
  rw [show Marked.render {} = [] from rfl, List.append_nil] at hrender
  rw [← hrender, Marked.read_render hclean]

section Elements

variable {literal : Bool} {name : Bytes} {attributes : List Attribute}

theorem guardNewline_of_ne (h : newlineElements.contains name = false) (children : List Node) :
    guardNewline name children = [] := by
  unfold guardNewline
  split
  · rw [h, Bool.false_and, if_neg Bool.false_ne_true]
  · rfl

/-- An element that does not begin with a text is a start tag, its content and an end tag. -/
theorem markBefore_page {children : List Node} {rest : Marked} {ms : List Mark}
    (hvoid : voidElements.contains name = false) (hguard : guardNewline name children = [])
    (h : markAll (literalElements.contains name) children
      { marks := { tag := "/" ++ name, text := rest.lead } :: rest.marks } = { marks := ms }) :
    (Node.page name attributes children).markBefore literal rest =
      { marks := { tag := Tag.content { name, attributes }, text := [] } :: ms } := by
  rw [Node.page, Node.markBefore, Tag.isVoid, hvoid, if_neg Bool.false_ne_true, hguard]
  simp only [show Tag.isLiteral { name, attributes } = literalElements.contains name from rfl, h,
    List.nil_append]

/-- An element with a text is a start tag with the text behind it, and an end tag. -/
theorem markBefore_withText (hvoid : voidElements.contains name = false)
    (hliteral : literalElements.contains name = false) (data : Bytes) (rest : Marked) :
    (Node.withText name attributes data).markBefore literal rest =
      { marks := { tag := Tag.content { name, attributes },
                   text := guardNewline name [.text data] ++ escapeText data } ::
          { tag := "/" ++ name, text := rest.lead } :: rest.marks } := by
  rw [Node.withText]
  split
  next hdata =>
    have hguard : guardNewline name [.text data] = [] := by
      simp [guardNewline, hdata, Bytes.startsWith]
    rw [markBefore_page hvoid rfl rfl, hguard, hdata]
    rfl
  next =>
    rw [Node.page, Node.markBefore, Tag.isVoid, hvoid, if_neg Bool.false_ne_true]
    simp only [show Tag.isLiteral { name, attributes } = literalElements.contains name from rfl,
      hliteral, markAll, Node.markBefore, Bool.false_eq_true, if_false, List.append_nil]

theorem isPlain_page (htag : Tag.isPlain { name, attributes } = true)
    (hvoid : voidElements.contains name = false) (hlast : (name == "plaintext") = false)
    (children : List Node) :
    (Node.page name attributes children).isPlain literal =
      arePlain (literalElements.contains name) children := by
  have hopen : Tag.isLast { name, attributes } = false := by rw [Tag.isLast, hlast, Bool.and_false]
  rw [Node.page, Node.isPlain, htag, Bool.true_and, Tag.isVoid, hvoid, if_neg Bool.false_ne_true,
    hopen, Bool.not_false, Bool.true_and]
  rfl

theorem isPlain_withText (htag : Tag.isPlain { name, attributes } = true)
    (hvoid : voidElements.contains name = false) (hlast : (name == "plaintext") = false)
    (hliteral : literalElements.contains name = false) (data : Bytes) :
    (Node.withText name attributes data).isPlain literal = true := by
  rw [Node.withText, isPlain_page htag hvoid hlast, hliteral]
  split <;> rfl

end Elements

/-! ## The outline of a tag -/

/-- The parts of a tag outside its quotes behind the text `s`, from the names of its attributes. -/
def outlineOf (s : Bytes) : List Attribute → List Bytes
  | [] => [s]
  | a :: attributes => (s ++ " " ++ a.name ++ "=") :: outlineOf [] attributes

theorem everyOther_splitAt_append {s : Bytes} {attributes : List Attribute}
    (hs : quotationMark ∉ s) (h : ∀ a ∈ attributes, quotationMark ∉ a.name) :
    everyOther (Bytes.splitAt quotationMark (s ++ attributes.flatMap Attribute.render)) =
      outlineOf s attributes := by
  induction attributes generalizing s with
  | nil =>
    rw [List.flatMap_nil, List.append_nil, Bytes.splitAt_of_notMem hs, outlineOf, everyOther]
    simp
  | cons a attributes ih =>
    obtain ⟨ha, hattributes⟩ := List.forall_mem_cons.mp h
    have hvalue := (notMem_of_all_isTagFree (escapeText_all a.value)).2.2
    have hkey : quotationMark ∉ s ++ " " ++ a.name ++ "=" := by
      simp only [List.mem_append, not_or]
      exact ⟨⟨⟨hs, by decide⟩, ha⟩, by decide⟩
    have hrender : s ++ (a :: attributes).flatMap Attribute.render =
        (s ++ " " ++ a.name ++ "=") ++ quotationMark ::
          (escapeText a.value ++ quotationMark :: ([] ++ attributes.flatMap Attribute.render)) := by
      -- A value stands between two quotes, so that it is the second of every two pieces.
      have hopen : ("=\"" : Bytes) = "=" ++ [quotationMark] := rfl
      have hclose : ("\"" : Bytes) = [quotationMark] := rfl
      simp only [List.flatMap_cons, Attribute.render, hopen, hclose, List.append_assoc,
        List.cons_append, List.nil_append]
    rw [hrender, Bytes.splitAt_append_cons hkey, Bytes.splitAt_append_cons hvalue, everyOther,
      ih List.not_mem_nil hattributes, outlineOf]

/-- The outline of a plain tag depends on its name and the names of its attributes, but not on their
values. -/
theorem outline_content {tag : Tag} (h : tag.isPlain = true) (text : Bytes) :
    Mark.outline { tag := tag.content, text } = outlineOf tag.name tag.attributes := by
  rw [Tag.isPlain, Bool.and_eq_true] at h
  obtain ⟨hname, hattributes⟩ := h
  rw [List.all_eq_true] at hattributes
  exact everyOther_splitAt_append (notMem_of_all_isTagFree hname).2.2 fun a ha =>
    (notMem_of_all_isTagFree (hattributes a ha)).2.2

end KeyScript.Markup
