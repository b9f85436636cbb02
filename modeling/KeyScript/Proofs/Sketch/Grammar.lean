import KeyScript.Proofs.Script.WellFormed
import KeyScript.Proofs.Sketch.Escape
import KeyScript.Sketch.Basic

/-!
# The lines of a sketch

Whatever a script says, each line between the fixed parts of its sketch has one of six forms, with
an argument that is a literal, a numeral, a constant or a name. Texts of the script occur only
inside literals, and no text ends its literal or its line.

## Main definitions

- `Sketch.Form` — the forms of a line
- `Sketch.Form.Admits` — the arguments of a form
- `Sketch.Form.Fits` — the lines of a form

## Main results

- `Sketch.Form.eq_of_opening` — the beginning of a line fixes its form
- `Sketch.admits_of_mem_statements` — commands of the shapes that lines give have admitted arguments
- `Sketch.generate_parse_lines` — the lines of the sketch of a script
-/

namespace KeyScript.Sketch

/-- The forms of a line in the body of a sketch. -/
inductive Form where
  | typeString
  | delay
  | write
  | press
  | releaseAll
  | unknown
deriving DecidableEq, Repr

/-- The names of the modifier keys in a sketch. -/
def modifierConstants : List Bytes :=
  ["KEY_LEFT_CTRL", "KEY_LEFT_ALT", "KEY_LEFT_SHIFT", "KEY_LEFT_GUI"]

/-- The expression for a key that has a code of its own. -/
def IsKeyExpression (e : Bytes) : Prop :=
  ∃ (k : Key) (code : KeyCode), k.keyCode? = some code ∧ e = code.expression

namespace Form

/-- The fixed beginning of a line. -/
def opening : Form → Bytes
  | typeString => "  typeString("
  | delay => "  delay("
  | write => "  Keyboard.write("
  | press => "  Keyboard.press("
  | releaseAll => "  Keyboard.releaseAll("
  | unknown => "  // Unknown: "

/-- The fixed end of a line. -/
def closing : Form → Bytes
  | unknown => ""
  | _ => ");"

/-- What may stand between the fixed beginning and the fixed end of a line. -/
def Admits : Form → Bytes → Prop
  | typeString, e =>
    ∃ s, Literal.IsBody Literal.doubleQuote s ∧
      e = Literal.doubleQuote :: s ++ [Literal.doubleQuote]
  | delay, e => Numeral.IsCanonical e
  | write, e => IsKeyExpression e
  | press, e =>
    IsKeyExpression e ∨ e ∈ modifierConstants ∨
      ∃ s, Literal.IsBody Literal.singleQuote s ∧ s ≠ [] ∧
        e = Literal.singleQuote :: s ++ [Literal.singleQuote]
  | releaseAll, e => e = []
  | unknown, e => ∃ k : Key, k.keyCode? = none ∧ e = (Kind.key k).name

/-- A line has a form: the fixed parts with an admitted argument between them. -/
def Fits (line : Bytes) (form : Form) : Prop :=
  ∃ e, form.Admits e ∧ line = form.opening ++ e ++ form.closing

/-- The beginning of a line fixes its form. -/
theorem eq_of_opening {f g : Form} {line : Bytes} (hf : f.opening <+: line)
    (hg : g.opening <+: line) : f = g := by
  have hapart : ∀ f g : Form, f.opening <+: g.opening → f = g := by
    intro f g
    cases f <;> cases g <;> decide
  rcases List.prefix_or_prefix_of_prefix hf hg with h | h
  · exact hapart f g h
  · exact (hapart g f h).symm

theorem Fits.opening_isPrefix {form : Form} {line : Bytes} (h : form.Fits line) :
    form.opening <+: line := by
  obtain ⟨e, -, rfl⟩ := h
  rw [List.append_assoc]
  exact List.prefix_append _ _

theorem Fits.existsUnique {form : Form} {line : Bytes} (h : form.Fits line) :
    ∃! form : Form, form.Fits line :=
  ⟨form, h, fun _ hother => eq_of_opening hother.opening_isPrefix h.opening_isPrefix⟩

end Form

section Safety

open Bytes (lineFeed)

theorem lineFeed_notMem_of_isCanonical {s : Bytes} (h : Numeral.IsCanonical s) : lineFeed ∉ s := by
  have hdigits : ∀ {digits : Bytes}, (∀ d ∈ digits, Numeral.isDigit d = true) →
      lineFeed ∉ digits := by
    intro digits hdigits hmem
    exact absurd (hdigits _ hmem) (by decide)
  rcases h with rfl | ⟨digits, rfl | rfl, -, hdigit, -⟩
  · decide
  · exact hdigits hdigit
  · rw [List.mem_cons, not_or]
    exact ⟨by decide, hdigits hdigit⟩

theorem lineFeed_notMem_of_isKeyExpression {e : Bytes} (h : IsKeyExpression e) : lineFeed ∉ e := by
  obtain ⟨k, code, hcode, rfl⟩ := h
  cases k <;> cases hcode <;> decide

theorem lineFeed_notMem_quoted {quote : UInt8} {s : Bytes} (h : Literal.IsQuote quote)
    (hs : Literal.IsBody quote s) : lineFeed ∉ quote :: s ++ [quote] := by
  simp [hs.lineFeed_notMem h, h.ne_lineFeed.symm]

/-- No admitted argument ends its line. -/
theorem Form.Admits.lineFeed_notMem {form : Form} {e : Bytes} (h : form.Admits e) :
    lineFeed ∉ e := by
  cases form with
  | typeString =>
    obtain ⟨s, hs, rfl⟩ := h
    exact lineFeed_notMem_quoted (.inl rfl) hs
  | delay => exact lineFeed_notMem_of_isCanonical h
  | write => exact lineFeed_notMem_of_isKeyExpression h
  | press =>
    rcases h with h | h | ⟨s, hs, -, rfl⟩
    · exact lineFeed_notMem_of_isKeyExpression h
    · revert e
      decide
    · exact lineFeed_notMem_quoted (.inr rfl) hs
  | releaseAll =>
    cases h
    exact List.not_mem_nil
  | unknown =>
    obtain ⟨k, hk, rfl⟩ := h
    cases k <;> decide

theorem Form.Fits.lineFeed_notMem {form : Form} {line : Bytes} (h : form.Fits line) :
    lineFeed ∉ line := by
  obtain ⟨e, he, rfl⟩ := h
  have hopening : lineFeed ∉ form.opening := by cases form <;> decide
  have hclosing : lineFeed ∉ form.closing := by cases form <;> decide
  simp only [List.mem_append, not_or]
  exact ⟨⟨hopening, he.lineFeed_notMem⟩, hclosing⟩

theorem isKeyExpression_cases {e : Bytes} (h : IsKeyExpression e) :
    e.head? = some 75 ∨ e = Literal.character ' ' := by
  obtain ⟨k, code, hcode, rfl⟩ := h
  cases k <;> cases hcode <;> decide

theorem head_of_isCanonical {s : Bytes} (h : Numeral.IsCanonical s) :
    ∃ b, s.head? = some b ∧ (b = Numeral.minus ∨ Numeral.isDigit b = true) := by
  rcases h with rfl | ⟨_ | ⟨d, digits⟩, rfl | rfl, hne, hdigit, -⟩
  · exact ⟨Numeral.zero, rfl, .inr (by decide)⟩
  · exact absurd rfl hne
  · exact absurd rfl hne
  · exact ⟨d, rfl, .inr (hdigit d List.mem_cons_self)⟩
  · exact ⟨Numeral.minus, rfl, .inl rfl⟩

/-- An argument that begins with a quote is a literal in these quotes. -/
theorem Form.Admits.exists_isBody {form : Form} {e rest : Bytes} {quote : UInt8}
    (h : form.Admits e) (hquote : Literal.IsQuote quote)
    (hrest : e ++ form.closing = quote :: rest) :
    ∃ s, Literal.IsBody quote s ∧ e = quote :: s ++ [quote] := by
  have hhead : ∀ b, (e ++ form.closing).head? = some b → b = quote := by
    intro b hb
    rw [hrest] at hb
    simpa using hb.symm
  have hfirst : ∀ b, e.head? = some b → b = quote := by
    intro b hb
    exact hhead b (by rw [List.head?_append, hb]; rfl)
  have hkey : IsKeyExpression e → ∃ s, Literal.IsBody quote s ∧ e = quote :: s ++ [quote] := by
    intro hkey
    rcases isKeyExpression_cases hkey with h | rfl
    · -- The names of keys begin with a `K`.
      obtain rfl := hfirst 75 h
      exact absurd hquote (by decide)
    · obtain rfl := hfirst Literal.singleQuote rfl
      exact ⟨_, Literal.isBody_flatMap_escapeByte _ _, rfl⟩
  cases form with
  | typeString =>
    obtain ⟨s, hs, rfl⟩ := h
    obtain rfl := hfirst Literal.doubleQuote rfl
    exact ⟨s, hs, rfl⟩
  | delay =>
    obtain ⟨b, hb, hdigit⟩ := head_of_isCanonical h
    obtain rfl := hfirst b hb
    rcases hquote with rfl | rfl <;> exact absurd hdigit (by decide)
  | write => exact hkey h
  | press =>
    rcases h with h | h | ⟨s, hs, -, rfl⟩
    · exact hkey h
    · have hname : ∀ name ∈ modifierConstants, name.head? = some 75 := by decide
      obtain rfl := hfirst 75 (hname e h)
      exact absurd hquote (by decide)
    · obtain rfl := hfirst Literal.singleQuote rfl
      exact ⟨s, hs, rfl⟩
  | releaseAll =>
    cases h
    obtain rfl := hhead 41 rfl
    exact absurd hquote (by decide)
  | unknown =>
    obtain ⟨k, -, rfl⟩ := h
    obtain ⟨b, hb, hletter⟩ : ∃ b, (Kind.key k).name.head? = some b ∧ ¬Literal.IsQuote b := by
      cases k <;> exact ⟨_, rfl, by decide⟩
    obtain rfl := hfirst b hb
    exact absurd hquote hletter

/-- A literal in a line ends where the form says so, and not before. -/
theorem Form.Fits.afterQuote {form other : Form} {rest : Bytes} {quote : UInt8}
    (hquote : Literal.IsQuote quote) (h : other.Fits (form.opening ++ quote :: rest)) :
    Literal.afterQuote quote rest = some form.closing := by
  -- The line begins as `form` does, so `form` is the form that it fits.
  obtain rfl : other = form := eq_of_opening h.opening_isPrefix (List.prefix_append _ _)
  obtain ⟨e, he, hline⟩ := h
  rw [List.append_assoc, List.append_cancel_left_eq] at hline
  obtain ⟨s, hs, rfl⟩ := he.exists_isBody hquote hline.symm
  obtain rfl : rest = s ++ quote :: other.closing := by simpa using hline
  exact hs.afterQuote_append hquote _

end Safety

section Statements

/-- The form of a statement. -/
def formOf : Statement → Form
  | .typeString _ => .typeString
  | .delay _ => .delay
  | .write _ => .write
  | .press _ => .press
  | .releaseAll => .releaseAll
  | .unknown _ => .unknown

/-- The argument of a statement. -/
def argumentOf : Statement → Bytes
  | .typeString text => Literal.string text
  | .delay ms => ms
  | .write key => key.expression
  | .press key => key.expression
  | .releaseAll => []
  | .unknown name => name

/-- The line of a statement without its line feed. -/
def lineOf (s : Statement) : Bytes := (formOf s).opening ++ argumentOf s ++ (formOf s).closing

theorem line_eq_lineOf (s : Statement) : s.line = lineOf s ++ [Bytes.lineFeed] := by
  cases s with
  | unknown name =>
    -- The one form with nothing behind its argument.
    rw [lineOf, show (formOf (.unknown name)).closing = [] from rfl, List.append_nil]
    rfl
  | _ => rfl

theorem isKeyExpression_named (word : Bytes) :
    IsKeyExpression (((Key.ofName? word).bind Key.keyCode?).getD .fallback).expression := by
  cases hcode : (Key.ofName? word).bind Key.keyCode? with
  | none => exact ⟨.enter, .fallback, rfl, rfl⟩
  | some code =>
    obtain ⟨k, -, hk⟩ := Option.bind_eq_some_iff.mp hcode
    exact ⟨k, code, hk, rfl⟩

theorem admits_chordKey (word : Bytes) : Form.press.Admits (chordKey word).expression := by
  have hcharacter : ∀ c, Form.press.Admits (KeyCode.character c).expression := fun c =>
    .inr (.inr ⟨_, Literal.isBody_flatMap_escapeByte _ _,
      Literal.flatMap_escapeByte_ne_nil _ String.utf8EncodeChar_ne_nil, rfl⟩)
  rw [chordKey]
  split
  · split
    · exact .inl (isKeyExpression_named word)
    · exact hcharacter _
  · exact .inl (isKeyExpression_named word)

/-- A chord presses keys with names or characters, waits and lets go. -/
theorem admits_of_mem_chordStatements {words : List Bytes} {s : Statement}
    (h : s ∈ chordStatements words) : (formOf s).Admits (argumentOf s) := by
  have hmodifier : ∀ word code, modifierCode? word = some code →
      Form.press.Admits code.expression := by
    intro word code hcode
    have hall : ∀ entry ∈ modifierCodes, entry.2.expression ∈ modifierConstants := by decide
    obtain ⟨before, after, hentry, -⟩ := List.lookup_eq_some_iff.mp hcode
    exact .inr (.inl (hall (word, code) (by simp [hentry])))
  simp only [chordStatements, List.mem_append, List.mem_map, List.mem_filterMap, List.mem_cons,
    List.not_mem_nil, or_false] at h
  rcases h with ⟨code, ⟨word, -, hcode⟩, rfl⟩ | rfl | rfl | rfl
  · exact hmodifier word code hcode
  · exact admits_chordKey _
  · exact .inr ⟨[53], .inl rfl, by decide, List.forall_mem_singleton.mpr (by decide), by decide⟩
  · rfl

/-- The statements of a command of one of the shapes have admitted arguments. -/
theorem admits_of_mem_statements {c : Command} (hc : c.HasShape) {s : Statement}
    (hs : s ∈ c.statements) : (formOf s).Admits (argumentOf s) := by
  cases hc with
  | string text =>
    cases List.mem_singleton.mp hs
    exact ⟨_, Literal.isBody_flatMap_escapeByte _ text, rfl⟩
  | delay hms =>
    cases List.mem_singleton.mp hs
    exact hms
  | chord words => exact admits_of_mem_chordStatements hs
  | key k =>
    cases hcode : k.keyCode? with
    | some code =>
      simp only [Command.statements, Kind.keyCode?, hcode, List.mem_singleton] at hs
      cases hs
      exact ⟨k, code, hcode, rfl⟩
    | none =>
      simp only [Command.statements, Kind.keyCode?, hcode, List.mem_singleton] at hs
      cases hs
      exact ⟨k, hcode, rfl⟩

theorem fits_lineOf_of_mem_statements {c : Command} (hc : c.HasShape) {s : Statement}
    (hs : s ∈ c.statements) : (formOf s).Fits (lineOf s) :=
  ⟨argumentOf s, admits_of_mem_statements hc hs, rfl⟩

theorem body_eq_unlines (commands : List Command) :
    body commands = Bytes.unlines ((commands.flatMap Command.statements).map lineOf) := by
  rw [body, Bytes.unlines, List.flatMap_map, List.flatMap_assoc]
  refine congrArg (commands.flatMap ·) (funext fun c => ?_)
  exact congrArg (c.statements.flatMap ·) (funext line_eq_lineOf)

end Statements

/-- The sketch of a script is its fixed parts around one line for each statement. Each of these
lines has exactly one of the forms, and what begins as a literal in a line ends where the line
ends. -/
theorem generate_parse_lines (text : Bytes) (target : Target) :
    let commands := (parse text).commands
    generate commands target = header ++ body commands ++ footer ∧
      ∃ lines, Bytes.splitAt Bytes.lineFeed (body commands) = lines ++ [[]] ∧
        lines.length = (commands.flatMap Command.statements).length ∧
        (∀ line ∈ lines, ∃! form : Form, form.Fits line) ∧
        ∀ (form : Form) (quote : UInt8) rest, Literal.IsQuote quote →
          form.opening ++ quote :: rest ∈ lines →
          Literal.afterQuote quote rest = some form.closing := by
  intro commands
  have hfits : ∀ line ∈ (commands.flatMap Command.statements).map lineOf,
      ∃ form : Form, form.Fits line := by
    intro line hline
    obtain ⟨s, hs, rfl⟩ := List.mem_map.mp hline
    obtain ⟨c, hc, hs⟩ := List.mem_flatMap.mp hs
    exact ⟨_, fits_lineOf_of_mem_statements (hasShape_of_mem_commands (n := 0) hc) hs⟩
  refine ⟨rfl, (commands.flatMap Command.statements).map lineOf, ?_, List.length_map _, ?_, ?_⟩
  · rw [body_eq_unlines]
    refine Bytes.splitAt_unlines fun line hline => ?_
    obtain ⟨form, hform⟩ := hfits line hline
    exact hform.lineFeed_notMem
  · intro line hline
    obtain ⟨form, hform⟩ := hfits line hline
    exact hform.existsUnique
  · intro form quote rest hquote hline
    obtain ⟨other, hother⟩ := hfits _ hline
    exact hother.afterQuote hquote

/-- A text that tries to close its literal and its call stays inside both. -/
theorem generate_parse_lines_closing_text :
    let line : Bytes := "  typeString(\"\\\");//\");"
    Bytes.splitAt Bytes.lineFeed (body (parse "STRING \");//").commands) = [line, []] ∧
      (∃! form : Form, form.Fits line) ∧
      Literal.afterQuote Literal.doubleQuote "\\\");//\");" = some ");" := by
  intro line
  have hsplit : Bytes.splitAt Bytes.lineFeed (body (parse "STRING \");//").commands) =
      [line] ++ [[]] := by
    rw [parse_eq_ofOutcomes]
    decide
  obtain ⟨-, lines, hlines, -, hforms, hquotes⟩ := generate_parse_lines "STRING \");//" {}
  obtain rfl : lines = [line] := List.append_cancel_right (hlines.symm.trans hsplit)
  refine ⟨hsplit, hforms line List.mem_cons_self, ?_⟩
  exact hquotes .typeString _ _ (by decide) List.mem_cons_self

end KeyScript.Sketch
