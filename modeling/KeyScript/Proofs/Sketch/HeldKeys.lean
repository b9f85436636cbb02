import Mathlib.Data.List.Forall2
import KeyScript.Proofs.Sketch.Grammar
import KeyScript.Proofs.Sketch.Unquote

/-!
# The keys that a sketch holds

A key that stays pressed would change everything that is typed after it. This module reads the lines
of a sketch as events at a keyboard, by their text alone, and shows that the statements of each
command start and end with nothing held. Keys are held only inside chords, and nothing is typed
there.

## Main definitions

- `Sketch.Event` — what a line does at the keyboard
- `Sketch.readLine` — the event of a line, from its text
- `Sketch.heldAfter` — the keys that are held after some events
- `Sketch.LetsGo` — a command holds its keys in order, and only while nothing else is typed

## Main results

- `Sketch.readLine_lineOf` — the line of a statement is read as what the statement does
- `Sketch.letsGo_events` — one command
- `Sketch.heldAfter_flatten` — commands one after the other
- `Sketch.generate_parse_letsGo` — the sketch of a script
-/

namespace KeyScript.Sketch

/-- What a line of a sketch does at the keyboard. Keys go by their expressions. -/
inductive Event where
  | press (key : Bytes)
  | releaseAll
  /-- Press and release a key. -/
  | tap (key : Bytes)
  /-- Press and release the keys for a text. -/
  | type (text : Bytes)
  | wait (milliseconds : Bytes)
  | remark
deriving DecidableEq, Repr

section Reading

/-- Whether a byte may stand in the name of a constant. -/
def isConstantByte (b : UInt8) : Bool := (65 ≤ b && b ≤ 90) || b == 95

/-- Whether a text is an expression for a key: the name of a constant, or one character literal from
its first byte to its last. -/
def isKeyText (e : Bytes) : Bool :=
  (!e.isEmpty && e.all isConstantByte) ||
    (Literal.read Literal.singleQuote e).any fun read => read.2.isEmpty

namespace Form

def all : List Form := [typeString, delay, write, press, releaseAll, unknown]

/-- What stands between the fixed beginning and the fixed end of a line. -/
def argument? (form : Form) (line : Bytes) : Option Bytes :=
  let rest := line.drop form.opening.length
  if form.closing.isSuffixOf rest then some (rest.take (rest.length - form.closing.length))
  else none

/-- The event of a line with a given argument, if the argument is complete and is all there is. -/
def event? : Form → Bytes → Option Event
  | typeString, e =>
    match Literal.read Literal.doubleQuote e with
    | some (text, []) => some (.type text)
    | _ => none
  | delay, e => if Numeral.leadingText? e = some e then some (.wait e) else none
  | write, e => if isKeyText e then some (.tap e) else none
  | press, e => if isKeyText e then some (.press e) else none
  | releaseAll, e => if e = [] then some .releaseAll else none
  | unknown, _ => some .remark

end Form

/-- The event of a line, if it is one. The beginning of the line says which form it must have. -/
def readLine (line : Bytes) : Option Event :=
  (Form.all.find? fun form => form.opening.isPrefixOf line).bind fun form =>
    (form.argument? line).bind form.event?

/-- The lines of a text in which each line ends with a line feed. -/
def linesOf (text : Bytes) : List Bytes :=
  let pieces := text.splitAt Bytes.lineFeed
  if pieces.getLast? = some [] then pieces.dropLast else pieces

/-- What stands between the fixed parts of a sketch. -/
def bodyOf (sketch : Bytes) : Bytes :=
  (sketch.drop header.length).take (sketch.length - (header.length + footer.length))

def eventOf : Statement → Event
  | .typeString text => .type text
  | .delay ms => .wait ms
  | .write key => .tap key.expression
  | .press key => .press key.expression
  | .releaseAll => .releaseAll
  | .unknown _ => .remark

theorem isKeyText_quoted {s : Bytes} (h : Literal.IsBody Literal.singleQuote s) :
    isKeyText (Literal.singleQuote :: s ++ [Literal.singleQuote]) = true := by
  obtain ⟨t, rfl⟩ := h.exists_eq_flatMap_escapeByte (.inr rfl)
  rw [isKeyText, Literal.read_quoted (.inr rfl)]
  simp

theorem isKeyText_of_isKeyExpression {e : Bytes} (h : IsKeyExpression e) : isKeyText e = true := by
  obtain ⟨k, code, hcode, rfl⟩ := h
  cases k <;> cases hcode <;> decide

theorem isKeyText_of_admits_press {e : Bytes} (h : Form.press.Admits e) : isKeyText e = true := by
  rcases h with h | h | ⟨s, hs, -, rfl⟩
  · exact isKeyText_of_isKeyExpression h
  · have hall : modifierConstants.all isKeyText = true := by decide
    exact List.all_eq_true.mp hall e h
  · exact isKeyText_quoted hs

theorem event?_argumentOf {s : Statement} (h : (formOf s).Admits (argumentOf s)) :
    (formOf s).event? (argumentOf s) = some (eventOf s) := by
  cases s with
  | typeString text =>
    have hread : Literal.read Literal.doubleQuote (Literal.string text) = some (text, []) :=
      Literal.read_quoted (.inl rfl) text []
    simp only [formOf, argumentOf, Form.event?, hread, eventOf]
  | delay ms => exact if_pos (Numeral.leadingText?_of_isCanonical h)
  | write key => exact if_pos (isKeyText_of_isKeyExpression h)
  | press key => exact if_pos (isKeyText_of_admits_press h)
  | releaseAll => rfl
  | unknown name => rfl

theorem argument?_append (form : Form) (e : Bytes) :
    form.argument? (form.opening ++ e ++ form.closing) = some e := by
  have hrest : (form.opening ++ e ++ form.closing).drop form.opening.length =
      e ++ form.closing := by
    rw [List.append_assoc, List.drop_left]
  have hsuffix : form.closing.isSuffixOf (e ++ form.closing) = true :=
    List.isSuffixOf_iff_suffix.mpr (List.suffix_append _ _)
  rw [Form.argument?, hrest, if_pos hsuffix, List.length_append, Nat.add_sub_cancel, List.take_left]

theorem find?_opening {form : Form} {line : Bytes} (h : form.opening <+: line) :
    (Form.all.find? fun form => form.opening.isPrefixOf line) = some form := by
  cases hfind : Form.all.find? fun form => form.opening.isPrefixOf line with
  | none =>
    have hmem : form ∈ Form.all := by cases form <;> decide
    have hnot := List.find?_eq_none.mp hfind form hmem
    exact absurd (List.isPrefixOf_iff_prefix.mpr h) hnot
  | some other =>
    -- No beginning of a form is one of another form.
    have hstart : other.opening.isPrefixOf line = true :=
      List.find?_some (p := fun form : Form => form.opening.isPrefixOf line) hfind
    have hother : other.opening <+: line := List.isPrefixOf_iff_prefix.mp hstart
    rw [Form.eq_of_opening hother h]

/-- The line of a statement is read as what the statement does. -/
theorem readLine_lineOf {s : Statement} (h : (formOf s).Admits (argumentOf s)) :
    readLine (lineOf s) = some (eventOf s) := by
  have hopening : (formOf s).opening <+: lineOf s := by
    rw [lineOf, List.append_assoc]
    exact List.prefix_append _ _
  rw [readLine, find?_opening hopening, Option.bind_some, lineOf, argument?_append,
    Option.bind_some, event?_argumentOf h]

theorem linesOf_unlines {lines : List Bytes} (h : ∀ line ∈ lines, Bytes.lineFeed ∉ line) :
    linesOf (Bytes.unlines lines) = lines := by
  rw [linesOf, Bytes.splitAt_unlines h]
  simp

theorem bodyOf_generate (commands : List Command) (target : Target) :
    bodyOf (generate commands target) = body commands := by
  have hlength : (generate commands target).length - (header.length + footer.length) =
      (body commands).length := by
    simp only [generate, List.length_append]
    omega
  rw [bodyOf, hlength, generate, List.append_assoc, List.drop_left, List.take_left]

def events (c : Command) : List Event := c.statements.map eventOf

/-- The lines for commands of the shapes that scripts have are read as the events of the
commands. -/
theorem map_readLine_linesOf_body {commands : List Command} (h : ∀ c ∈ commands, c.HasShape) :
    (linesOf (body commands)).map readLine = (commands.flatMap events).map some := by
  have hadmits : ∀ s ∈ commands.flatMap Command.statements,
      (formOf s).Admits (argumentOf s) := by
    intro s hs
    obtain ⟨c, hc, hs⟩ := List.mem_flatMap.mp hs
    exact admits_of_mem_statements (h c hc) hs
  have hfeed : ∀ line ∈ (commands.flatMap Command.statements).map lineOf,
      Bytes.lineFeed ∉ line := by
    intro line hline
    obtain ⟨s, hs, rfl⟩ := List.mem_map.mp hline
    have hfits : (formOf s).Fits (lineOf s) := ⟨argumentOf s, hadmits s hs, rfl⟩
    exact hfits.lineFeed_notMem
  have hevents : commands.flatMap events = (commands.flatMap Command.statements).map eventOf := by
    rw [List.map_flatMap]
    rfl
  rw [body_eq_unlines, linesOf_unlines hfeed, hevents, List.map_map, List.map_map]
  exact List.map_congr_left fun s hs => readLine_lineOf (hadmits s hs)

end Reading

section Holding

/-- The keys that are held after an event, as a list without repetitions. -/
def Event.held (keys : List Bytes) : Event → List Bytes
  | press key => keys.insert key
  | releaseAll => []
  | tap _ | type _ | wait _ | remark => keys

def heldAfter (keys : List Bytes) (events : List Event) : List Bytes :=
  events.foldl Event.held keys

/-- The key that an event presses to hold it. -/
def Event.pressed? : Event → Option Bytes
  | press key => some key
  | _ => none

/-- The events of a command at which nothing may be held. The wait inside a chord is none of
them. -/
def Event.IsFree (c : Command) : Event → Prop
  | tap _ | type _ => True
  | wait _ => c.kind = .delay
  | press _ | releaseAll | remark => False

/-- What the events of a command do with the keys if `keys` are held at their start. -/
structure LetsGo (keys : List Bytes) (c : Command) (events : List Event) : Prop where
  /-- At the end nothing is held. -/
  held_end : heldAfter keys events = []
  /-- Nothing is held where keys are pressed and released, nor during a delay. -/
  held_free : ∀ before e after, events = before ++ e :: after → e.IsFree c →
    heldAfter keys before = []
  /-- A chord ends with its one release. Before it the modifiers among all words but the last are
  pressed in order, and then the key for the last word. -/
  chord : c.kind = .chord → ∃ words last before,
    c.args = words ++ [last] ∧ events = before ++ [.releaseAll] ∧ .releaseAll ∉ before ∧
      before.filterMap Event.pressed? =
        (words.filterMap modifierCode?).map KeyCode.expression ++ [(chordKey last).expression]

theorem heldAfter_append (keys : List Bytes) (a b : List Event) :
    heldAfter keys (a ++ b) = heldAfter (heldAfter keys a) b :=
  List.foldl_append

/-- If each command lets go of its keys, then so do commands one after the other. -/
theorem heldAfter_flatten {blocks : List (List Event)}
    (h : ∀ block ∈ blocks, heldAfter [] block = []) : heldAfter [] blocks.flatten = [] := by
  induction blocks with
  | nil => rfl
  | cons block blocks ih =>
    rw [List.flatten_cons, heldAfter_append, h block List.mem_cons_self]
    exact ih fun b hb => h b (List.mem_cons_of_mem _ hb)

theorem letsGo_singleton {c : Command} {e : Event} (hc : c.kind ≠ .chord) (he : e.held [] = []) :
    LetsGo [] c [e] where
  held_end := he
  held_free before e' after h _ := by
    cases before with
    | nil => rfl
    | cons _ before => simp at h
  chord h := absurd h hc

/-- A command that is no chord is one event, and it holds no key. -/
theorem exists_events_eq_singleton {c : Command} (hc : c.kind ≠ .chord) :
    ∃ e, events c = [e] ∧ e.held [] = [] := by
  obtain ⟨kind, args, line⟩ := c
  cases kind with
  | chord => exact absurd rfl hc
  | key k =>
    cases hcode : k.keyCode? with
    | some key => exact ⟨.tap key.expression, by simp [events, Command.statements, Kind.keyCode?,
        hcode, eventOf], rfl⟩
    | none => exact ⟨.remark, by simp [events, Command.statements, Kind.keyCode?, hcode, eventOf],
        rfl⟩
  | _ => exact ⟨_, rfl, rfl⟩

theorem chordStatements_append {words : List Bytes} {last : Bytes}
    (h : ∀ word ∈ words ++ [last], word ≠ []) :
    chordStatements (words ++ [last]) =
      (words.filterMap modifierCode?).map .press ++
        [.press (chordKey last), .delay "5", .releaseAll] := by
  have hall : (words ++ [last]).filter (fun w => w != []) = words ++ [last] :=
    List.filter_eq_self.mpr fun w hw => bne_iff_ne.mpr (h w hw)
  simp only [chordStatements, hall, List.dropLast_concat, List.getLastD_concat]

theorem letsGo_chord {c : Command} (hkind : c.kind = .chord) {words : List Bytes} {last : Bytes}
    (hargs : c.args = words ++ [last]) (hwords : ∀ word ∈ c.args, word ≠ []) :
    LetsGo [] c (events c) := by
  -- The events up to the release: keys are pressed, and then there is a wait.
  set before := ((words.filterMap modifierCode?).map fun key => Event.press key.expression) ++
    [.press (chordKey last).expression, .wait "5"] with hbefore
  have hevents : events c = before ++ [.releaseAll] := by
    rw [events, Command.statements, hkind]
    simp only [hargs, chordStatements_append (hargs ▸ hwords), List.map_append, List.map_map,
      List.map_cons, List.map_nil, hbefore, List.append_assoc]
    rfl
  have hmem : ∀ e ∈ before, (∃ key, e = .press key) ∨ e = .wait "5" := by
    intro e he
    simp only [hbefore, List.mem_append, List.mem_map, List.mem_cons, List.not_mem_nil,
      or_false] at he
    rcases he with ⟨key, -, rfl⟩ | rfl | rfl
    · exact .inl ⟨_, rfl⟩
    · exact .inl ⟨_, rfl⟩
    · exact .inr rfl
  refine ⟨?_, ?_, fun _ => ⟨words, last, before, hargs, hevents, ?_, ?_⟩⟩
  · rw [hevents, heldAfter_append]
    rfl
  · intro a e b hsplit hfree
    have he : e ∈ before ++ [.releaseAll] := by simp [← hevents, hsplit]
    -- Neither the presses nor the wait and the release of a chord are free.
    rcases List.mem_append.mp he with he | he
    · rcases hmem e he with ⟨key, rfl⟩ | rfl
      · exact hfree.elim
      · exact absurd (hkind.symm.trans hfree) (by decide)
    · rw [List.mem_singleton] at he
      exact (he ▸ hfree : Event.IsFree c .releaseAll).elim
  · intro he
    rcases hmem _ he with ⟨key, h⟩ | h <;> cases h
  · have hpressed : Event.pressed? ∘ (fun key : KeyCode => Event.press key.expression) =
        some ∘ KeyCode.expression := rfl
    rw [hbefore, List.filterMap_append, List.filterMap_map, hpressed, List.filterMap_eq_map]
    rfl

/-- A well-formed command lets go of all keys that it presses. -/
theorem letsGo_events {c : Command} (h : c.IsWellFormed) : LetsGo [] c (events c) := by
  by_cases hkind : c.kind = .chord
  · have hconforms := h.conforms
    rw [Command.Conforms, hkind] at hconforms
    obtain ⟨hne, hplain, -⟩ := hconforms
    exact letsGo_chord hkind (List.dropLast_concat_getLast hne).symm fun word hword =>
      (hplain word hword).1
  · obtain ⟨e, he, hheld⟩ := exists_events_eq_singleton hkind
    rw [he]
    exact letsGo_singleton hkind hheld

end Holding

/-- Read as events from the text of its lines, the sketch of a script falls into one block for each
command. Before each block nothing is held, and in it the command lets go of all keys that it
presses. -/
theorem generate_parse_letsGo (text : Bytes) (target : Target) :
    let commands := (parse text).commands
    ∃ blocks : List (List Event),
      (linesOf (bodyOf (generate commands target))).map readLine = blocks.flatten.map some ∧
      List.Forall₂ (fun c block => (linesOf c.code).map readLine = block.map some)
        commands blocks ∧
      ∀ (i : Nat) c block, commands[i]? = some c → blocks[i]? = some block →
        LetsGo (heldAfter [] (blocks.take i).flatten) c block := by
  intro commands
  have hwell : ∀ c ∈ commands, c.IsWellFormed := fun c hc =>
    isWellFormed_of_mem_commands (n := 0) hc
  have hshape : ∀ c ∈ commands, c.HasShape := fun c hc => hasShape_of_mem_commands (n := 0) hc
  refine ⟨commands.map events, ?_, ?_, ?_⟩
  · rw [bodyOf_generate, map_readLine_linesOf_body hshape, List.flatMap_def]
  · rw [List.forall₂_map_right_iff, List.forall₂_same]
    intro c hc
    have hone : (linesOf (body [c])).map readLine = ([c].flatMap events).map some :=
      map_readLine_linesOf_body (by simpa using hshape c hc)
    simpa [body] using hone
  · intro i c block hc hblock
    obtain rfl : events c = block := by simpa [hc] using hblock
    -- What the blocks before this one leave behind, from what each of them does by itself.
    have hbefore : heldAfter [] ((commands.map events).take i).flatten = [] := by
      refine heldAfter_flatten fun block hblock => ?_
      obtain ⟨d, hd, rfl⟩ := List.mem_map.mp (List.mem_of_mem_take hblock)
      exact (letsGo_events (hwell d hd)).held_end
    rw [hbefore]
    exact letsGo_events (hwell c (List.mem_of_getElem? hc))

/-- A text that looks like a line which presses a key, before a chord with repeated modifiers. -/
theorem generate_parse_letsGo_looks_pressed :
    let typed : Bytes := "\");Keyboard.press(KEY_LEFT_CTRL);"
    let text : Bytes := "STRING " ++ typed ++ "\nwindows ctrl gui CTRL X"
    let chord : Command := ⟨.chord, ["GUI", "WINDOWS", "CTRL", "CTRL", "X"], 2⟩
    let block : List Event :=
      [.press "KEY_LEFT_GUI", .press "KEY_LEFT_GUI", .press "KEY_LEFT_CTRL", .press "KEY_LEFT_CTRL",
       .press "'x'", .wait "5", .releaseAll]
    (parse text).commands = [⟨.string, [typed], 1⟩, chord] ∧
      (linesOf (bodyOf (generate (parse text).commands {}))).map readLine =
        (.type typed :: block).map some ∧
      LetsGo [] chord block := by
  intro typed text chord block
  have hcommands : (parse text).commands = [⟨.string, [typed], 1⟩, chord] := by
    rw [parse_eq_ofOutcomes]
    decide +kernel
  obtain ⟨blocks, hlines, hblocks, hgo⟩ := generate_parse_letsGo text {}
  rw [hcommands] at hblocks
  have hsome : Function.Injective (List.map (some : Event → Option Event)) :=
    List.map_injective_iff.mpr fun _ _ => Option.some.inj
  cases hblocks with
  | @cons _ first _ _ hfirst hblocks =>
    cases hblocks with
    | @cons _ second _ _ hsecond hblocks =>
      cases hblocks
      obtain rfl : first = [.type typed] := hsome (hfirst.symm.trans (by decide +kernel))
      obtain rfl : second = block := hsome (hsecond.symm.trans (by decide +kernel))
      exact ⟨hcommands, hlines, hgo 1 chord block (by rw [hcommands]; rfl) rfl⟩

end KeyScript.Sketch
