import KeyScript.Proofs.Editor.Indexes
import KeyScript.Server.Session

/-!
# The code of the lines and the sketch

The code that is shown for the lines of a document, put together line after line, is what a sketch
has between its fixed parts. Copies of a command belong to the line that asks for them. While a
script is edited a repetition stands for a limited number of copies; a sketch that is asked for has
all of them, so the two agree as long as the limit is not reached.

## Main definitions

- `Document.hovers` — the code of all lines

## Main results

- `Document.hovers_ofText` — the code of all lines is the code of all commands
- `Document.hover_eq_none_of_outside` — there is no code outside the lines
- `Server.handle_generate` — what the server answers when it is asked for a sketch
- `generate_eq_hovers` — sketches are made of the code of the lines
-/

namespace KeyScript

namespace Document

/-- The code of all lines, one after the other, with nothing for a line that has none. -/
def hovers (d : Document) : Bytes :=
  (List.range d.lines.length).flatMap fun i : Nat => (d.hover i).getD []

theorem hover_getD (d : Document) (line : Int) :
    (d.hover line).getD [] = (d.commandsOn line).flatMap Command.code := by
  unfold hover
  cases d.commandsOn line <;> rfl

theorem hovers_ofText (uri text : Bytes) :
    (ofText uri text).hovers = Sketch.body (parseMaxRepeat text maxRepeat).commands := by
  simp only [hovers, hover_getD, commandsOn_ofText]
  rw [← List.flatMap_assoc]
  exact congrArg Sketch.body (flatMap_filter_line_commands text maxRepeat)

/-- There is no code outside the lines of a document. -/
theorem hover_eq_none_of_outside (uri text : Bytes) {line : Int}
    (h : line < 0 ∨ (splitLines text).length ≤ line) : (ofText uri text).hover line = none := by
  have haccounts := accounts_parseMaxRepeat text maxRepeat
  have hnone : (ofText uri text).commandsOn line = [] := by
    rw [commandsOn_ofText]
    refine List.filter_eq_nil_iff.mpr fun c hc => ?_
    have hbounds := haccounts.command_line c hc
    rw [beq_iff_eq]
    omega
  rw [hover, hnone]

end Document

/-- The server answers a request for the sketch of an open document with the sketch, made of all
copies that the text asks for. -/
theorem Server.handle_generate {s : Server} {r : Request} {id : Json} {p : CommandParams}
    {uri : Bytes} {d : Document} (hmethod : r.method = "workspace/executeCommand")
    (hid : r.id = some id) (hread : r.read? CommandParams.fields {} = some p)
    (hcommand : p.command = generateName) (hargs : p.arguments.items = [uri])
    (hopen : s.document? uri = some d) :
    s.handle r = s.answer id (.ofText (Sketch.generate (parse d.text).commands s.target)) := by
  have hturn : s.handle r = s.ifAsked r fun id => s.runCommand id r := by
    simp only [handle, hmethod]
    rfl
  rw [hturn, ifAsked, hid]
  simp only [runCommand, hread, hcommand, hargs, hopen, ne_eq, not_true_eq_false, if_false]

/-- The code of the lines of a document, put together, is what lies between the fixed parts of the
sketch of its text with at most 1000 copies for each repetition. If no repetition that is accepted
asks for more, it lies between the fixed parts of the sketch that the server makes, too. There is no
code for a line outside the document. -/
theorem generate_eq_hovers (uri text : Bytes) :
    (∀ target, Sketch.generate (parseMaxRepeat text 1000).commands target =
        Sketch.header ++ (Document.ofText uri text).hovers ++ Sketch.footer) ∧
      ((∀ i count, AcceptsRepeat text i count → count ≤ 1000) →
        ∀ (s : Server) (r : Request) (id : Json) (p : CommandParams),
          r.method = "workspace/executeCommand" → r.id = some id →
          r.read? CommandParams.fields {} = some p → p.command = generateName →
          p.arguments.items = [uri] → s.document? uri = some (.ofText uri text) →
          s.handle r = s.answer id (.ofText
            (Sketch.header ++ (Document.ofText uri text).hovers ++ Sketch.footer))) ∧
      ∀ line : Int, line < 0 ∨ (splitLines text).length ≤ line →
        (Document.ofText uri text).hover line = none := by
  have hsketch : ∀ target, Sketch.generate (parseMaxRepeat text 1000).commands target =
      Sketch.header ++ (Document.ofText uri text).hovers ++ Sketch.footer := by
    intro target
    rw [Document.hovers_ofText]
    rfl
  refine ⟨hsketch, ?_, fun line => Document.hover_eq_none_of_outside uri text⟩
  intro hcounts s r id p hmethod hid hread hcommand hargs hopen
  -- The server parses the text again without the limit, which no repetition reaches.
  have hparse : parseMaxRepeat text 1000 = parse text := by
    refine parseMaxRepeat_eq_parse (by decide) fun i count hcount => ?_
    exact Int.ofNat_le.mpr (hcounts i count hcount)
  rw [Server.handle_generate hmethod hid hread hcommand hargs hopen, ← hsketch s.target, hparse]
  rfl

/-- A script whose first repetition has nothing to repeat. -/
def strayRepeat : Bytes := "REPEAT 5000\nSTRING a\nREPEAT 2\nENTER"

/-- A request for the sketch of the document that is open under the name `a`. -/
def sketchRequest : Request where
  id := some (.number "1")
  method := "workspace/executeCommand"
  params := some (.object [("command", .ofText generateName), ("arguments", .array [.ofText "a"])])

/-- A server that has this script open. -/
def strayServer : Server where
  documents := ({} : Dictionary Bytes Document).set "a" (.ofText "a" strayRepeat)

/-- A repetition beyond the limit has no say if it is rejected. Of the text that is typed three
times, the repetition shows the two copies that it stands for. -/
theorem generate_eq_hovers_strayRepeat :
    strayServer.handle sketchRequest = strayServer.answer (.number "1") (.ofText
        (Sketch.header ++ (Document.ofText "a" strayRepeat).hovers ++ Sketch.footer)) ∧
      (Document.ofText "a" strayRepeat).hovers =
        "  typeString(\"a\");\n  typeString(\"a\");\n  typeString(\"a\");\n" ++
          "  Keyboard.write(KEY_RETURN);\n" ∧
      (Document.ofText "a" strayRepeat).hover 2 =
        some ("  typeString(\"a\");\n  typeString(\"a\");\n" : Bytes) ∧
      (Document.ofText "a" strayRepeat).hover 4 = none := by
  have hreadings : (splitLines strayRepeat).map Reading.ofLine =
      [.again "REPEAT" 5000, .command .string ["a"], .again "REPEAT" 2,
        .command (.key .enter) []] := by decide +kernel
  have herror : ∃ e ∈ (parseMaxRepeat strayRepeat 0).errors, e.line = 1 := by
    rw [parseMaxRepeat_eq_result]
    decide +kernel
  have hcounts : ∀ i count, AcceptsRepeat strayRepeat i count → count ≤ 1000 := by
    rintro i count ⟨line, token, hline, hreading, hnone⟩
    have hread : ((splitLines strayRepeat).map Reading.ofLine)[i]? = some (.again token count) := by
      rw [List.getElem?_map, hline, Option.map_some, hreading]
    rw [hreadings] at hread
    -- The first line is rejected, so its count does not matter.
    match i with
    | 0 =>
      obtain ⟨e, he, hfirst⟩ := herror
      exact absurd hfirst (hnone e he)
    | 2 => grind
    | 1 | 3 | i + 4 => simp at hread
  obtain ⟨-, hsketch, houtside⟩ := generate_eq_hovers "a" strayRepeat
  refine ⟨hsketch hcounts _ sketchRequest (.number "1") ⟨generateName, ⟨["a"], []⟩⟩ rfl rfl
    (by decide +kernel) rfl rfl rfl, ?_, ?_, houtside 4 (.inr (by decide +kernel))⟩
  · rw [Document.hovers_ofText, parseMaxRepeat_eq_result]
    decide +kernel
  · rw [Document.hover, Document.commandsOn_ofText, parseMaxRepeat_eq_result]
    decide +kernel

end KeyScript
