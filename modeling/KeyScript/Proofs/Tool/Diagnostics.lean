import KeyScript.Proofs.Script.Accounting
import KeyScript.Proofs.Tool.Performing

/-!
# Checking and converting agree on diagnostics

A check and a strict conversion refuse the same scripts, with the same words and the same lines on
the standard error, one for each rejected line. A script that is refused leaves no other trace. Any
other conversion writes its diagnostics first and then all of its output, to one place only: the
sketch of the commands that were understood, or the same sketch in JSON or in a page.

## Main definitions

- `rejectionLines` — one line for each rejected line of a script
- `wholeSketch`, `IsOutput` — what is written for a script in each form
- `Workspace.aftermath` — how a task ends, what it leaves and what it wrote
- `Aftermath.OnlyReports`, `Aftermath.ReportsAndWrites` — what a task may leave

## Main results

- `diagnosticLines_parse` — diagnostics without colour are the rejection lines
- `isOutput_renderOutput` — what is written is complete
- `check_convert_agree` — checks and conversions of a script
-/

namespace KeyScript

namespace LineByLine

/-- The diagnostic of a line that was answered by `outcomes`, if the line was rejected. -/
def rejection? : List Outcome → Option Diagnostic
  | [.rejected e] => some e
  | _ => none

end LineByLine

/-- The words on a line that was rejected. -/
def rejectionLine (name : Bytes) (number : Nat) (e : Diagnostic) : Bytes :=
  name ++ ": Line " ++ Numeral.ofNat number ++ ": " ++ e.message ++ "\n"

/-- One line for each rejected line of a script, in the order of the lines. -/
def rejectionLines (name text : Bytes) : Bytes :=
  ((LineByLine.run 0 none 1 (splitLines text)).zipIdx 1).flatMap fun p =>
    ((LineByLine.rejection? p.1).map (rejectionLine name p.2)).getD []

section Rejections

variable (name : Bytes)

/-- A diagnostic without colour. -/
theorem diagnosticLine_none (e : Diagnostic) {n : Nat} (h : e.line = n) :
    diagnosticLine .none name e = rejectionLine name n e := by
  have hplace : (": Line " : Bytes) = ": " ++ "Line " := by decide
  have hcolon : (": " : Bytes) = ":" ++ " " := by decide
  simp only [diagnosticLine, rejectionLine, Paint.wrap, Diagnostic.place, h, Numeral.ofInt_natCast,
    hplace, hcolon, List.append_assoc]

/-- What a line adds to the diagnostics. -/
theorem LineByLine.Produced.flatMap_diagnosticLine {n : Nat} {line : Bytes}
    {outcomes : List Outcome} (h : Produced n line outcomes) :
    (Result.ofOutcomes outcomes).errors.flatMap (diagnosticLine .none name) =
      ((rejection? outcomes).map (rejectionLine name n)).getD [] := by
  cases h with
  | nothing => rfl
  | error _ e he => simp [rejection?, diagnosticLine_none name e he]
  | commands _ c _ k =>
    rw [Result.ofOutcomes_replicate_command]
    cases k <;> rfl

/-- What some lines add to the diagnostics, one line after the other. -/
theorem LineByLine.flatMap_diagnosticLine_run (cap : Int) (last : Option Command) (n : Nat)
    (lines : List Bytes) :
    (Result.ofOutcomes (run cap last n lines).flatten).errors.flatMap (diagnosticLine .none name) =
      ((run cap last n lines).zipIdx n).flatMap fun p =>
        ((rejection? p.1).map (rejectionLine name p.2)).getD [] := by
  induction lines generalizing last n with
  | nil => rfl
  | cons line lines ih =>
    have hline := (produced_produce cap last n line).flatMap_diagnosticLine name
    rw [run, List.flatten_cons, Result.errors_ofOutcomes_append, List.flatMap_append, hline, ih,
      List.zipIdx_cons, List.flatMap_cons]

theorem diagnosticLines_parse (text : Bytes) :
    diagnosticLines .none name (parse text) = rejectionLines name text := by
  rw [diagnosticLines, parse_eq_ofOutcomes]
  exact LineByLine.flatMap_diagnosticLine_run name 0 none 1 (splitLines text)

end Rejections

/-! ## The output of a conversion -/

/-- The sketch of all commands of a script. -/
def wholeSketch (script : Bytes) : Bytes :=
  Sketch.header ++ (parse script).commands.flatMap Command.code ++ Sketch.footer

/-- What is written for a script under some settings. The form is one of three: the sketch, a record
in JSON with the sketch, the diagnostics and the commands, or a page. -/
structure IsOutput (s : Settings) (name script text : Bytes) : Prop where
  format_mem : s.format ∈ (["ino", "json", "html"] : List Bytes)
  ino : s.format = "ino" → text = wholeSketch script
  json : s.format = "json" → text =
    (Json.record
      [("sketch", .ofText (wholeSketch script)),
       ("errors", .ofList .ofText ((parse script).errors.map Diagnostic.text)),
       ("commands", .ofList (fun c : Command => .record
          [("type", .ofText c.kind.name), ("args", .ofList .ofText c.args),
           ("line", .ofInt c.line)]) (parse script).commands)]).renderIndented ++ "\n"
  html : s.format = "html" → text = (Page.ofScript name script s.target).render

/-- Settings that are found have a form that is known. -/
theorem Invocation.format_mem_of_settings {inv : Invocation} {env : Surroundings} {cfg : FileConfig}
    {s : Settings} (h : inv.settings env cfg = (s, none)) : s.format ∈ formatNames := by
  -- Every other way through the sources ends in an error.
  unfold Invocation.settings at h
  dsimp only at h
  split at h
  · cases h
  split at h
  · cases h
  split at h
  · cases h
  next hformat =>
  split at h
  · cases h
  · obtain rfl := (Prod.mk.inj h).1
    simpa using hformat

/-- In a form that is known, what is written is complete. -/
theorem isOutput_renderOutput {s : Settings} (h : s.format ∈ formatNames) (name script : Bytes) :
    IsOutput s name script (renderOutput s name script (parse script)) where
  format_mem := h
  ino hino := by
    rw [renderOutput, hino, if_neg (by decide), if_neg (by decide)]
    rfl
  json hjson := by
    rw [renderOutput, if_pos hjson]
    rfl
  html hhtml := by
    rw [renderOutput, hhtml, if_neg (by decide), if_pos rfl]
    rfl

/-! ## Tasks -/

/-- How a task ends in a workspace, what it leaves there, and what it wrote, in order. -/
structure Aftermath where
  result : Except ToolError Unit
  workspace : Workspace
  writes : List Write

/-- The ending of a task from a workspace. The order of the writes is seen by recording them. -/
def Workspace.aftermath (w : Workspace)
    (task : ∀ {m : Type → Type} [Monad m], Host m → Action m Unit) : Aftermath where
  result := ((task host).perform w).1
  workspace := ((task host).perform w).2
  writes := ((task host.recorded).perform (w, [])).2.2

/-- Lines on the standard error are all that was written. -/
structure Aftermath.OnlyReports (e : Aftermath) (w : Workspace) (lines : Bytes) : Prop where
  writes : e.writes = [.errors lines]
  errors : e.workspace.errors = w.errors ++ lines
  output : e.workspace.output = w.output
  tree : e.workspace.tree = w.tree

/-- Lines on the standard error were written first, and then a text to a file or, if there is none,
to the standard output. -/
def Aftermath.ReportsAndWrites (e : Aftermath) (w : Workspace) (lines text : Bytes) :
    Option Bytes → Prop
  | none =>
    e.writes = [.errors lines, .output text] ∧ e.workspace.errors = w.errors ++ lines ∧
      e.workspace.output = w.output ++ text ∧ e.workspace.tree = w.tree
  | some file =>
    e.writes = [.errors lines, .file file text] ∧ e.workspace.errors = w.errors ++ lines ∧
      e.workspace.output = w.output ∧ w.tree.write file text = .ok e.workspace.tree

/-- A task that does nothing but write lines on the standard error once its inputs are read. -/
theorem onlyReports_of_perform {w : Workspace} {rest lines : Bytes}
    (task : ∀ {m : Type → Type} [Monad m], Host m → Action m Unit) {r : Except ToolError Unit}
    (hplain : (task Workspace.host).perform w =
      (r, ((Workspace.host.writeError lines).run { w with input := rest }).2))
    (hrecorded : (task Workspace.host.recorded).perform (w, []) =
      (r, ((Workspace.host.recorded.writeError lines).run ({ w with input := rest }, [])).2)) :
    (w.aftermath task).result = r ∧ (w.aftermath task).OnlyReports w lines := by
  refine ⟨congrArg Prod.fst hplain, ?_, ?_, ?_, ?_⟩
  · exact congrArg (fun p => p.2.2) hrecorded
  · exact congrArg (fun p => p.2.errors) hplain
  · exact congrArg (fun p => p.2.output) hplain
  · exact congrArg (fun p => p.2.tree) hplain

section Inputs

variable {w : Workspace} {env : Surroundings} {inv : Invocation} {s : Settings}
  {name script : Bytes}

/-- The inputs of a task that are there: settings without colour, and a script under a name. -/
structure Workspace.Supplies (w : Workspace) (env : Surroundings) (inv : Invocation) (s : Settings)
    (name script : Bytes) : Prop where
  settings : ((inv.loadSettings env host).run w).1 = (s, none)
  color : s.color = false
  script : ((readScript inv.arguments host).perform w).1 = .ok (name, script)

namespace Workspace.Supplies

variable (h : w.Supplies env inv s name script)

include h

theorem isOutput_renderOutput :
    IsOutput s name script (renderOutput s name script (parse script)) := by
  have hload := h.settings
  rw [Invocation.run_loadSettings] at hload
  cases hconfig : ((inv.config env host).perform w).1 with
  | error e =>
    rw [hconfig] at hload
    cases (Prod.mk.inj hload).2
  | ok cfg =>
    rw [hconfig] at hload
    obtain ⟨hsettings, herror⟩ := Prod.mk.inj hload
    rw [Option.map_eq_none_iff] at herror
    exact KeyScript.isOutput_renderOutput
      (Invocation.format_mem_of_settings (Prod.ext hsettings herror)) name script

/-- The settings are found, and nothing else happens. -/
theorem perform_settings :
    (inv.validSettings env host).perform w = (.ok s, w) ∧
      (inv.validSettings env host.recorded).perform (w, []) = (.ok s, w, []) := by
  have hplain := perform_validSettings h.settings
  refine ⟨hplain, ?_⟩
  rw [inv.silent_validSettings env host, hplain]

/-- The script is read, and of the workspace only the input changes. -/
theorem exists_perform_readScript : ∃ rest,
    (readScript inv.arguments host).perform w = (.ok (name, script), { w with input := rest }) ∧
    (readScript inv.arguments host.recorded).perform (w, []) =
      (.ok (name, script), { w with input := rest }, []) := by
  obtain ⟨rest, hrest⟩ := w.exists_perform_readScript_snd inv.arguments
  have hread : (readScript inv.arguments host).perform w =
      (.ok (name, script), { w with input := rest }) := Prod.ext h.script hrest
  refine ⟨rest, hread, ?_⟩
  rw [silent_readScript, hread]

theorem diagnosticLines_eq :
    diagnosticLines (s.paint env) name (parse script) = rejectionLines name script := by
  rw [Settings.paint, h.color, if_neg Bool.false_ne_true, diagnosticLines_parse]

/-- A check reports the rejected lines and fails if there are any. -/
theorem aftermath_check :
    let checked := w.aftermath fun host => inv.check env host
    (checked.result = if (parse script).errors = [] then .ok ()
      else .error (.diagnostics name (parse script).errors.length)) ∧
    checked.OnlyReports w (rejectionLines name script) := by
  obtain ⟨rest, hread, hrecorded⟩ := h.exists_perform_readScript
  have hplain := Invocation.perform_check h.perform_settings.1 hread
  have hwrites := Invocation.perform_check h.perform_settings.2 hrecorded
  rw [afterReport, h.diagnosticLines_eq] at hplain hwrites
  exact onlyReports_of_perform (fun host => inv.check env host) hplain hwrites

/-- A strict conversion reports the rejected lines and does nothing else if there are any. -/
theorem aftermath_convert_refused (hexample : inv.own.isOn exampleFlag = false)
    (hstrict : s.strict = true) (herrors : (parse script).errors ≠ []) :
    let converted := w.aftermath fun host => inv.convert env host
    converted.result = .error (.diagnostics name (parse script).errors.length) ∧
    converted.OnlyReports w (rejectionLines name script) := by
  obtain ⟨rest, hread, hrecorded⟩ := h.exists_perform_readScript
  have hplain := Invocation.perform_convert_refused hexample h.perform_settings.1 hread hstrict
    herrors
  have hwrites := Invocation.perform_convert_refused hexample h.perform_settings.2
    hrecorded hstrict herrors
  rw [afterReport, h.diagnosticLines_eq] at hplain hwrites
  exact onlyReports_of_perform (fun host => inv.convert env host) hplain hwrites

/-- Any other conversion reports the rejected lines and writes its output. -/
theorem aftermath_convert (hexample : inv.own.isOn exampleFlag = false)
    (hgo : s.strict = false ∨ (parse script).errors = [])
    (hwrite : ∀ file ∈ inv.outputFile?, ∃ tree,
      w.tree.write file (renderOutput s name script (parse script)) = .ok tree) :
    let converted := w.aftermath fun host => inv.convert env host
    converted.result = .ok () ∧
    converted.ReportsAndWrites w (rejectionLines name script)
      (renderOutput s name script (parse script)) inv.outputFile? := by
  obtain ⟨rest, hread, hrecorded⟩ := h.exists_perform_readScript
  let reported : Workspace :=
    { w with input := rest, errors := w.errors ++ rejectionLines name script }
  have hplain : afterReport host (s.paint env) name script { w with input := rest } =
      reported := by
    rw [afterReport, h.diagnosticLines_eq]
    rfl
  have hrecord : afterReport host.recorded (s.paint env) name script
      ({ w with input := rest }, []) = (reported, [.errors (rejectionLines name script)]) := by
    rw [afterReport, h.diagnosticLines_eq]
    rfl
  -- The writes are read off the recorded run, and the rest off the plain one.
  cases hfile : inv.outputFile? with
  | none =>
    have hend := Invocation.perform_convert_output hexample h.perform_settings.1 hread hgo hplain
      hfile
    have hwrites := Invocation.perform_convert_output hexample h.perform_settings.2
      hrecorded hgo hrecord hfile
    refine ⟨congrArg Prod.fst hend, ?_, ?_, ?_, ?_⟩
    · exact congrArg (fun p => p.2.2) hwrites
    · exact congrArg (fun p => p.2.errors) hend
    · exact congrArg (fun p => p.2.output) hend
    · exact congrArg (fun p => p.2.tree) hend
  | some file =>
    obtain ⟨tree, htree⟩ := hwrite file hfile
    have hdone : (host.writeFile file (renderOutput s name script (parse script))).run reported =
        (.ok (), { reported with tree }) := run_writeFile htree
    have hend := Invocation.perform_convert_file hexample h.perform_settings.1 hread hgo hplain
      hfile
    have hwrites := Invocation.perform_convert_file hexample h.perform_settings.2
      hrecorded hgo hrecord hfile
    rw [Action.perform_onFile] at hend hwrites
    rw [hdone] at hend
    refine ⟨congrArg Prod.fst hend, ?_, ?_, ?_, ?_⟩
    · exact congrArg (fun p => p.2.2) hwrites
    · exact congrArg (fun p => p.2.errors) hend
    · exact congrArg (fun p => p.2.output) hend
    · rw [htree]
      exact congrArg (fun p => Except.ok p.2.tree) hend.symm

end Workspace.Supplies

end Inputs

section Agreement

variable {w : Workspace} {env : Surroundings} {checking converting : Invocation} {s t : Settings}
  {name script : Bytes}

/-- Checks and conversions of a script. A check fails exactly if there are diagnostics, and so does
a strict conversion, with the same error after the same lines and without a trace of output. Any
other conversion succeeds, and its output, which is complete in each form, follows the same
lines. -/
theorem check_convert_agree (hchecking : w.Supplies env checking s name script)
    (hconverting : w.Supplies env converting t name script)
    (hexample : converting.own.isOn exampleFlag = false)
    (hwrite : ∀ file ∈ converting.outputFile?, ∀ text, IsOutput t name script text →
      ∃ tree, w.tree.write file text = .ok tree) :
    let errors := (parse script).errors
    let lines := rejectionLines name script
    let fatal : Except ToolError Unit := .error (.diagnostics name errors.length)
    let checked := w.aftermath fun host => checking.check env host
    let converted := w.aftermath fun host => converting.convert env host
    ((checked.result = fatal ↔ errors ≠ []) ∧ (checked.result = .ok () ↔ errors = []) ∧
      checked.OnlyReports w lines) ∧
    (t.strict = true → (converted.result = fatal ↔ errors ≠ []) ∧
      (errors ≠ [] → converted.OnlyReports w lines)) ∧
    (t.strict = false ∨ errors = [] → converted.result = .ok () ∧
      ∃ text, IsOutput t name script text ∧
        converted.ReportsAndWrites w lines text converting.outputFile?) := by
  intro errors lines fatal checked converted
  have hresult : checked.result = if errors = [] then .ok () else fatal :=
    hchecking.aftermath_check.1
  have hfails : checked.result = fatal ↔ errors ≠ [] := by
    rw [hresult]
    by_cases herrors : errors = []
    · simp [fatal, herrors]
    · simp [herrors]
  have hpasses : checked.result = .ok () ↔ errors = [] := by
    rw [hresult]
    by_cases herrors : errors = []
    · simp [herrors]
    · simp [fatal, herrors]
  have hcomplete := hconverting.isOutput_renderOutput
  have hdelivered (hgo : t.strict = false ∨ errors = []) :=
    hconverting.aftermath_convert hexample hgo fun file hfile => hwrite file hfile _ hcomplete
  refine ⟨⟨hfails, hpasses, hchecking.aftermath_check.2⟩, fun hstrict => ⟨⟨?_, ?_⟩, ?_⟩, ?_⟩
  · intro hfatal herrors
    have hok := (hdelivered (.inr herrors)).1
    exact absurd (hfatal.symm.trans hok) (by simp [fatal])
  · exact fun herrors => (hconverting.aftermath_convert_refused hexample hstrict herrors).1
  · exact fun herrors => (hconverting.aftermath_convert_refused hexample hstrict herrors).2
  · exact fun hgo => ⟨(hdelivered hgo).1, _, hcomplete, (hdelivered hgo).2⟩

end Agreement

/-- A script with two lines that are rejected, in a file. -/
def faultyWorkspace : Workspace where
  tree := { files := [(["a"], "DELAY x\nUP\nFOO")] }

/-- The script is checked, and its sketch, with the one line that is understood, is written to
another file. -/
theorem check_convert_agree_faulty :
    let checked := faultyWorkspace.aftermath fun host =>
      ({ task := .check, common := [], own := [], arguments := ["a"] } : Invocation).check {} host
    let converted := faultyWorkspace.aftermath fun host =>
      ({ task := .convert, common := [], own := [("o", "b")], arguments := ["a"] } :
        Invocation).convert {} host
    let lines : Bytes := "a: Line 1: DELAY requires a number\na: Line 3: Unknown command 'FOO'\n"
    (checked.result = .error (.diagnostics "a" 2) ∧ checked.OnlyReports faultyWorkspace lines) ∧
    converted.result = .ok () ∧
      converted.ReportsAndWrites faultyWorkspace lines
        (Sketch.header ++ "  Keyboard.write(KEY_UP_ARROW);\n" ++ Sketch.footer) (some "b") := by
  have hlines : rejectionLines "a" "DELAY x\nUP\nFOO" =
      "a: Line 1: DELAY requires a number\na: Line 3: Unknown command 'FOO'\n" := by
    decide +kernel
  have herrors : (parse "DELAY x\nUP\nFOO").errors.length = 2 := by
    rw [parse_eq_ofOutcomes]
    decide +kernel
  have hsketch : wholeSketch "DELAY x\nUP\nFOO" =
      Sketch.header ++ "  Keyboard.write(KEY_UP_ARROW);\n" ++ Sketch.footer := by
    rw [wholeSketch, parse_eq_ofOutcomes]
    decide +kernel
  let settings : Settings := { target := {}, format := "ino", strict := false, color := false }
  have hwrite : ∀ file ∈ (some "b" : Option Bytes), ∀ text,
      IsOutput settings "a" "DELAY x\nUP\nFOO" text →
        ∃ tree, faultyWorkspace.tree.write file text = .ok tree := by
    intro file hfile text _
    obtain rfl := Option.some.inj hfile
    exact ⟨_, rfl⟩
  obtain ⟨⟨hfails, -, hreports⟩, -, hdelivered⟩ := @check_convert_agree faultyWorkspace {}
    { task := .check, common := [], own := [], arguments := ["a"] }
    { task := .convert, common := [], own := [("o", "b")], arguments := ["a"] }
    settings settings "a" "DELAY x\nUP\nFOO" ⟨rfl, rfl, rfl⟩ ⟨rfl, rfl, rfl⟩ rfl
    hwrite
  obtain ⟨hresult, text, htext, hwrites⟩ := hdelivered (.inl rfl)
  rw [htext.ino rfl, hsketch, hlines] at hwrites
  rw [hlines] at hreports
  rw [herrors] at hfails
  exact ⟨⟨hfails.mpr (List.ne_nil_of_length_eq_add_one herrors), hreports⟩, hresult, hwrites⟩

end KeyScript
