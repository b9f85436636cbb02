import KeyScript.Tool.Run
import KeyScript.Tool.Workspace

/-!
# Tasks from state to state

A host whose operations change a state makes a task a function of the state. This module has the
equations for the steps of which tasks are made, and what checking and converting come to on any
such host once settings and script are there. A workspace keeps what is written apart, so the order
of the writes cannot be seen in it. A host can be made to record them.

## Main definitions

- `Action.perform` — how an action ends, and the state that it leaves
- `afterReport` — the state after the diagnostics of a script are written
- `Write`, `Host.recorded` — the same host with a record of the writes
- `Silent` — an action that does the same on the recorded host and writes nothing

## Main results

- `Invocation.perform_check` — a check behind its inputs
- `Invocation.perform_convert_refused`, `Invocation.perform_convert_output`,
  `Invocation.perform_convert_file` — a conversion behind its inputs
- `Invocation.silent_validSettings`, `silent_readScript` — what is read is not recorded
- `Workspace.perform_validSettings` — settings that are found, from a workspace
-/

namespace KeyScript

variable {σ α β : Type}

/-- How an action ends, and the state that it leaves. -/
def Action.perform (x : Action (StateM σ) α) (s : σ) : Except ToolError α × σ := x.run.run s

namespace Action

variable {x : Action (StateM σ) α} {f : α → Action (StateM σ) β} {s t : σ}

/-- An operation of the host does not fail. -/
theorem perform_lift (op : StateM σ α) (s : σ) :
    perform (liftM op) s = (.ok (op.run s).1, (op.run s).2) := rfl

/-- An operation on a file fails as the file does. -/
theorem perform_onFile (op : StateM σ (Except FileError α)) (s : σ) :
    (onFile op).perform s = ((op.run s).1.mapError .file, (op.run s).2) := rfl

/-- What is known to fail or not leaves the state alone. -/
theorem perform_ofExcept (r : Except ToolError α) (s : σ) :
    perform (MonadExcept.ofExcept r) s = (r, s) := by
  cases r <;> rfl

/-- After an action that succeeds comes the next one, from the state that it left. -/
theorem perform_bind_of_ok {a : α} (h : x.perform s = (.ok a, t)) :
    perform (x >>= f) s = (f a).perform t := by
  have hrun : perform (x >>= f) s = (ExceptT.bindCont f (x.perform s).1).run (x.perform s).2 := rfl
  rw [hrun, h]
  rfl

/-- After an action that fails nothing comes. -/
theorem perform_bind_of_error {e : ToolError} (h : x.perform s = (.error e, t)) :
    perform (x >>= f) s = (.error e, t) := by
  have hrun : perform (x >>= f) s = (ExceptT.bindCont f (x.perform s).1).run (x.perform s).2 := rfl
  rw [hrun, h]
  rfl

/-- Actions that leave a state as it is do so one after the other. -/
theorem perform_bind_snd (hx : (x.perform s).2 = s) (hf : ∀ a, ((f a).perform s).2 = s) :
    (perform (x >>= f) s).2 = s := by
  cases hcase : x.perform s with
  | mk r t =>
    obtain rfl : t = s := by rw [← hx, hcase]
    cases r with
    | ok a => rw [perform_bind_of_ok hcase, hf a]
    | error e => rw [perform_bind_of_error hcase]

end Action

open KeyScript.Action

section Delivery

variable {c : Conversion} {host : Host (StateM σ)} {s : σ}

/-- A script that is not refused: its diagnostics are written, and its output is handed on. -/
theorem Conversion.perform_deliver_of_some {output : Bytes} (h : c.output = some output)
    (name : Bytes) : (c.deliver name host).perform s =
      (.ok output, ((host.writeError c.diagnostics).run s).2) := by
  rw [deliver, perform_bind_of_ok (perform_lift (host.writeError c.diagnostics) s), h]
  rfl

/-- A script that is refused: its diagnostics are written, and their number is the error. -/
theorem Conversion.perform_deliver_of_none (h : c.output = none) (name : Bytes) :
    (c.deliver name host).perform s =
      (.error (.diagnostics name c.count), ((host.writeError c.diagnostics).run s).2) := by
  rw [deliver, perform_bind_of_ok (perform_lift (host.writeError c.diagnostics) s), h]
  rfl

theorem Result.isOk_iff {r : Result} : r.isOk = true ↔ r.errors = [] := List.isEmpty_iff

theorem Result.isOk_eq_false {r : Result} (h : r.errors ≠ []) : r.isOk = false :=
  Bool.eq_false_iff.mpr (mt isOk_iff.mp h)

end Delivery

/-- The state after the diagnostics of a script are written. -/
def afterReport (host : Host (StateM σ)) (paint : Paint) (name script : Bytes) (s : σ) : σ :=
  ((host.writeError (diagnosticLines paint name (parse script))).run s).2

namespace Invocation

/-- The file that a conversion writes, if one is named. -/
def outputFile? (inv : Invocation) : Option Bytes := (inv.own.value? outputFlag).filter (· ≠ [])

section Inputs

variable {inv : Invocation} {env : Surroundings} {host : Host (StateM σ)} {settings : Settings}
  {name script : Bytes} {s s₁ s₂ : σ}

/-- Settings are loaded from what the configuration file comes to. An error comes with empty
settings. -/
theorem run_loadSettings (inv : Invocation) (env : Surroundings) (host : Host (StateM σ)) (s : σ) :
    (inv.loadSettings env host).run s =
      (match ((inv.config env host).perform s).1 with
        | .error e => (.empty, some e)
        | .ok cfg => ((inv.settings env cfg).1, (inv.settings env cfg).2.map .settings),
        ((inv.config env host).perform s).2) := by
  have hrun : ((inv.config env host).run.run s) = (inv.config env host).perform s := rfl
  rw [loadSettings, StateT.run_bind, hrun]
  cases (inv.config env host).perform s with
  | mk r t => cases r <;> rfl

/-- A task goes on with settings that come without an error, and fails with the error otherwise. -/
theorem perform_validSettings (inv : Invocation) (env : Surroundings) (host : Host (StateM σ))
    (s : σ) :
    (inv.validSettings env host).perform s =
      (match ((inv.loadSettings env host).run s).1 with
        | (settings, none) => .ok settings
        | (_, some e) => .error e,
        ((inv.loadSettings env host).run s).2) := by
  have hrun : (inv.validSettings env host).perform s = ((inv.loadSettings env host >>=
      fun r : Settings × Option ToolError => match r with
        | (settings, none) => return .ok settings
        | (_, some e) => return .error e : StateM σ (Except ToolError Settings))).run s := rfl
  rw [hrun, StateT.run_bind]
  rcases (inv.loadSettings env host).run s with ⟨⟨settings, error⟩, t⟩
  cases error <;> rfl

/-- A check writes the diagnostics, and fails if there are any. -/
theorem perform_check (hsettings : (inv.validSettings env host).perform s = (.ok settings, s₁))
    (hread : (readScript inv.arguments host).perform s₁ = (.ok (name, script), s₂)) :
    (inv.check env host).perform s =
      (if (parse script).errors = [] then .ok ()
        else .error (.diagnostics name (parse script).errors.length),
        afterReport host (settings.paint env) name script s₂) := by
  rw [check, perform_bind_of_ok hsettings, perform_bind_of_ok hread]
  by_cases herrors : (parse script).errors = []
  · have houtput : (checkScript (settings.paint env) name script).output = some [] := by
      simp only [checkScript, if_pos (Result.isOk_iff.mpr herrors)]
    rw [if_pos herrors]
    exact perform_bind_of_ok (Conversion.perform_deliver_of_some houtput name)
  · have houtput : (checkScript (settings.paint env) name script).output = none := by
      simp only [checkScript, Result.isOk_eq_false herrors, Bool.false_eq_true, if_false]
    rw [if_neg herrors]
    exact perform_bind_of_error (Conversion.perform_deliver_of_none houtput name)

/-- A conversion hands its output on if diagnostics are not fatal or there are none. -/
theorem perform_deliver_of_not_refused (h : settings.strict = false ∨ (parse script).errors = [])
    (paint : Paint) :
    ((settings.convert paint name script).deliver name host).perform s =
      (.ok (renderOutput settings name script (parse script)),
        afterReport host paint name script s) := by
  apply Conversion.perform_deliver_of_some
  have hgo : (settings.strict && !(parse script).isOk) = false := by
    obtain hstrict | herrors := h
    · rw [hstrict, Bool.false_and]
    · rw [Result.isOk_iff.mpr herrors, Bool.not_true, Bool.and_false]
  simp only [Settings.convert, hgo, Bool.false_eq_true, if_false]

variable (hexample : inv.own.isOn exampleFlag = false)
  (hsettings : (inv.validSettings env host).perform s = (.ok settings, s₁))
  (hread : (readScript inv.arguments host).perform s₁ = (.ok (name, script), s₂))

include hexample hsettings hread

/-- A strict conversion of a script with diagnostics writes them and fails. -/
theorem perform_convert_refused (hstrict : settings.strict = true)
    (herrors : (parse script).errors ≠ []) :
    (inv.convert env host).perform s =
      (.error (.diagnostics name (parse script).errors.length),
        afterReport host (settings.paint env) name script s₂) := by
  have houtput : (settings.convert (settings.paint env) name script).output = none := by
    simp only [Settings.convert, hstrict, Result.isOk_eq_false herrors, Bool.not_false,
      Bool.and_self, if_true]
  rw [convert, hexample, if_neg Bool.false_ne_true, perform_bind_of_ok hsettings,
    perform_bind_of_ok hread]
  exact perform_bind_of_error (Conversion.perform_deliver_of_none houtput name)

-- The two conversions below differ in where the output goes, once the diagnostics are written.
variable (hgo : settings.strict = false ∨ (parse script).errors = []) {s₃ : σ}
  (hdiagnostics : afterReport host (settings.paint env) name script s₂ = s₃)

include hgo hdiagnostics

/-- Without a file, the output of a conversion goes to the standard output. -/
theorem perform_convert_output (hfile : inv.outputFile? = none) :
    (inv.convert env host).perform s =
      (.ok (),
       ((host.writeOutput (renderOutput settings name script (parse script))).run s₃).2) := by
  rw [convert, hexample, if_neg Bool.false_ne_true, perform_bind_of_ok hsettings,
    perform_bind_of_ok hread]
  show perform (_ >>= _) _ = _
  rw [perform_bind_of_ok (perform_deliver_of_not_refused hgo _), hdiagnostics,
    ← outputFile?, hfile]
  rfl

/-- With a file, the output of a conversion goes there, and the conversion fails if the file
does. -/
theorem perform_convert_file {file : Bytes} (hfile : inv.outputFile? = some file) :
    (inv.convert env host).perform s =
      perform (onFile (host.writeFile file (renderOutput settings name script (parse script))))
        s₃ := by
  rw [convert, hexample, if_neg Bool.false_ne_true, perform_bind_of_ok hsettings,
    perform_bind_of_ok hread]
  show perform (_ >>= _) _ = _
  rw [perform_bind_of_ok (perform_deliver_of_not_refused hgo _), hdiagnostics,
    ← outputFile?, hfile]

end Inputs

end Invocation

/-- A write of a task. -/
inductive Write where
  | output (text : Bytes)
  | errors (text : Bytes)
  | file (path text : Bytes)
deriving DecidableEq, Repr

/-- An operation beside a record, which stays as it is. -/
def unrecorded (op : StateM σ α) : StateM (σ × List Write) α :=
  fun p => ((op.run p.1).1, (op.run p.1).2, p.2)

/-- An operation beside a record, to which it adds a write. -/
def recordedAs (write : Write) (op : StateM σ α) : StateM (σ × List Write) α :=
  fun p => ((op.run p.1).1, (op.run p.1).2, p.2 ++ [write])

/-- The same host with a record of the writes, in the order in which they are made. -/
def Host.recorded (host : Host (StateM σ)) : Host (StateM (σ × List Write)) where
  readFile path := unrecorded (host.readFile path)
  writeFile path text := recordedAs (.file path text) (host.writeFile path text)
  isDirectory path := unrecorded (host.isDirectory path)
  missing? path := unrecorded (host.missing? path)
  readInput := unrecorded host.readInput
  writeOutput text := recordedAs (.output text) (host.writeOutput text)
  writeError text := recordedAs (.errors text) (host.writeError text)

/-- The first action does beside a record what the second does without one, and writes nothing. -/
def Silent (x : Action (StateM (σ × List Write)) α) (y : Action (StateM σ) α) : Prop :=
  ∀ s log, x.perform (s, log) = ((y.perform s).1, (y.perform s).2, log)

/-! ### What is read is not recorded -/

theorem silent_pure (a : α) : Silent (σ := σ) (pure a) (pure a) := fun _ _ => rfl

theorem silent_ofExcept (r : Except ToolError α) :
    Silent (σ := σ) (MonadExcept.ofExcept r) (MonadExcept.ofExcept r) := by
  intro s log
  rw [perform_ofExcept, perform_ofExcept]

theorem silent_onFile (op : StateM σ (Except FileError α)) :
    Silent (onFile (unrecorded op)) (onFile op) := fun _ _ => rfl

/-- Silent actions one after the other are silent. -/
theorem Silent.bind {x : Action (StateM (σ × List Write)) α} {y : Action (StateM σ) α}
    {f : α → Action (StateM (σ × List Write)) β} {g : α → Action (StateM σ) β} (hx : Silent x y)
    (hf : ∀ a, Silent (f a) (g a)) : Silent (x >>= f) (y >>= g) := by
  intro s log
  have hstart := hx s log
  cases hcase : y.perform s with
  | mk r t =>
    rw [hcase] at hstart
    cases r with
    | ok a => rw [perform_bind_of_ok hstart, perform_bind_of_ok hcase, hf a]
    | error e => rw [perform_bind_of_error hstart, perform_bind_of_error hcase]

namespace Invocation

variable (inv : Invocation) (env : Surroundings)

theorem silent_config (host : Host (StateM σ)) :
    Silent (inv.config env host.recorded) (inv.config env host) := by
  unfold config
  cases inv.configFile? env with
  | none => exact silent_pure _
  | some file => exact .bind (silent_onFile (host.readFile file)) fun text => silent_ofExcept _

/-- Settings are found without a write. -/
theorem silent_validSettings (host : Host (StateM σ)) :
    Silent (inv.validSettings env host.recorded) (inv.validSettings env host) := by
  intro s log
  simp only [perform_validSettings, run_loadSettings, inv.silent_config env host s log]

end Invocation

/-- The script is read without a write. -/
theorem silent_readScript (arguments : List Bytes) (host : Host (StateM σ)) :
    Silent (readScript arguments host.recorded) (readScript arguments host) := by
  unfold readScript
  split
  · exact fun _ _ => rfl
  · simp only
    split
    · exact fun _ _ => rfl
    · exact .bind (silent_onFile (host.readFile _)) fun text => silent_pure _

namespace Workspace

/-- Reading the configuration leaves a workspace as it is. -/
theorem perform_config_snd (w : Workspace) (inv : Invocation) (env : Surroundings) :
    ((inv.config env host).perform w).2 = w := by
  unfold Invocation.config
  cases inv.configFile? env with
  | none => rfl
  | some file =>
    refine perform_bind_snd rfl fun text => ?_
    rw [perform_ofExcept]

/-- Settings that are found leave a workspace as it is. -/
theorem perform_validSettings {w : Workspace} {inv : Invocation} {env : Surroundings}
    {settings : Settings} (h : ((inv.loadSettings env host).run w).1 = (settings, none)) :
    (inv.validSettings env host).perform w = (.ok settings, w) := by
  rw [Invocation.perform_validSettings, h, Invocation.run_loadSettings, perform_config_snd]

/-- Reading the script uses up the input at most. -/
theorem exists_perform_readScript_snd (w : Workspace) (arguments : List Bytes) :
    ∃ rest, ((readScript arguments host).perform w).2 = { w with input := rest } := by
  unfold readScript
  split
  · exact ⟨w.input, rfl⟩
  · simp only
    split
    · exact ⟨[], rfl⟩
    · exact ⟨w.input, perform_bind_snd rfl fun text => rfl⟩

/-- A file that can be written is written. -/
theorem run_writeFile {w : Workspace} {path text : Bytes} {tree : FileTree}
    (h : w.tree.write path text = .ok tree) :
    (host.writeFile path text).run w = (.ok (), { w with tree }) := by
  simp only [host, StateT.run_bind, StateT.run_get, pure_bind, h]
  rfl

end Workspace

end KeyScript
