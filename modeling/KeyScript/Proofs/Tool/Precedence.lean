import KeyScript.Proofs.Sketch.Target
import KeyScript.Proofs.Tool.Performing

/-!
# Where settings come from

Each setting has its sources in an order: the command line, the environment for some, the
configuration file, a default. An empty text in the file sets nothing, while an empty text on the
command line or in the environment counts, and so does a switch that is given as off. Settings are
found if every name that the sources come to is known. Otherwise the first that is not is reported,
and the settings that come with the report are empty.

## Main definitions

- `firstSource` — the value of the first source that has one
- `Invocation.resolved` — the names that the sources come to, known or not
- `Resolved.faults` — the names that are not known, in the order of reports
- `Settings.AreFrom` — settings that say what the sources say
- `Settles` — settings that are good, or empty beside the first of some faults

## Main results

- `readFlagsFrom_areRead` — a switch that is given has a truth value
- `Invocation.settles_settings` — settings are found, or the first fault is reported
- `Invocation.loadSettings_resolved` — which settings are found for a command line
-/

namespace KeyScript

/-! ## Flags that are given -/

/-- Flags as they are read: each has a flag behind its name, and a switch has a truth value. -/
def GivenFlags.AreRead (flags : List Flag) (given : GivenFlags) : Prop :=
  ∀ g ∈ given, ∃ f, flags.find? (fun f => f.names.contains g.1) = some f ∧
    (f.isSwitch = true → (readSwitch? g.2).isSome = true)

/-- One more flag, with a flag behind its name and a truth value if it is a switch. -/
theorem GivenFlags.AreRead.cons {flags : List Flag} {done : GivenFlags} (hdone : AreRead flags done)
    {name value : Bytes} {f : Flag} (hfind : flags.find? (fun f => f.names.contains name) = some f)
    (hvalue : f.isSwitch = true → (readSwitch? value).isSome = true) :
    AreRead flags ((name, value) :: done) :=
  List.forall_mem_cons.mpr ⟨⟨f, hfind, hvalue⟩, hdone⟩

theorem GivenFlags.AreRead.reverse {flags : List Flag} {done : GivenFlags}
    (hdone : AreRead flags done) : AreRead flags done.reverse :=
  fun g hg => hdone g (List.mem_reverse.mp hg)

/-- Each flag that is added to those that are done is as it is read, so all are in the end. -/
theorem readFlagsFrom_areRead {flags : List Flag} {done given : GivenFlags}
    {arguments rest : List Bytes} (hdone : done.AreRead flags)
    (h : readFlagsFrom flags done arguments = .ok (given, rest)) : given.AreRead flags := by
  -- The induction follows the arguments. The flags that are done are kept in reverse.
  fun_induction readFlagsFrom flags done arguments with
  | case1 | case2 | case3 =>
    obtain ⟨rfl, -⟩ := Prod.mk.inj (Except.ok.inj h)
    exact hdone.reverse
  | case6 done argument more name value hform f hfind hswitch shown hshown ih =>
    exact ih (hdone.cons hfind fun _ => hshown) h
  | case8 done argument more name f hfind hswitch v hform ih =>
    exact ih (hdone.cons hfind fun hs => absurd hs hswitch) h
  | case9 done argument name f hfind hswitch v more hform ih =>
    exact ih (hdone.cons hfind fun hs => absurd hs hswitch) h
  | case4 | case5 | case7 | case10 => cases h

/-- What succeeds has succeeded in its first step. -/
theorem exists_of_bind_eq_ok {ε α β : Type} {x : Except ε α} {f : α → Except ε β} {b : β}
    (h : x >>= f = .ok b) : ∃ a, x = .ok a ∧ f a = .ok b := by
  cases x with
  | error e => cases h
  | ok a => exact ⟨a, rfl, h⟩

/-- Flags that are found on a command line are as they are read; that none has two forms is no
matter here. -/
theorem readFlags_areRead {flags : List Flag} {given : GivenFlags} {arguments rest : List Bytes}
    (h : readFlags flags arguments = .ok (given, rest)) : given.AreRead flags := by
  obtain ⟨⟨given', rest'⟩, hread, hforms⟩ := exists_of_bind_eq_ok h
  have hgiven : given'.AreRead flags := readFlagsFrom_areRead (List.forall_mem_nil _) hread
  cases htwo : twoForms? flags given' with
  | some e =>
    simp only [htwo] at hforms
    cases hforms
  | none =>
    simp only [htwo] at hforms
    cases hforms
    exact hgiven

namespace CommandLine

variable {arguments : List Bytes} {inv : Invocation}

theorem flagsOf_areRead {flags : List Flag} {given : GivenFlags} {rest : List Bytes}
    (h : flagsOf flags arguments = .ok (given, rest)) : given.AreRead flags := by
  rw [flagsOf] at h
  cases hread : readFlags flags arguments with
  | error e =>
    rw [hread] at h
    cases h
  | ok p =>
    rw [hread] at h
    cases h
    exact readFlags_areRead hread

/-- Help is no task. -/
theorem helpOn_ne_run : helpOn arguments ≠ .ok (.run inv) := by
  unfold helpOn
  split
  · exact nofun
  · split <;> exact nofun

theorem ofHelp_ne_run : ofHelp arguments ≠ .ok (.run inv) := by
  intro h
  obtain ⟨⟨own, rest⟩, -, hrest⟩ := exists_of_bind_eq_ok h
  dsimp only at hrest
  split at hrest
  · cases hrest
  · exact helpOn_ne_run hrest

/-- The flags behind the name of a task are as they are read. -/
theorem areRead_of_ofTask {task : Task} {common : GivenFlags}
    (h : ofTask task common arguments = .ok (.run inv)) : inv.own.AreRead inv.task.flags := by
  obtain ⟨⟨own, rest⟩, hflags, hrest⟩ := exists_of_bind_eq_ok h
  dsimp only at hrest
  split at hrest
  · cases hrest
  · split at hrest
    · cases hrest
    · cases hrest
      exact flagsOf_areRead hflags

/-- The flags of the task on a command line are as they are read. -/
theorem areRead_of_ofArguments (h : ofArguments arguments = .ok (.run inv)) :
    inv.own.AreRead inv.task.flags := by
  obtain ⟨⟨common, rest⟩, -, hrest⟩ := exists_of_bind_eq_ok h
  dsimp only at hrest
  split at hrest
  · cases hrest
  · split at hrest
    · cases hrest
    · split at hrest
      · exact absurd hrest ofHelp_ne_run
      · split at hrest
        · exact areRead_of_ofTask hrest
        · exact absurd hrest helpOn_ne_run

end CommandLine

/-- A switch that is given has a truth value, if no other flag goes by its names. -/
theorem GivenFlags.AreRead.isSome_readSwitch? {flags : List Flag} {given : GivenFlags} {f : Flag}
    {value : Bytes} (hgiven : given.AreRead flags) (hswitch : f.isSwitch = true)
    (hnames : ∀ name ∈ f.names, ∀ g, flags.find? (fun g => g.names.contains name) = some g → g = f)
    (hvalue : given.value? f = some value) : (readSwitch? value).isSome = true := by
  obtain ⟨g, hlast, rfl⟩ := Option.map_eq_some_iff.mp hvalue
  obtain ⟨hg, hname⟩ := List.mem_filter.mp (List.mem_of_getLast? hlast)
  obtain ⟨f', hfind, hread⟩ := hgiven g hg
  obtain rfl := hnames g.1 (List.contains_iff_mem.mp hname) f' hfind
  exact hread hswitch

/-- No other flag of a task goes by the name of the switch. -/
theorem Task.eq_strictFlag_of_find? (task : Task) (name : Bytes) (hname : name ∈ strictFlag.names)
    (g : Flag) (hfind : task.flags.find? (fun g => g.names.contains name) = some g) :
    g = strictFlag := by
  obtain rfl : name = "strict" := List.mem_singleton.mp hname
  cases task with
  | convert => exact (Option.some.inj hfind).symm
  | check => cases hfind
  | watch => cases hfind

/-! ## Sources -/

/-- The value of the first source that has one: the command line, the environment, or the file,
where an empty text is no value. -/
def firstSource (commandLine environment : Option Bytes) (file default : Bytes) : Bytes :=
  match commandLine, environment, file with
  | some value, _, _ => value
  | none, some value, _ => value
  | none, none, [] => default
  | none, none, value => value

/-- A setting that is picked comes from the first of its sources. -/
theorem pick_or (commandLine environment : Option Bytes) (file default : Bytes) :
    pick (commandLine.or environment) file default =
      firstSource commandLine environment file default := by
  cases commandLine <;> cases environment <;> cases file <;> rfl

/-- The names that the sources of the settings come to, known or not. -/
structure Resolved where
  layout : Bytes
  board : Bytes
  format : Bytes
  color : Bytes
deriving DecidableEq, Repr

/-- The names that the sources come to for an invocation. -/
def Invocation.resolved (inv : Invocation) (env : Surroundings) (cfg : FileConfig) : Resolved where
  layout := firstSource (inv.common.value? layoutFlag)
    (env.environment.lookup ("DUCKIFY_LAYOUT" : Bytes)) cfg.layout "us"
  board := firstSource (inv.common.value? boardFlag)
    (env.environment.lookup ("DUCKIFY_BOARD" : Bytes)) cfg.board "leonardo"
  format := firstSource (inv.own.value? formatFlag) none cfg.format "ino"
  color := firstSource (inv.common.value? colorFlag) none [] "auto"

/-- A fault, unless a name is one of those that are known. -/
def faultUnless (known : List Bytes) (name : Bytes) (fault : SettingsError) : List SettingsError :=
  if known.contains name then [] else [fault]

/-- The names that are not known, in the order in which they are looked at. -/
def Resolved.faults (r : Resolved) : List SettingsError :=
  [faultUnless ["us", "de", "uk"] r.layout (.badTarget (.unknownLayout r.layout)),
    faultUnless ["leonardo", "duemilanove", "proMicro"] r.board
      (.badTarget (.unknownBoard r.board)),
    faultUnless ["ino", "json", "html"] r.format (.badFormat r.format),
    faultUnless ["auto", "", "always", "never"] r.color (.badColor r.color)].flatten

/-- Whether diagnostics are coloured in a mode that is known. -/
def Surroundings.colors (env : Surroundings) (mode : Bytes) : Bool :=
  if mode = "always" then true else if mode = "never" then false else env.errorIsTerminal

/-- Settings that say what the sources of an invocation say. -/
structure Settings.AreFrom (settings : Settings) (inv : Invocation) (env : Surroundings)
    (cfg : FileConfig) : Prop where
  layout_eq : settings.target.layout = (inv.resolved env cfg).layout
  board_eq : settings.target.board = (inv.resolved env cfg).board
  format_eq : settings.format = (inv.resolved env cfg).format
  strict_of_given : ∀ value, inv.own.value? strictFlag = some value →
    readSwitch? value = some settings.strict
  strict_of_not_given : inv.own.value? strictFlag = none → settings.strict = cfg.strict
  color_eq : settings.color = env.colors (inv.resolved env cfg).color

/-! ## The first fault -/

/-- Settings and an error: good settings without an error if there are no faults, and otherwise
empty settings with the first fault. -/
inductive Settles (good : Settings → Prop) :
    List SettingsError → Settings × Option SettingsError → Prop where
  | result {settings : Settings} (h : good settings) : Settles good [] (settings, none)
  | fault (e : SettingsError) (more : List SettingsError) :
      Settles good (e :: more) (⟨⟨[], []⟩, [], false, false⟩, some e)

section Settles

variable {good : Settings → Prop} {faults more : List SettingsError}
  {p : Settings × Option SettingsError} {known : List Bytes} {name : Bytes}
  {fault e : SettingsError}

/-- A name that is known is no fault. -/
theorem Settles.of_mem (hmem : name ∈ known) (h : Settles good more p) :
    Settles good (faultUnless known name fault ++ more) p := by
  rw [faultUnless, if_pos (List.contains_iff_mem.mpr hmem)]
  exact h

/-- A name that is not known is reported, whatever comes behind it. -/
theorem Settles.of_not_mem (hmem : name ∉ known) :
    Settles good (faultUnless known name fault ++ more) (.empty, some fault) := by
  rw [faultUnless, if_neg fun h => hmem (List.contains_iff_mem.mp h)]
  exact .fault fault more

/-- There is no error exactly if there are no faults. -/
theorem Settles.snd_eq_none_iff (h : Settles good faults p) : p.2 = none ↔ faults = [] := by
  cases h <;> simp

theorem Settles.good_of_none (h : Settles good faults p) (hnone : p.2 = none) : good p.1 := by
  cases h with
  | result h => exact h
  | fault => cases hnone

/-- With an error, whatever it is, nothing is set. -/
theorem Settles.fst_of_some (h : Settles good faults p) (hsome : p.2 = some e) :
    p.1 = ⟨⟨[], []⟩, [], false, false⟩ := by
  cases h with
  | result => cases hsome
  | fault => rfl

/-- The error is the first fault. -/
theorem Settles.snd_eq_head? (h : Settles good faults p) : p.2 = faults.head? := by
  cases h <;> rfl

end Settles

/-! ## Settings -/

/-- Whether diagnostics are coloured is found in a mode that is known, and the name of any other
mode is reported. -/
theorem readColor_cases (env : Surroundings) (mode : Bytes) :
    (readColor env mode = .ok (env.colors mode) ∧
      mode ∈ (["auto", "", "always", "never"] : List Bytes)) ∨
    readColor env mode = .error (.badColor mode) ∧
      mode ∉ (["auto", "", "always", "never"] : List Bytes) := by
  have hempty : ("" : Bytes) = [] := rfl
  unfold readColor Surroundings.colors
  split
  next h => exact .inl ⟨rfl, by simp [h]⟩
  split
  next h => exact .inl ⟨rfl, by simp [h]⟩
  split
  next hauto =>
    simp only [Bool.or_eq_true, decide_eq_true_eq] at hauto
    refine .inl ⟨rfl, ?_⟩
    rcases hauto with h | h <;> simp [h, hempty]
  next halways hnever hauto =>
    simp only [Bool.or_eq_true, decide_eq_true_eq, not_or] at hauto
    exact .inr ⟨rfl, by simp [halways, hnever, hauto, hempty]⟩

namespace Invocation

variable {inv : Invocation}

/-- The switch counts if it is given, on or off. -/
theorem readSwitch?_strict (hread : inv.own.AreRead inv.task.flags) {value : Bytes}
    (hvalue : inv.own.value? strictFlag = some value) (fromFile : Bool) :
    readSwitch? value =
      some (((inv.own.value? strictFlag).bind readSwitch?).getD fromFile) := by
  obtain ⟨b, hb⟩ := Option.isSome_iff_exists.mp
    (hread.isSome_readSwitch? rfl inv.task.eq_strictFlag_of_find? hvalue)
  rw [hvalue, Option.bind_some, hb, Option.getD_some]

/-- Settings are found, or the first fault is reported. The names are looked at in their order, and
each that is not known ends the search. -/
theorem settles_settings (hread : inv.own.AreRead inv.task.flags) (env : Surroundings)
    (cfg : FileConfig) :
    Settles (fun settings => settings.AreFrom inv env cfg ∧ settings.target.validate = .ok ())
      (inv.resolved env cfg).faults (inv.settings env cfg) := by
  have hlayout : pick (env.flagValue? inv.common layoutFlag) cfg.layout ({} : Target).layout =
      (inv.resolved env cfg).layout := pick_or _ _ _ _
  have hboard : pick (env.flagValue? inv.common boardFlag) cfg.board ({} : Target).board =
      (inv.resolved env cfg).board := pick_or _ _ _ _
  have hformat : pick (inv.own.value? formatFlag) cfg.format "ino" =
      (inv.resolved env cfg).format := by
    rw [← Option.or_none (o := inv.own.value? formatFlag)]
    exact pick_or _ _ _ _
  have hcolor : (inv.common.value? colorFlag).getD "auto" = (inv.resolved env cfg).color := by
    rw [resolved]
    cases inv.common.value? colorFlag <;> rfl
  simp only [settings, hlayout, hboard, hformat, hcolor, Resolved.faults, List.flatten_cons]
  rcases Layout.ofName_cases (inv.resolved env cfg).layout with ⟨l, hl, hlname, hlknown⟩ | ⟨hl, hno⟩
  · simp only [hl]
    refine .of_mem hlknown ?_
    rcases Board.ofName_cases (inv.resolved env cfg).board with ⟨b, hb, hbname, hbknown⟩ | ⟨hb, hno⟩
    · simp only [hb]
      refine .of_mem hbknown ?_
      by_cases hfknown : (inv.resolved env cfg).format ∈ formatNames
      · simp only [List.contains_iff_mem.mpr hfknown, Bool.not_true, Bool.false_eq_true, if_false]
        refine .of_mem hfknown ?_
        rcases readColor_cases env (inv.resolved env cfg).color with ⟨hc, hcknown⟩ | ⟨hc, hno⟩
        · simp only [hc]
          refine .of_mem hcknown (.result ⟨?_, Target.validate_name l b⟩)
          exact {
            layout_eq := hlname
            board_eq := hbname
            format_eq := rfl
            strict_of_given := fun value hvalue => readSwitch?_strict hread hvalue cfg.strict
            strict_of_not_given := fun hvalue => by simp only [hvalue]; rfl
            color_eq := rfl }
        · simp only [hc]
          exact .of_not_mem hno
      · have hno : formatNames.contains (inv.resolved env cfg).format = false :=
          Bool.eq_false_iff.mpr (mt List.contains_iff_mem.mp hfknown)
        simp only [hno, Bool.not_false, if_true]
        exact .of_not_mem hfknown
    · simp only [hb]
      exact .of_not_mem hno
  · simp only [hl]
    exact .of_not_mem hno

/-- The configuration is what is read from the file that is asked for. -/
theorem perform_config_of_some {σ : Type} {env : Surroundings} {host : Host (StateM σ)} {s t : σ}
    {file text : Bytes} {cfg : FileConfig} (hfile : inv.configFile? env = some file)
    (hread : (host.readFile file).run s = (.ok text, t))
    (htext : FileConfig.ofText text = .ok cfg) :
    (inv.config env host).perform s = (.ok cfg, t) := by
  have hstep : (onFile (host.readFile file)).perform s = (.ok text, t) := by
    rw [Action.perform_onFile, hread]
    rfl
  rw [config, hfile]
  simp only
  rw [Action.perform_bind_of_ok hstep, Action.perform_ofExcept, htext]
  rfl

/-- Once the configuration file is read, settings are found if all names are known. They say what
the sources say and have a valid target. Otherwise the first name that is not known is reported.
Whatever the error is, also one of the configuration file, the settings beside it are empty. -/
theorem loadSettings_resolved {arguments : List Bytes}
    (hline : CommandLine.ofArguments arguments = .ok (.run inv)) (env : Surroundings) {σ : Type}
    (host : Host (StateM σ)) {s t : σ} {cfg : FileConfig}
    (hconfig : (inv.config env host).perform s = (.ok cfg, t)) :
    ((∃ settings, (inv.loadSettings env host).run s = ((settings, none), t)) ↔
      (inv.resolved env cfg).faults = []) ∧
    (∀ settings, (inv.loadSettings env host).run s = ((settings, none), t) →
      settings.AreFrom inv env cfg ∧ settings.target.validate = .ok ()) ∧
    (∀ e, (inv.loadSettings env host).run s = ((⟨⟨[], []⟩, [], false, false⟩, some e), t) ↔
      (inv.resolved env cfg).faults.head?.map ToolError.settings = some e) ∧
    ∀ (start : σ) settings e, ((inv.loadSettings env host).run start).1 = (settings, some e) →
      settings = ⟨⟨[], []⟩, [], false, false⟩ := by
  have hread := CommandLine.areRead_of_ofArguments hline
  have hsettles := settles_settings hread env cfg
  have hrun (settings : Settings) (error : Option ToolError) :
      (inv.loadSettings env host).run s = ((settings, error), t) ↔
        (inv.settings env cfg).1 = settings ∧ (inv.settings env cfg).2.map .settings = error := by
    rw [run_loadSettings, hconfig]
    constructor
    · exact fun h => Prod.mk.inj (Prod.mk.inj h).1
    · rintro ⟨rfl, rfl⟩
      rfl
  simp only [hrun, Option.map_eq_none_iff]
  refine ⟨⟨?_, ?_⟩, ?_, fun e => ?_, ?_⟩
  · rintro ⟨settings, -, hnone⟩
    exact hsettles.snd_eq_none_iff.mp hnone
  · exact fun hfaults => ⟨_, rfl, hsettles.snd_eq_none_iff.mpr hfaults⟩
  · rintro settings ⟨rfl, hnone⟩
    exact hsettles.good_of_none hnone
  · rw [← hsettles.snd_eq_head?]
    refine ⟨And.right, fun herror => ⟨?_, herror⟩⟩
    obtain ⟨fault, hfault, -⟩ := Option.map_eq_some_iff.mp herror
    exact hsettles.fst_of_some hfault
  · intro start settings e hload
    rw [run_loadSettings] at hload
    cases hfile : ((inv.config env host).perform start).1 with
    | error e =>
      rw [hfile] at hload
      exact (Prod.mk.inj hload).1.symm
    | ok other =>
      rw [hfile] at hload
      obtain ⟨rfl, herror⟩ := Prod.mk.inj hload
      obtain ⟨fault, hfault, -⟩ := Option.map_eq_some_iff.mp herror
      exact (settles_settings hread env other).fst_of_some hfault

/-- A configuration that sets all but the board. -/
def configText : Bytes :=
  "[Sketch]\nLayout = \"uk\"\nBoard = \"\"\n[Output]\nFormat = \"json\"\nStrict = true\n"

theorem ofText_configText :
    FileConfig.ofText configText = .ok { layout := "uk", format := "json", strict := true } := by
  have htext : (FileConfig.ofText configText).toOption =
      some { layout := "uk", format := "json", strict := true } := by
    decide +kernel
  cases hread : FileConfig.ofText configText with
  | error e =>
    rw [hread] at htext
    cases htext
  | ok cfg =>
    rw [hread] at htext
    rw [Option.some.inj htext]

/-- The layout comes from the command line, the board from the environment and the format from the
file, and the switch on the command line turns off what the file turns on. With a board that is not
known there are no settings. -/
theorem loadSettings_resolved_sources :
    let inv : Invocation :=
      { task := .convert, common := [("config", "c"), ("layout", "de")],
        own := [("strict", "false")], arguments := ["a"] }
    let env (board : Bytes) : Surroundings :=
      { environment := [("DUCKIFY_LAYOUT", "us"), ("DUCKIFY_BOARD", board)] }
    let w : Workspace := { tree := { files := [(["c"], configText)] } }
    CommandLine.ofArguments ["--config", "c", "--layout=de", "convert", "--strict=false", "a"] =
      .ok (.run inv) ∧
    (∃ settings, (inv.loadSettings (env "proMicro") Workspace.host).run w = ((settings, none), w) ∧
      settings.target = { layout := "de", board := "proMicro" } ∧ settings.format = "json" ∧
      settings.strict = false) ∧
    (inv.loadSettings (env "uno") Workspace.host).run w =
      ((⟨⟨[], []⟩, [], false, false⟩, some (.settings (.badTarget (.unknownBoard "uno")))), w) := by
  intro inv env w
  have hline : CommandLine.ofArguments
      ["--config", "c", "--layout=de", "convert", "--strict=false", "a"] = .ok (.run inv) := rfl
  have hread : (Workspace.host.readFile "c").run w = (.ok configText, w) := rfl
  have hconfig (board : Bytes) :=
    @perform_config_of_some inv _ (env board) _ w w _ _ _ rfl hread ofText_configText
  obtain ⟨hfound, hfrom, -, -⟩ := loadSettings_resolved hline _ _ (hconfig "proMicro")
  obtain ⟨-, -, hreports, -⟩ := loadSettings_resolved hline _ _ (hconfig "uno")
  obtain ⟨settings, hsettings⟩ := hfound.mpr rfl
  obtain ⟨hsources, -⟩ := hfrom settings hsettings
  have hstrict : some false = some settings.strict := hsources.strict_of_given "false" rfl
  have htarget : settings.target = ⟨settings.target.layout, settings.target.board⟩ := rfl
  rw [hsources.layout_eq, hsources.board_eq] at htarget
  exact ⟨hline, ⟨settings, hsettings, htarget, hsources.format_eq,
    (Option.some.inj hstrict).symm⟩, (hreports _).mpr rfl⟩

end Invocation

end KeyScript
