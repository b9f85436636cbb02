import KeyScript.Proofs.Script.Accounting
import KeyScript.Proofs.Script.Calls

/-!
# Scripts one after the other

The number of a line has no influence on what the line produces; it is only carried along. So the
lines of a script that stands behind another one produce what they produce by themselves, with
higher numbers, as long as none of them asks for a copy of a command that the first script left
behind.

## Main definitions

- `Command.mapLine`, `Diagnostic.mapLine`, `Outcome.mapLine` — a change of line numbers

## Main results

- `LineByLine.produce_mapLine`, `LineByLine.run_mapLine` — lines under other numbers
- `LineByLine.run_append` — lines behind other lines
- `LineByLine.run_eq_run_none` — lines that do not look at what stands before them
- `splitLines_append_lineFeed` — the lines of two texts with a line feed between them
- `parse_append_lineFeed` — the result of two scripts one after the other
-/

namespace KeyScript

section MapLine

variable (f : Int → Int)

def Command.mapLine (c : Command) : Command := { c with line := f c.line }

def Diagnostic.mapLine (e : Diagnostic) : Diagnostic := { e with line := f e.line }

/-- The same outcome with another line number, as `f` says. -/
def Outcome.mapLine : Outcome → Outcome
  | command c => command (c.mapLine f)
  | rejected e => rejected (e.mapLine f)
  | finished ending => finished ending

theorem Outcome.filterMap_command?_mapLine (outcomes : List Outcome) :
    (outcomes.map (mapLine f)).filterMap command? =
      (outcomes.filterMap command?).map (Command.mapLine f) := by
  rw [List.filterMap_map, List.map_filterMap]
  congr 1
  funext o
  cases o <;> rfl

theorem Outcome.filterMap_diagnostic?_mapLine (outcomes : List Outcome) :
    (outcomes.map (mapLine f)).filterMap diagnostic? =
      (outcomes.filterMap diagnostic?).map (Diagnostic.mapLine f) := by
  rw [List.filterMap_map, List.map_filterMap]
  congr 1
  funext o
  cases o <;> rfl

end MapLine

namespace LineByLine

variable {cap : Int} {last last' : Option Command}

/-- What a line produces depends on its number only by carrying it, and on the number of the command
before it not at all. -/
theorem produce_mapLine (h : SameUpToLine last last') {f : Int → Int} {n n' : Nat}
    (hf : f n = n') (line : Bytes) :
    produce cap last' n' line = (produce cap last n line).map (Outcome.mapLine f) := by
  rw [← Reading.outcomes_ofLine, ← Reading.outcomes_ofLine]
  cases Reading.ofLine line with
  | nothing => rfl
  | command kind args =>
    simp only [Reading.outcomes, List.map_singleton, Outcome.mapLine, Command.mapLine, hf]
  | rejected token cause =>
    simp only [Reading.outcomes, List.map_singleton, Outcome.mapLine, Diagnostic.mapLine, hf]
  | again token count =>
    rcases h.cases with ⟨rfl, rfl⟩ | ⟨c, c', rfl, rfl, hsame⟩
    · simp only [Reading.outcomes, List.map_singleton, Outcome.mapLine, Diagnostic.mapLine, hf]
    · have hcopy : Command.mapLine f (atLine n c) = atLine n' c' := by
        rw [← hsame n']
        simp only [Command.mapLine, atLine, hf]
      simp only [Reading.outcomes, List.map_replicate, Outcome.mapLine]
      exact congrArg _ (congrArg Outcome.command hcopy.symm)

theorem SameUpToLine.latest_mapLine (h : SameUpToLine last last') (f : Int → Int)
    (outcomes : List Outcome) :
    SameUpToLine (LineByLine.latest last outcomes)
      (LineByLine.latest last' (outcomes.map (Outcome.mapLine f))) := by
  rw [LineByLine.latest, LineByLine.latest, Outcome.filterMap_command?_mapLine, List.getLast?_map]
  cases (outcomes.filterMap Outcome.command?).getLast? with
  | none => exact h
  | some c => rfl

/-- Lines with higher numbers produce the same with higher numbers. -/
theorem run_mapLine (h : SameUpToLine last last') (n k : Nat) (lines : List Bytes) :
    run cap last' (n + k) lines =
      (run cap last n lines).map (List.map (Outcome.mapLine fun l => l + k)) := by
  induction lines generalizing last last' n with
  | nil => rfl
  | cons line lines ih =>
    have hline : produce cap last' (n + k) line =
        (produce cap last n line).map (Outcome.mapLine fun l => l + k) :=
      produce_mapLine h (by omega) line
    have hlatest := h.latest_mapLine (fun l => l + k) (produce cap last n line)
    have hnext : n + k + 1 = n + 1 + k := by omega
    rw [run, run, List.map_cons, hline, hnext, ih hlatest]

theorem latest_append (last : Option Command) (before after : List Outcome) :
    latest last (before ++ after) = latest (latest last before) after := by
  rw [latest, latest, latest, List.filterMap_append, List.getLast?_append, Option.or_assoc]

/-- Lines behind other lines go on from the command that these produced last. -/
theorem run_append (cap : Int) (last : Option Command) (n : Nat) (before after : List Bytes) :
    run cap last n (before ++ after) =
      run cap last n before ++
        run cap (latest last (run cap last n before).flatten) (n + before.length) after := by
  induction before generalizing last n with
  | nil => rfl
  | cons line before ih =>
    have hnumber : n + 1 + before.length = n + (line :: before).length := by
      rw [List.length_cons]
      omega
    rw [List.cons_append, run, run, List.cons_append, ih, List.flatten_cons, latest_append, hnumber]

/-- If lines that start with no command to repeat never miss one, then the command that stands
before them makes no difference. -/
theorem run_eq_run_none (last : Option Command) (n : Nat) (lines : List Bytes)
    (h : ∀ e ∈ (Result.ofOutcomes (run cap none n lines).flatten).errors,
      e.cause ≠ .nothingToRepeat) :
    run cap last n lines = run cap none n lines := by
  -- The two runs differ in the command before them until a line gives one, and no longer.
  induction lines generalizing n with
  | nil => rfl
  | cons line lines ih =>
    rw [run, List.flatten_cons, Result.errors_ofOutcomes_append] at h
    rw [run, run]
    simp only [← Reading.outcomes_ofLine] at h ⊢
    cases hreading : Reading.ofLine line with
    | nothing =>
      rw [hreading] at h
      exact congrArg _ (ih (n + 1) fun e he => h e (List.mem_append_right _ he))
    | command kind args => rfl
    | rejected token cause =>
      rw [hreading] at h
      exact congrArg _ (ih (n + 1) fun e he => h e (List.mem_append_right _ he))
    | again token count =>
      rw [hreading] at h
      have hmissed := h ⟨n, token, .nothingToRepeat⟩ (by simp [Reading.outcomes])
      exact absurd rfl hmissed

/-- A result of lines behind other lines, if the later lines do not look at the earlier ones. -/
theorem result_append {before after : List Bytes}
    (h : (result cap before).commands = [] ∨
      ∀ e ∈ (result cap after).errors, e.cause ≠ .nothingToRepeat) :
    (result cap (before ++ after)).commands = (result cap before).commands ++
        (result cap after).commands.map (Command.mapLine fun l => l + before.length) ∧
      (result cap (before ++ after)).errors = (result cap before).errors ++
        (result cap after).errors.map (Diagnostic.mapLine fun l => l + before.length) := by
  set left := latest none (run cap none 1 before).flatten with hleft
  have hindependent : run cap left 1 after = run cap none 1 after := by
    rcases h with h | h
    · have hnone : left = none := by
        have hcommands : (run cap none 1 before).flatten.filterMap Outcome.command? = [] := h
        rw [hleft, latest, hcommands]
        rfl
      rw [hnone]
    · exact run_eq_run_none left 1 after h
  have hrun : run cap none 1 (before ++ after) = run cap none 1 before ++
      (run cap none 1 after).map (List.map (Outcome.mapLine fun l => l + before.length)) := by
    rw [run_append, ← hleft, run_mapLine (rfl : SameUpToLine left left), hindependent]
  rw [result, hrun, List.flatten_append, ← List.map_flatten]
  constructor
  · rw [Result.commands_ofOutcomes_append]
    exact congrArg _ (Outcome.filterMap_command?_mapLine _ _)
  · rw [Result.errors_ofOutcomes_append]
    exact congrArg _ (Outcome.filterMap_diagnostic?_mapLine _ _)

end LineByLine

section Lines

open Bytes (lineFeed carriageReturn)

theorem splitLines_carriageReturn_cons {text : Bytes} (h : text.head? = some lineFeed) :
    splitLines (carriageReturn :: text) = splitLines text := by
  rw [splitLines, unifyLineEnds, if_pos ⟨rfl, h⟩]
  rfl

/-- The lines of two texts with a line feed between them are those of the one and of the other,
unless the first text leaves a carriage return in front of the line feed. -/
theorem splitLines_append_lineFeed {a : Bytes} (h : a.getLast? ≠ some carriageReturn) (b : Bytes) :
    splitLines (a ++ lineFeed :: b) = splitLines a ++ splitLines b := by
  induction a with
  | nil => exact splitLines_lineFeed_cons b
  | cons c a ih =>
    have hrest : splitLines (a ++ lineFeed :: b) = splitLines a ++ splitLines b := by
      apply ih
      intro hlast
      have hne : a ≠ [] := by
        rintro rfl
        simp at hlast
      exact h (by rw [List.getLast?_cons_of_ne_nil hne, hlast])
    rw [List.cons_append]
    by_cases hfeed : c = lineFeed
    · subst hfeed
      rw [splitLines_lineFeed_cons, splitLines_lineFeed_cons, hrest, List.cons_append]
    by_cases hreturn : c = carriageReturn ∧ a.head? = some lineFeed
    · obtain ⟨rfl, hhead⟩ := hreturn
      have hhead' : (a ++ lineFeed :: b).head? = some lineFeed := by
        rw [List.head?_append, hhead, Option.some_or]
      rw [splitLines_carriageReturn_cons hhead', splitLines_carriageReturn_cons hhead, hrest]
    · have hreturn' : ¬(c = carriageReturn ∧ (a ++ lineFeed :: b).head? = some lineFeed) := by
        rintro ⟨rfl, hhead⟩
        cases a with
        | nil => exact h rfl
        | cons d a => exact hreturn ⟨rfl, hhead⟩
      obtain ⟨line, lines, hlines⟩ := List.exists_cons_of_ne_nil (splitLines_ne_nil a)
      rw [hlines, List.cons_append] at hrest
      rw [splitLines_cons hfeed hreturn hlines, splitLines_cons hfeed hreturn' hrest,
        List.cons_append]

end Lines

/-- The result of two scripts with a line feed between them, if the first does not end in a carriage
return and gives no command or the second asks for none before its own first. The commands and the
diagnostics of the second script follow those of the first, moved by the lines of the first. -/
theorem parse_append_lineFeed {a b : Bytes} (hreturn : a.getLast? ≠ some Bytes.carriageReturn)
    (h : (parse a).commands = [] ∨
      ∀ e ∈ (parse b).errors, e.cause.errorClass ≠ .invalidPriorState) :
    (parse (a ++ "\n" ++ b)).commands = (parse a).commands ++
        (parse b).commands.map (Command.mapLine fun l => l + (splitLines a).length) ∧
      (parse (a ++ "\n" ++ b)).errors = (parse a).errors ++
        (parse b).errors.map (Diagnostic.mapLine fun l => l + (splitLines a).length) := by
  have htext : a ++ "\n" ++ b = a ++ Bytes.lineFeed :: b := by
    rw [List.append_assoc]
    rfl
  rw [htext]
  simp only [parse_eq_ofOutcomes, splitLines_append_lineFeed hreturn] at h ⊢
  apply LineByLine.result_append
  rcases h with h | h
  · exact .inl h
  · refine .inr fun e he hcause => h e he ?_
    rw [hcause]
    rfl

/-- A repetition behind its own command in the second script, and a repetition that finds no command
in the first script either. -/
theorem parse_append_lineFeed_repetitions :
    let own := parse (("TAB\nREPEAT 2\n" : Bytes) ++ "\n" ++ "DELAY\r\nenter\nRepeat 1")
    let missed := parse (("REM\nfoo" : Bytes) ++ "\n" ++ "REPEAT 3\nUP")
    own.commands = [⟨.key .tab, [], 1⟩, ⟨.key .tab, [], 2⟩, ⟨.key .tab, [], 2⟩,
        ⟨.key .enter, [], 5⟩, ⟨.key .enter, [], 6⟩] ∧
      own.errors = [⟨4, "DELAY", .delayNumber⟩] ∧
      missed.commands = [⟨.key .up, [], 4⟩] ∧
      missed.errors = [⟨2, "foo", .unknownCommand⟩, ⟨3, "REPEAT", .nothingToRepeat⟩] := by
  intro own missed
  have hown := parse_append_lineFeed (a := "TAB\nREPEAT 2\n") (b := "DELAY\r\nenter\nRepeat 1")
    (by decide) (.inr (by rw [parse_eq_ofOutcomes]; decide))
  have hmissed := parse_append_lineFeed (a := "REM\nfoo") (b := "REPEAT 3\nUP")
    (by decide) (.inl (by rw [parse_eq_ofOutcomes]; decide))
  refine ⟨hown.1.trans ?_, hown.2.trans ?_, hmissed.1.trans ?_, hmissed.2.trans ?_⟩
  all_goals
    simp only [parse_eq_ofOutcomes]
    decide

end KeyScript
