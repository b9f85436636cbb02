import Mathlib.Data.List.Forall2
import KeyScript.Proofs.Script.Joining
import KeyScript.Proofs.Script.Printing
import KeyScript.Sketch.Basic

/-!
# Deleting lines without effect

Blank lines, comments and rejected lines do not touch the command that a later repetition copies, so
a script can do without them. What is left is read without errors, to the same commands on other
lines, and stands for the same sketch.

## Main definitions

- `LineByLine.effective` — lines without those that leave no command
- `pruned` — a script without them

## Main results

- `LineByLine.run_effective` — the lines that are left give the same commands
- `Sketch.generate_eq_of_same` — line numbers do not reach a sketch
- `parse_pruned` — reading a script that was pruned
-/

namespace KeyScript

theorem Command.forall₂_same_mapLine (f : Int → Int) (commands : List Command) :
    List.Forall₂ (fun c d => same c d = true) (commands.map (mapLine f)) commands := by
  rw [List.forall₂_map_left_iff, List.forall₂_same]
  intro c hc
  simp [same, mapLine]

namespace LineByLine

instance : DecidablePred IsSilent := fun line =>
  decidable_of_iff ((words line).head?.all (fun first => first.startsWith "REM") = true) (by
    rw [IsSilent]
    cases words line <;> simp)

/-- The lines, numbered from `n` on, that have words, are no comments, and have no diagnostic in a
result. -/
def effective (r : Result) (n : Nat) (lines : List Bytes) : List Bytes :=
  ((lines.zipIdx n).filter fun p => ¬IsSilent p.1 ∧ r.errorCount p.2 = 0).map Prod.fst

theorem effective_cons_of_pos {r : Result} {n : Nat} {line : Bytes} (hloud : ¬IsSilent line)
    (hcount : r.errorCount n = 0) (lines : List Bytes) :
    effective r n (line :: lines) = line :: effective r (n + 1) lines := by
  rw [effective, List.zipIdx_cons, List.filter_cons_of_pos (by simp [hloud, hcount])]
  rfl

theorem effective_cons_of_neg {r : Result} {n : Nat} {line : Bytes}
    (h : IsSilent line ∨ r.errorCount n ≠ 0) (lines : List Bytes) :
    effective r n (line :: lines) = effective r (n + 1) lines := by
  have hdropped : ¬(¬IsSilent line ∧ r.errorCount n = 0) := by
    rintro ⟨hloud, hcount⟩
    exact h.elim hloud fun hne => hne hcount
  rw [effective, List.zipIdx_cons, List.filter_cons_of_neg (by simpa using hdropped)]
  rfl

theorem effective_sublist (r : Result) (n : Nat) (lines : List Bytes) :
    (effective r n lines).Sublist lines := by
  induction lines generalizing n with
  | nil => exact List.Sublist.refl []
  | cons line lines ih =>
    by_cases h : IsSilent line ∨ r.errorCount n ≠ 0
    · rw [effective_cons_of_neg h]
      exact (ih (n + 1)).cons line
    · rw [not_or, not_not] at h
      rw [effective_cons_of_pos h.1 h.2]
      exact (ih (n + 1)).cons_cons line

/-- If a result has the diagnostics of a run over lines, then a run over the lines that it leaves
has no diagnostics and gives the same commands. -/
theorem run_effective {cap : Int} {last last' : Option Command} (h : SameUpToLine last last')
    (n n' : Nat) (lines : List Bytes) {r : Result}
    (hr : ∀ l : Int, n ≤ l →
      r.errorCount l = (Result.ofOutcomes (run cap last n lines).flatten).errorCount l) :
    let left := Result.ofOutcomes (run cap last' n' (effective r n lines)).flatten
    left.errors = [] ∧ List.Forall₂ (fun c d => Command.same c d = true) left.commands
      (Result.ofOutcomes (run cap last n lines).flatten).commands := by
  -- The invariant is that both runs would copy the same command next.
  induction lines generalizing last last' n n' with
  | nil => exact ⟨rfl, .nil⟩
  | cons line lines ih =>
    have hproduced := produced_produce cap last n line
    have hline : produce cap last' n' line =
        (produce cap last n line).map (Outcome.mapLine fun _ => n') := produce_mapLine h rfl line
    have hrest := accounts_run cap (latest last (produce cap last n line)) (n + 1) lines
    rw [run, List.flatten_cons] at hr ⊢
    generalize produce cap last n line = outcomes at hproduced hline hrest hr ⊢
    have hcount : r.errorCount n = (Result.ofOutcomes outcomes).errorCount n := by
      rw [hr n (Int.le_refl _), (Result.counts_first outcomes hrest).2]
    have hlater : ∀ l : Int, (n + 1 : Nat) ≤ l → r.errorCount l = (Result.ofOutcomes
        (run cap (latest last outcomes) (n + 1) lines).flatten).errorCount l := by
      intro l hl
      rw [hr l (by omega), (Result.counts_later hproduced _ (by omega)).2]
    rw [Result.commands_ofOutcomes_append]
    cases hproduced with
    | nothing hsilent =>
      rw [effective_cons_of_neg (.inl hsilent)]
      exact ih h (n + 1) n' hlater
    | error hloud e he =>
      have hrejected : r.errorCount n ≠ 0 := by
        rw [hcount]
        simp [Result.errorCount, he]
      rw [effective_cons_of_neg (.inr hrejected)]
      exact ih h (n + 1) n' hlater
    | commands hloud c hc k =>
      have haccepted : r.errorCount n = 0 := by
        rw [hcount]
        simp [Result.errorCount]
      rw [effective_cons_of_pos hloud haccepted, run, List.flatten_cons, hline]
      obtain ⟨herrors, hcommands⟩ := ih (h.latest_mapLine _ _) (n + 1) (n' + 1) hlater
      constructor
      · rw [Result.errors_ofOutcomes_append, herrors, List.append_nil]
        simp [Outcome.mapLine]
      · rw [Result.commands_ofOutcomes_append]
        refine List.rel_append ?_ hcommands
        simp only [Result.ofOutcomes, Outcome.filterMap_command?_mapLine]
        exact Command.forall₂_same_mapLine _ _

end LineByLine

/-- A script without its blank lines, its comments and the lines that it has diagnostics for. -/
def pruned (text : Bytes) : Bytes :=
  Bytes.joinWith "\n" (LineByLine.effective (parse text) 1 (splitLines text))

/-- Lines that are joined to a script are read one by one, also if there are none. -/
theorem parse_joinWith {lines : List Bytes} (hfeed : ∀ line ∈ lines, Bytes.lineFeed ∉ line)
    (hreturn : ∀ line ∈ lines, line.getLast? ≠ some Bytes.carriageReturn) :
    parse (Bytes.joinWith "\n" lines) = LineByLine.result 0 lines := by
  by_cases hne : lines = []
  · subst hne
    rw [parse_eq_ofOutcomes]
    decide
  · rw [parse_eq_ofOutcomes, splitLines_joinWith hne hfeed hreturn]
    rfl

namespace Sketch

theorem code_eq_of_same {c d : Command} (h : c.same d = true) : c.code = d.code := by
  obtain ⟨kind, args, line⟩ := c
  obtain ⟨kind', args', line'⟩ := d
  rw [Command.same, Bool.and_eq_true, beq_iff_eq, beq_iff_eq] at h
  obtain ⟨rfl, rfl⟩ := h
  rfl

/-- Line numbers do not reach a sketch. -/
theorem generate_eq_of_same {commands commands' : List Command}
    (h : List.Forall₂ (fun c d => Command.same c d = true) commands commands') (target : Target) :
    generate commands target = generate commands' target := by
  have hbody : body commands = body commands' := by
    induction h with
    | nil => rfl
    | cons hsame _ ih =>
      rw [body, List.flatMap_cons, code_eq_of_same hsame]
      exact congrArg _ ih
  rw [generate, generate, hbody]

end Sketch

/-- A script none of whose lines ends in a carriage return can be pruned. What is left is read
without errors, to the same commands up to line numbers, and gives the same sketch. -/
theorem parse_pruned {text : Bytes}
    (h : ∀ line ∈ splitLines text, line.getLast? ≠ some Bytes.carriageReturn) :
    (parse (pruned text)).errors = [] ∧
      List.Forall₂ (fun c d => Command.same c d = true) (parse (pruned text)).commands
        (parse text).commands ∧
      ∀ target, Sketch.generate (parse (pruned text)).commands target =
        Sketch.generate (parse text).commands target := by
  have hsublist := LineByLine.effective_sublist (parse text) 1 (splitLines text)
  have hpruned : parse (pruned text) =
      LineByLine.result 0 (LineByLine.effective (parse text) 1 (splitLines text)) := by
    -- A carriage return at the end of a line would be lost to the line feed behind it.
    apply parse_joinWith
    · intro line hline
      exact lineFeed_notMem_of_mem_splitLines (hsublist.subset hline)
    · intro line hline
      exact h line (hsublist.subset hline)
  have hcount : ∀ l : Int, (1 : Nat) ≤ l → (parse text).errorCount l = (Result.ofOutcomes
      (LineByLine.run 0 none 1 (splitLines text)).flatten).errorCount l := by
    intro l _
    rw [← parse_eq_ofOutcomes]
  have hleft := LineByLine.run_effective (rfl : LineByLine.SameUpToLine none none) 1 1 _ hcount
  rw [← parse_eq_ofOutcomes] at hleft
  rw [hpruned]
  exact ⟨hleft.1, hleft.2, Sketch.generate_eq_of_same hleft.2⟩

/-- A script with a stray repetition in front, and with blank, rejected and comment lines between a
command and the repetitions of it. -/
def scatteredScript : Bytes :=
  Bytes.joinWith "\n" ["REPEAT 2", "", "string a ", "REM", "foo", "Repeat 2", " \t", "DELAY x",
    "REPEAT 1", "REPEAT 0", "  delay 5", "REMARK"]

theorem parse_pruned_scattered :
    pruned scatteredScript = "string a \nRepeat 2\nREPEAT 1\n  delay 5" ∧
      (parse scatteredScript).errors.map (·.line) = [1, 5, 8, 10] ∧
      (parse (pruned scatteredScript)).errors = [] ∧
      List.Forall₂ (fun c d => Command.same c d = true)
        (parse (pruned scatteredScript)).commands (parse scatteredScript).commands ∧
      ∀ target, Sketch.generate (parse (pruned scatteredScript)).commands target =
        Sketch.generate (parse scatteredScript).commands target := by
  refine ⟨?_, ?_, parse_pruned (by decide)⟩
  · rw [pruned, parse_eq_ofOutcomes]
    decide +kernel
  · rw [parse_eq_ofOutcomes]
    decide +kernel

end KeyScript
