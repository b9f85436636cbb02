import KeyScript.Proofs.Script.Origin
import KeyScript.Proofs.Script.Readings

/-!
# A result line by line

The commands and the diagnostics of a text come from its lines one after the other, and each carries
the number of the line it comes from. So a result falls into one piece for each line, the pieces are
found again by the line numbers, and put together in the order of the lines they are the whole
result.

## Main definitions

- `Separates` — tests that tell the pieces of a list apart
- `LineByLine.commandsOf`, `LineByLine.errorsOf` — the pieces of a result

## Main results

- `Separates.filter_flatten` — what passes a test is the piece at its place
- `Separates.flatMap_filter_range` — what passes the tests, put together
- `exists_filter_line_eq` — what a text has on one of its lines
- `mem_commands_of_command`, `isReadFrom_of_mem_commands` — the commands on a line and what it says
-/

namespace KeyScript

section Pieces

variable {α : Type} {p : Nat → α → Bool} {piece : List α} {pieces : List (List α)}

/-- Of the tests for all places, only the one for its own place holds of what is in a piece. -/
def Separates (p : Nat → α → Bool) (pieces : List (List α)) : Prop :=
  ∀ i piece, pieces[i]? = some piece → ∀ a ∈ piece, ∀ j, p j a = decide (i = j)

theorem Separates.tail (h : Separates p (piece :: pieces)) :
    Separates (fun i => p (i + 1)) pieces := by
  intro i found hfound a ha j
  have := h (i + 1) found (by simpa using hfound) a ha (j + 1)
  simpa using this

/-- What passes the test for a place is the piece at this place. -/
theorem Separates.filter_flatten (h : Separates p pieces) (i : Nat) :
    pieces.flatten.filter (p i) = pieces[i]?.getD [] := by
  induction pieces generalizing p i with
  | nil => simp
  | cons piece pieces ih =>
    have hpiece := h 0 piece rfl
    rw [List.flatten_cons, List.filter_append]
    cases i with
    | zero =>
      have hkept : piece.filter (p 0) = piece :=
        List.filter_eq_self.mpr fun a ha => by simp [hpiece a ha 0]
      have hlater : pieces.flatten.filter (p 0) = [] := by
        rw [List.filter_eq_nil_iff]
        intro a ha
        obtain ⟨found, hfound, ha⟩ := List.mem_flatten.mp ha
        obtain ⟨k, hk⟩ := List.mem_iff_getElem?.mp hfound
        simp [h (k + 1) found (by simpa using hk) a ha 0]
      rw [hkept, hlater]
      simp
    | succ i =>
      have hdropped : piece.filter (p (i + 1)) = [] :=
        List.filter_eq_nil_iff.mpr fun a ha => by simp [hpiece a ha (i + 1)]
      rw [hdropped, ih h.tail i]
      simp

theorem flatMap_range_getElem? (pieces : List (List α)) :
    (List.range pieces.length).flatMap (fun i => pieces[i]?.getD []) = pieces.flatten := by
  rw [List.flatMap]
  congr 1
  apply List.ext_getElem
  · simp
  · intro i h _
    have hi : i < pieces.length := by simpa using h
    simp [List.getElem?_eq_getElem hi]

/-- What passes the tests, put together in the order of the tests, is the whole list. -/
theorem Separates.flatMap_filter_range (h : Separates p pieces) :
    (List.range pieces.length).flatMap (fun i => pieces.flatten.filter (p i)) = pieces.flatten := by
  simp only [h.filter_flatten, flatMap_range_getElem?]

end Pieces

namespace LineByLine

theorem length_run (cap : Int) (last : Option Command) (n : Nat) (lines : List Bytes) :
    (run cap last n lines).length = lines.length := by
  induction lines generalizing last n with
  | nil => rfl
  | cons line lines ih => rw [run, List.length_cons, List.length_cons, ih]

/-- What a line produces in a run is what it produces behind some command. -/
theorem exists_getElem?_run (cap : Int) (last : Option Command) (n : Nat) (lines : List Bytes)
    (i : Nat) :
    ∃ last', (run cap last n lines)[i]? = lines[i]?.map (produce cap last' (n + i)) := by
  induction lines generalizing last n i with
  | nil => exact ⟨last, rfl⟩
  | cons line lines ih =>
    cases i with
    | zero => exact ⟨last, rfl⟩
    | succ i =>
      obtain ⟨last', hlast⟩ := ih (latest last (produce cap last n line)) (n + 1) i
      have hnumber : n + 1 + i = n + (i + 1) := by omega
      refine ⟨last', ?_⟩
      rw [run, List.getElem?_cons_succ, List.getElem?_cons_succ, hlast, hnumber]

variable {cap : Int} {lines : List Bytes} {i : Nat} {outcomes : List Outcome}

theorem exists_produced (h : (run cap none 1 lines)[i]? = some outcomes) :
    ∃ line, Produced (i + 1) line outcomes := by
  obtain ⟨last, hrun⟩ := exists_getElem?_run cap none 1 lines i
  rw [h, Nat.add_comm] at hrun
  obtain ⟨line, -, hline⟩ := Option.map_eq_some_iff.mp hrun.symm
  exact ⟨line, hline ▸ produced_produce cap last (i + 1) line⟩

/-- The commands that the lines of a script produce, line by line. -/
def commandsOf (cap : Int) (lines : List Bytes) : List (List Command) :=
  (run cap none 1 lines).map fun outcomes => (Result.ofOutcomes outcomes).commands

/-- The diagnostics that the lines of a script produce, line by line. -/
def errorsOf (cap : Int) (lines : List Bytes) : List (List Diagnostic) :=
  (run cap none 1 lines).map fun outcomes => (Result.ofOutcomes outcomes).errors

theorem flatten_commandsOf (cap : Int) (lines : List Bytes) :
    (commandsOf cap lines).flatten = (result cap lines).commands :=
  List.filterMap_flatten.symm

theorem flatten_errorsOf (cap : Int) (lines : List Bytes) :
    (errorsOf cap lines).flatten = (result cap lines).errors :=
  List.filterMap_flatten.symm

/-- The number of a line tells its index. -/
theorem beq_succ_eq_decide {l : Int} (h : l = (i + 1 : Nat)) (j : Nat) :
    (l == (j + 1 : Int)) = decide (i = j) := by
  rw [Bool.eq_iff_iff, beq_iff_eq, decide_eq_true_eq]
  omega

theorem separates_commandsOf (cap : Int) (lines : List Bytes) :
    Separates (fun i (c : Command) => c.line == (i + 1 : Int)) (commandsOf cap lines) := by
  intro i commands hcommands c hc j
  rw [commandsOf, List.getElem?_map] at hcommands
  obtain ⟨outcomes, houtcomes, rfl⟩ := Option.map_eq_some_iff.mp hcommands
  obtain ⟨line, hproduced⟩ := exists_produced houtcomes
  exact beq_succ_eq_decide (hproduced.command_line hc) j

theorem separates_errorsOf (cap : Int) (lines : List Bytes) :
    Separates (fun i (e : Diagnostic) => e.line == (i + 1 : Int)) (errorsOf cap lines) := by
  intro i errors herrors e he j
  rw [errorsOf, List.getElem?_map] at herrors
  obtain ⟨outcomes, houtcomes, rfl⟩ := Option.map_eq_some_iff.mp herrors
  obtain ⟨line, hproduced⟩ := exists_produced houtcomes
  exact beq_succ_eq_decide (hproduced.error_line he) j

end LineByLine

/-- What a text has on one of its lines is what the line produces behind some command. -/
theorem exists_filter_line_eq (text : Bytes) (cap : Int) {i : Nat} {line : Bytes}
    (hline : (splitLines text)[i]? = some line) :
    ∃ last,
      (parseMaxRepeat text cap).commands.filter (fun c => c.line == (i + 1 : Int)) =
          (Result.ofOutcomes (LineByLine.produce cap last (i + 1) line)).commands ∧
        (parseMaxRepeat text cap).errors.filter (fun e => e.line == (i + 1 : Int)) =
          (Result.ofOutcomes (LineByLine.produce cap last (i + 1) line)).errors := by
  obtain ⟨last, hrun⟩ := LineByLine.exists_getElem?_run cap none 1 (splitLines text) i
  rw [hline, Option.map_some, Nat.add_comm 1 i] at hrun
  -- Commands and diagnostics are both told apart by their line numbers.
  have hcommands := (LineByLine.separates_commandsOf cap (splitLines text)).filter_flatten i
  have herrors := (LineByLine.separates_errorsOf cap (splitLines text)).filter_flatten i
  rw [LineByLine.flatten_commandsOf, LineByLine.commandsOf, List.getElem?_map, hrun] at hcommands
  rw [LineByLine.flatten_errorsOf, LineByLine.errorsOf, List.getElem?_map, hrun] at herrors
  rw [parseMaxRepeat_eq_result]
  exact ⟨last, hcommands, herrors⟩

/-- The commands on the lines of a text, put together in the order of the lines, are all its
commands. -/
theorem flatMap_filter_line_commands (text : Bytes) (cap : Int) :
    (List.range (splitLines text).length).flatMap (fun i : Nat =>
        (parseMaxRepeat text cap).commands.filter fun c => c.line == (i + 1 : Int)) =
      (parseMaxRepeat text cap).commands := by
  have hpieces := (LineByLine.separates_commandsOf cap (splitLines text)).flatMap_filter_range
  have hlength : (LineByLine.commandsOf cap (splitLines text)).length =
      (splitLines text).length := by
    rw [LineByLine.commandsOf, List.length_map, LineByLine.length_run]
  rw [hlength, LineByLine.flatten_commandsOf, ← parseMaxRepeat_eq_result] at hpieces
  exact hpieces

section OnLine

variable {text line : Bytes} {i : Nat}

/-- A result has nothing on a line exactly if the line says nothing. -/
theorem ofLine_eq_nothing_iff_counts (hline : (splitLines text)[i]? = some line) :
    Reading.ofLine line = .nothing ↔
      (parse text).commandCount (i + 1) = 0 ∧ (parse text).errorCount (i + 1) = 0 := by
  have haccounts := accounts_parseMaxRepeat text 0
  rw [← LineByLine.isSilent_iff, haccounts.silent_iff i line hline, Int.add_comm]
  rfl

/-- What a result has on a line comes from what the line says. -/
theorem exists_filter_line_ofLine (hline : (splitLines text)[i]? = some line) :
    ∃ last,
      (parse text).commands.filter (fun c => c.line == (i + 1 : Int)) =
          (Result.ofOutcomes ((Reading.ofLine line).outcomes 0 last (i + 1))).commands ∧
        (parse text).errors.filter (fun e => e.line == (i + 1 : Int)) =
          (Result.ofOutcomes ((Reading.ofLine line).outcomes 0 last (i + 1))).errors := by
  simp only [Reading.outcomes_ofLine]
  exact exists_filter_line_eq text 0 hline

theorem errorCount_eq_length (r : Result) (l : Int) :
    r.errorCount l = (r.errors.filter fun e => e.line == l).length :=
  List.countP_eq_length_filter

theorem errorCount_ne_zero_of_rejected (hline : (splitLines text)[i]? = some line) {token : Bytes}
    {cause : Cause} (h : Reading.ofLine line = .rejected token cause) :
    (parse text).errorCount (i + 1) ≠ 0 := by
  obtain ⟨last, -, herrors⟩ := exists_filter_line_ofLine hline
  rw [errorCount_eq_length, herrors, h]
  simp [Reading.outcomes]

/-- A line that says a command gives this command and no diagnostic. -/
theorem mem_commands_of_command (hline : (splitLines text)[i]? = some line) {kind : Kind}
    {args : List Bytes} (h : Reading.ofLine line = .command kind args) :
    ⟨kind, args, i + 1⟩ ∈ (parse text).commands ∧ (parse text).errorCount (i + 1) = 0 := by
  obtain ⟨last, hcommands, herrors⟩ := exists_filter_line_ofLine hline
  rw [h] at hcommands herrors
  constructor
  · have hmem : (⟨kind, args, i + 1⟩ : Command) ∈
        (parse text).commands.filter fun c => c.line == (i + 1 : Int) := by
      rw [hcommands]
      exact List.mem_singleton.mpr rfl
    exact (List.mem_filter.mp hmem).1
  · rw [errorCount_eq_length, herrors]
    rfl

/-- A command on a line is what the line says, unless the line is a repetition. -/
theorem isReadFrom_of_mem_commands (hline : (splitLines text)[i]? = some line)
    (hrepetition : ¬LineByLine.IsRepetition line) {c : Command} (hc : c ∈ (parse text).commands)
    (hnumber : c.line = i + 1) : c.IsReadFrom line := by
  obtain ⟨last, hcommands, -⟩ := exists_filter_line_ofLine hline
  have hmem : c ∈ (parse text).commands.filter fun c => c.line == (i + 1 : Int) :=
    List.mem_filter.mpr ⟨hc, by simp [hnumber]⟩
  rw [hcommands] at hmem
  cases hreading : Reading.ofLine line with
  | nothing | rejected =>
    rw [hreading] at hmem
    cases hmem
  | again token count => exact absurd (Reading.isRepetition_of_again hreading) hrepetition
  | command kind args =>
    rw [hreading] at hmem
    cases List.mem_singleton.mp hmem
    exact hreading

end OnLine

end KeyScript
