import Mathlib.Tactic.Common
import KeyScript.Proofs.Script.Parsing

/-!
# Every line is accounted for

A line that has no words, or is a comment, leaves no trace in a result. Any other line leaves one
diagnostic, or one or more commands, and never both. Nothing else is in the result, and it is in the
order of the lines.

## Main definitions

- `LineByLine.IsSilent` — lines that leave no trace
- `LineByLine.Produced` — the ways in which a line can be answered
- `Fate` — what becomes of a line in a result
- `Result.Accounts` — a result has one fate for each line and nothing besides

## Main results

- `LineByLine.produced_produce` — every line is answered in one of these ways
- `Result.Accounts.cons` — one more line in front
- `parse_accounts` — the result of a text accounts for its lines
-/

namespace KeyScript

namespace LineByLine

/-- A line leaves no trace if it has no words or is a comment. -/
def IsSilent (line : Bytes) : Prop :=
  words line = [] ∨ ∃ first ∈ (words line).head?, first.startsWith "REM" = true

/-- The ways in which line number `n` can be answered. -/
inductive Produced (n : Nat) (line : Bytes) : List Outcome → Prop where
  | nothing (h : IsSilent line) : Produced n line []
  | error (h : ¬IsSilent line) (e : Diagnostic) (he : e.line = n) : Produced n line [.rejected e]
  | commands (h : ¬IsSilent line) (c : Command) (hc : c.line = n) (k : Nat) :
      Produced n line (List.replicate (k + 1) (.command c))

/-- A repetition makes at least one copy, whatever the cap. -/
theorem exists_copies_eq_succ (cap : Int) {v : Int} (hv : 0 < v) : ∃ k, copies cap v = k + 1 := by
  have hpos : 0 < copies cap v := by
    rw [copies]
    split <;> omega
  exact ⟨copies cap v - 1, by omega⟩

theorem produced_produce (cap : Int) (last : Option Command) (n : Nat) (line : Bytes) :
    Produced n line (produce cap last n line) := by
  cases hwords : words line with
  | nil =>
    rw [produce, hwords]
    exact .nothing (.inl hwords)
  | cons first others =>
    by_cases hrem : first.startsWith "REM" = true
    · have hsilent : IsSilent line := .inr ⟨first, by simp [hwords], hrem⟩
      simpa only [produce, hwords, if_pos hrem] using .nothing hsilent
    have hloud : ¬IsSilent line := by
      rintro (h | ⟨word, hword, h⟩)
      · simp [hwords] at h
      · rw [hwords, List.head?_cons, Option.mem_some_iff] at hword
        exact hrem (hword ▸ h)
    have hone : ∀ c : Command, c.line = n → Produced n line [.command c] :=
      fun c hc => .commands hloud c hc 0
    simp only [produce, hwords, if_neg hrem]
    -- One goal for each way through the vocabulary; only a repetition needs its count.
    split
    · exact hone _ rfl
    split
    · split
      · exact hone _ rfl
      · exact .error hloud _ rfl
    split
    · split
      · exact .error hloud _ rfl
      next v _ =>
      split
      · exact .error hloud _ rfl
      next hv =>
      split
      · exact .error hloud _ rfl
      obtain ⟨k, hk⟩ := exists_copies_eq_succ cap (Int.not_le.mp hv)
      rw [hk]
      exact .commands hloud _ rfl k
    split
    · exact hone _ rfl
    split
    · exact hone _ rfl
    split
    · exact hone _ rfl
    split
    · exact hone _ rfl
    · exact .error hloud _ rfl

end LineByLine

/-- What becomes of a line in a result. -/
inductive Fate where
  | skipped
  | rejected
  | kept
deriving DecidableEq, Repr

/-- A line has a fate, given how many commands and diagnostics have its number. -/
def Fate.Holds (line : Bytes) (commands errors : Nat) : Fate → Prop
  | skipped => LineByLine.IsSilent line ∧ commands = 0 ∧ errors = 0
  | rejected => errors = 1 ∧ commands = 0
  | kept => errors = 0 ∧ 0 < commands

namespace Result

/-- The number of commands on a line. -/
def commandCount (r : Result) (line : Int) : Nat := r.commands.countP fun c => c.line = line

/-- The number of diagnostics on a line. -/
def errorCount (r : Result) (line : Int) : Nat := r.errors.countP fun e => e.line = line

/-- A result accounts for lines numbered from `n` on: each of them has exactly one fate, the silent
ones and no others leave no trace, there is nothing on other lines, commands come in the order of
their lines, and diagnostics do too, with no line twice. -/
structure Accounts (r : Result) (n : Nat) (lines : List Bytes) : Prop where
  fate : ∀ (i : Nat) line, lines[i]? = some line →
    ∃! fate : Fate, fate.Holds line (r.commandCount (n + i)) (r.errorCount (n + i))
  silent_iff : ∀ (i : Nat) line, lines[i]? = some line →
    (LineByLine.IsSilent line ↔ r.commandCount (n + i) = 0 ∧ r.errorCount (n + i) = 0)
  command_line : ∀ c ∈ r.commands, n ≤ c.line ∧ c.line < n + lines.length
  error_line : ∀ e ∈ r.errors, n ≤ e.line ∧ e.line < n + lines.length
  commands_sorted : r.commands.Pairwise fun c d => c.line ≤ d.line
  errors_sorted : r.errors.Pairwise fun e f => e.line < f.line

@[simp]
theorem ofOutcomes_rejected (e : Diagnostic) : ofOutcomes [.rejected e] = { errors := [e] } := rfl

@[simp]
theorem ofOutcomes_replicate_command (k : Nat) (c : Command) :
    ofOutcomes (List.replicate k (.command c)) = { commands := List.replicate k c } := by
  rw [ofOutcomes, List.filterMap_replicate, List.filterMap_replicate]
  rfl

end Result

namespace LineByLine.Produced

variable {n : Nat} {line : Bytes} {outcomes : List Outcome}

theorem command_line (h : Produced n line outcomes) {c : Command}
    (hc : c ∈ (Result.ofOutcomes outcomes).commands) : c.line = n := by
  cases h with
  | nothing => cases hc
  | error => cases hc
  | commands _ d hd k =>
    rw [Result.ofOutcomes_replicate_command] at hc
    rw [List.eq_of_mem_replicate hc, hd]

theorem error_line (h : Produced n line outcomes) {e : Diagnostic}
    (he : e ∈ (Result.ofOutcomes outcomes).errors) : e.line = n := by
  cases h with
  | nothing => cases he
  | error _ f hf =>
    rw [Result.ofOutcomes_rejected, List.mem_singleton] at he
    rw [he, hf]
  | commands => simp at he

/-- There is at most one diagnostic on a line. -/
theorem errors_sorted (h : Produced n line outcomes) :
    (Result.ofOutcomes outcomes).errors.Pairwise fun e f => e.line < f.line := by
  cases h with
  | nothing => exact .nil
  | error => simp
  | commands => simp

/-- A line has a fate by what it produced, and by the counts no other. -/
theorem fate (h : Produced n line outcomes) :
    ∃! fate : Fate, fate.Holds line ((Result.ofOutcomes outcomes).commandCount n)
      ((Result.ofOutcomes outcomes).errorCount n) := by
  refine existsUnique_of_exists_of_unique ?_ ?_
  · cases h with
    | nothing hsilent => exact ⟨.skipped, hsilent, rfl, rfl⟩
    | error _ e he => exact ⟨.rejected, by simp [Result.errorCount, he], rfl⟩
    | commands _ c hc k =>
      exact ⟨.kept, by simp [Result.errorCount], by simp [Result.commandCount, hc]⟩
  · intro f g hf hg
    cases f <;> cases g <;> simp only [Fate.Holds] at hf hg <;> grind

theorem silent_iff (h : Produced n line outcomes) :
    IsSilent line ↔ (Result.ofOutcomes outcomes).commandCount n = 0 ∧
      (Result.ofOutcomes outcomes).errorCount n = 0 := by
  cases h with
  | nothing hsilent => exact iff_of_true hsilent ⟨rfl, rfl⟩
  | error hloud e he => simp [hloud, Result.errorCount, he]
  | commands hloud c hc k => simp [hloud, Result.commandCount, hc]

end LineByLine.Produced

namespace Result

variable {n : Nat} {line : Bytes} {lines : List Bytes} {outcomes rest : List Outcome}

theorem commands_ofOutcomes_append : (ofOutcomes (outcomes ++ rest)).commands =
    (ofOutcomes outcomes).commands ++ (ofOutcomes rest).commands :=
  List.filterMap_append

theorem errors_ofOutcomes_append : (ofOutcomes (outcomes ++ rest)).errors =
    (ofOutcomes outcomes).errors ++ (ofOutcomes rest).errors :=
  List.filterMap_append

theorem commandCount_append (l : Int) : (ofOutcomes (outcomes ++ rest)).commandCount l =
    (ofOutcomes outcomes).commandCount l + (ofOutcomes rest).commandCount l := by
  rw [commandCount, commands_ofOutcomes_append, List.countP_append]
  rfl

theorem errorCount_append (l : Int) : (ofOutcomes (outcomes ++ rest)).errorCount l =
    (ofOutcomes outcomes).errorCount l + (ofOutcomes rest).errorCount l := by
  rw [errorCount, errors_ofOutcomes_append, List.countP_append]
  rfl

theorem commandCount_eq_zero {r : Result} {l : Int} (h : ∀ c ∈ r.commands, c.line ≠ l) :
    r.commandCount l = 0 :=
  List.countP_eq_zero.mpr fun c hc => by simpa using h c hc

theorem errorCount_eq_zero {r : Result} {l : Int} (h : ∀ e ∈ r.errors, e.line ≠ l) :
    r.errorCount l = 0 :=
  List.countP_eq_zero.mpr fun e he => by simpa using h e he

theorem accounts_nil (n : Nat) : (ofOutcomes []).Accounts n [] := by
  constructor <;> simp [ofOutcomes]

/-- The counts on the first line are those of its own outcomes. -/
theorem counts_first (outcomes : List Outcome)
    (h : (ofOutcomes rest).Accounts (n + 1) lines) :
    (ofOutcomes (outcomes ++ rest)).commandCount n = (ofOutcomes outcomes).commandCount n ∧
      (ofOutcomes (outcomes ++ rest)).errorCount n = (ofOutcomes outcomes).errorCount n := by
  constructor
  · rw [commandCount_append, Nat.add_eq_left]
    refine commandCount_eq_zero fun c hc => ?_
    have := h.command_line c hc
    omega
  · rw [errorCount_append, Nat.add_eq_left]
    refine errorCount_eq_zero fun e he => ?_
    have := h.error_line e he
    omega

/-- The counts on a later line are those of the later outcomes. -/
theorem counts_later (h : LineByLine.Produced n line outcomes) (rest : List Outcome) {l : Int}
    (hl : l ≠ n) :
    (ofOutcomes (outcomes ++ rest)).commandCount l = (ofOutcomes rest).commandCount l ∧
      (ofOutcomes (outcomes ++ rest)).errorCount l = (ofOutcomes rest).errorCount l := by
  constructor
  · rw [commandCount_append, Nat.add_eq_right]
    exact commandCount_eq_zero fun c hc => h.command_line hc ▸ hl.symm
  · rw [errorCount_append, Nat.add_eq_right]
    exact errorCount_eq_zero fun e he => h.error_line he ▸ hl.symm

/-- What the counts say about each line carries over when a line is put in front. -/
theorem counts_cons {P : Bytes → Nat → Nat → Prop} (hline : LineByLine.Produced n line outcomes)
    (h : (ofOutcomes rest).Accounts (n + 1) lines)
    (hfirst : P line ((ofOutcomes outcomes).commandCount n) ((ofOutcomes outcomes).errorCount n))
    (hlater : ∀ (i : Nat) line', lines[i]? = some line' →
      P line' ((ofOutcomes rest).commandCount ((n + 1 : Nat) + i))
        ((ofOutcomes rest).errorCount ((n + 1 : Nat) + i)))
    (i : Nat) (line' : Bytes) (hi : (line :: lines)[i]? = some line') :
    P line' ((ofOutcomes (outcomes ++ rest)).commandCount (n + i))
      ((ofOutcomes (outcomes ++ rest)).errorCount (n + i)) := by
  cases i with
  | zero =>
    obtain ⟨hcommands, herrors⟩ := counts_first outcomes h
    obtain rfl : line = line' := by simpa using hi
    simpa only [Int.natCast_zero, Int.add_zero, hcommands, herrors] using hfirst
  | succ i =>
    have hnumber : (n + (i + 1 : Nat) : Int) = (n + 1 : Nat) + i := by omega
    have hne : ((n + 1 : Nat) + i : Int) ≠ n := by omega
    obtain ⟨hcommands, herrors⟩ := counts_later hline rest hne
    rw [hnumber, hcommands, herrors]
    exact hlater i line' (by simpa using hi)

/-- One more line in front of lines that are accounted for. -/
theorem Accounts.cons (hline : LineByLine.Produced n line outcomes)
    (h : (ofOutcomes rest).Accounts (n + 1) lines) :
    (ofOutcomes (outcomes ++ rest)).Accounts n (line :: lines) where
  fate := counts_cons (P := fun line k m => ∃! fate : Fate, fate.Holds line k m) hline h
    hline.fate h.fate
  silent_iff := counts_cons (P := fun line k m => LineByLine.IsSilent line ↔ k = 0 ∧ m = 0) hline h
    hline.silent_iff h.silent_iff
  command_line c hc := by
    rw [commands_ofOutcomes_append, List.mem_append] at hc
    rw [List.length_cons]
    rcases hc with hc | hc
    · have := hline.command_line hc
      omega
    · have := h.command_line c hc
      omega
  error_line e he := by
    rw [errors_ofOutcomes_append, List.mem_append] at he
    rw [List.length_cons]
    rcases he with he | he
    · have := hline.error_line he
      omega
    · have := h.error_line e he
      omega
  commands_sorted := by
    rw [commands_ofOutcomes_append, List.pairwise_append]
    refine ⟨?_, h.commands_sorted, fun c hc d hd => ?_⟩
    · refine List.pairwise_of_forall_mem_list fun c hc d hd => ?_
      exact Int.le_of_eq ((hline.command_line hc).trans (hline.command_line hd).symm)
    · have := h.command_line d hd
      have := hline.command_line hc
      omega
  errors_sorted := by
    rw [errors_ofOutcomes_append, List.pairwise_append]
    refine ⟨hline.errors_sorted, h.errors_sorted, fun e he f hf => ?_⟩
    have := h.error_line f hf
    have := hline.error_line he
    omega

end Result

/-- Lines taken one by one are accounted for, whatever the cap and the command before them. -/
theorem LineByLine.accounts_run (cap : Int) (last : Option Command) (n : Nat) (lines : List Bytes) :
    (Result.ofOutcomes (run cap last n lines).flatten).Accounts n lines := by
  induction lines generalizing last n with
  | nil => exact Result.accounts_nil n
  | cons line lines ih => exact .cons (produced_produce cap last n line) (ih _ (n + 1))

theorem accounts_parseMaxRepeat (text : Bytes) (cap : Int) :
    (parseMaxRepeat text cap).Accounts 1 (splitLines text) := by
  rw [parseMaxRepeat_eq_result]
  exact LineByLine.accounts_run cap none 1 (splitLines text)

/-- The result of a text accounts for its lines, with any cap on repetitions and with none. -/
theorem parse_accounts (text : Bytes) :
    (parse text).Accounts 1 (splitLines text) ∧
      ∀ n, (parseMaxRepeat text n).Accounts 1 (splitLines text) :=
  ⟨accounts_parseMaxRepeat text 0, accounts_parseMaxRepeat text⟩

end KeyScript
