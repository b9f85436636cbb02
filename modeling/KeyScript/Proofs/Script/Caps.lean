import KeyScript.Proofs.Script.ByLine

/-!
# What a cap on repetitions leaves alone

A cap has a say in the number of copies that a repetition stands for, and in nothing else. So the
diagnostics of a text are the same with any cap and with none, and so is the whole result if no
repetition asks for more copies than the cap allows. In general each line keeps the first of its
commands, as many as the cap allows, which bounds the size of a result by the number of lines.

## Main definitions

- `AcceptsRepeat` — a line of a text is accepted as a repetition

## Main results

- `errors_parseMaxRepeat` — the diagnostics of a text under a cap
- `parseMaxRepeat_eq_parse` — a cap that no repetition reaches
- `filter_line_parseMaxRepeat` — the commands on a line under a cap
- `parseMaxRepeat_truncates` — all that a cap does to a result
-/

namespace KeyScript

namespace LineByLine

theorem SameButCopies.errors_eq {line : Bytes} {outcomes outcomes' : List Outcome}
    (h : SameButCopies line outcomes outcomes') :
    (Result.ofOutcomes outcomes).errors = (Result.ofOutcomes outcomes').errors := by
  rcases h with rfl | ⟨-, c, k, k', rfl, rfl⟩
  · rfl
  · rw [Result.ofOutcomes_replicate_command, Result.ofOutcomes_replicate_command]

/-- Two runs over the same lines have the same diagnostics, whatever their caps, if they start
behind the same command. -/
theorem errors_run_eq {last last' : Option Command} (h : SameUpToLine last last')
    (cap cap' : Int) (n : Nat) (lines : List Bytes) :
    (Result.ofOutcomes (run cap last n lines).flatten).errors =
      (Result.ofOutcomes (run cap' last' n lines).flatten).errors := by
  induction lines generalizing last last' n with
  | nil => rfl
  | cons line lines ih =>
    obtain ⟨hsame, hlatest⟩ := produce_sameButCopies h cap cap' n line
    simp only [run, List.flatten_cons, Result.errors_ofOutcomes_append]
    rw [hsame.errors_eq, ih hlatest]

/-- A cap has no say in a line that asks for no more copies than it allows, if the line asks for
copies of a command. -/
theorem produce_eq_of_le {cap : Int} (hcap : 0 < cap) {last : Option Command} (n : Nat)
    {line : Bytes}
    (h : ∀ c token count, last = some c → Reading.ofLine line = .again token count → count ≤ cap) :
    produce cap last n line = produce 0 last n line := by
  rw [← Reading.outcomes_ofLine, ← Reading.outcomes_ofLine]
  cases hreading : Reading.ofLine line with
  | again token count =>
    cases last with
    | none => rfl
    | some c =>
      have hle := h c token count rfl hreading
      have hcapped : Reading.capped cap count = Reading.capped 0 count := by
        rw [Reading.capped, Reading.capped, if_pos hcap, if_neg (by omega)]
        omega
      rw [Reading.outcomes, Reading.outcomes, hcapped]
  | nothing => rfl
  | command kind args => rfl
  | rejected token cause => rfl

/-- A run in which no line that is accepted asks for more copies than a cap allows is a run without
a cap. -/
theorem run_eq_of_le {cap : Int} (hcap : 0 < cap) (last : Option Command) (n : Nat)
    (lines : List Bytes)
    (h : ∀ (i : Nat) line token (count : Nat), lines[i]? = some line →
      Reading.ofLine line = .again token count →
      (∀ e ∈ (Result.ofOutcomes (run 0 last n lines).flatten).errors, e.line ≠ n + i) →
        count ≤ cap) :
    run cap last n lines = run 0 last n lines := by
  induction lines generalizing last n with
  | nil => rfl
  | cons line lines ih =>
    set later := run 0 (latest last (produce 0 last n line)) (n + 1) lines with hlater
    have haccounts := accounts_run 0 (latest last (produce 0 last n line)) (n + 1) lines
    rw [← hlater] at haccounts
    have herrors : (Result.ofOutcomes (run 0 last n (line :: lines)).flatten).errors =
        (Result.ofOutcomes (produce 0 last n line)).errors ++
          (Result.ofOutcomes later.flatten).errors := by
      rw [run, List.flatten_cons, Result.errors_ofOutcomes_append]
    have hfirst : produce cap last n line = produce 0 last n line := by
      refine produce_eq_of_le hcap n fun c token count hlast hreading => ?_
      refine h 0 line token count rfl hreading fun e he => ?_
      -- The line makes copies, so the diagnostics are those of later lines.
      rw [herrors, ← Reading.outcomes_ofLine, hreading, hlast, Reading.outcomes,
        Result.ofOutcomes_replicate_command, List.nil_append] at he
      have := haccounts.error_line e he
      omega
    rw [run, run, hfirst]
    refine congrArg _ (ih _ (n + 1) fun i line' token count hline hreading hnone => ?_)
    refine h (i + 1) line' token count (by simpa using hline) hreading fun e he => ?_
    rw [herrors, List.mem_append] at he
    rcases he with he | he
    · have := (produced_produce 0 last n line).error_line he
      omega
    · have := hnone e he
      omega

end LineByLine

/-- The line of a text with index `i` is accepted as a repetition that asks for `count` copies. -/
def AcceptsRepeat (text : Bytes) (i count : Nat) : Prop :=
  ∃ line token, (splitLines text)[i]? = some line ∧ Reading.ofLine line = .again token count ∧
    ∀ e ∈ (parse text).errors, e.line ≠ i + 1

/-- A cap that no repetition reaches has no say in the result. -/
theorem parseMaxRepeat_eq_parse {text : Bytes} {cap : Int} (hcap : 0 < cap)
    (h : ∀ i count, AcceptsRepeat text i count → count ≤ cap) :
    parseMaxRepeat text cap = parse text := by
  rw [parseMaxRepeat_eq_result, parse_eq_ofOutcomes, LineByLine.result,
    LineByLine.run_eq_of_le hcap]
  intro i line token count hline hreading hnone
  refine h i count ⟨line, token, hline, hreading, fun e he => ?_⟩
  rw [parse_eq_ofOutcomes] at he
  have := hnone e he
  omega

/-- The diagnostics of a text are the same with any cap on repetitions and with none. -/
theorem errors_parseMaxRepeat (text : Bytes) (n : Int) :
    (parseMaxRepeat text n).errors = (parse text).errors := by
  rw [parse_eq_ofOutcomes, parseMaxRepeat_eq_result]
  exact LineByLine.errors_run_eq rfl n 0 1 (splitLines text)

namespace LineByLine

variable {cap : Int} {last last' : Option Command}

theorem commands_produce_eq_take (h : SameUpToLine last last') (hcap : 0 < cap) (n : Nat)
    (line : Bytes) :
    (Result.ofOutcomes (produce cap last n line)).commands =
      (Result.ofOutcomes (produce 0 last' n line)).commands.take cap.toNat := by
  obtain ⟨k, hk⟩ : ∃ k, cap.toNat = k + 1 := ⟨cap.toNat - 1, by omega⟩
  rw [← Reading.outcomes_ofLine, ← Reading.outcomes_ofLine]
  cases Reading.ofLine line with
  | nothing => exact List.take_nil.symm
  | rejected token cause => simp [Reading.outcomes]
  | command kind args =>
    simp [hk, Reading.outcomes, Result.ofOutcomes, Outcome.command?]
  | again token count =>
    rcases h.cases with ⟨rfl, rfl⟩ | ⟨c, c', rfl, rfl, hsame⟩
    · simp [Reading.outcomes]
    · have hcopy : ({ c with line := n } : Command) = { c' with line := n } := hsame n
      have hcapped : Reading.capped cap count = min cap.toNat (Reading.capped 0 count) := by
        rw [Reading.capped, Reading.capped, if_pos hcap, if_neg (by omega), Nat.min_comm]
      simp only [Reading.outcomes, Result.ofOutcomes_replicate_command, List.take_replicate,
        hcapped, hcopy]

/-- Line by line, a run under a cap has the first commands of a run without one. -/
theorem commands_run_eq_take (h : SameUpToLine last last') (hcap : 0 < cap) (n : Nat)
    (lines : List Bytes) :
    (run cap last n lines).map (fun outcomes => (Result.ofOutcomes outcomes).commands) =
      (run 0 last' n lines).map fun outcomes =>
        (Result.ofOutcomes outcomes).commands.take cap.toNat := by
  induction lines generalizing last last' n with
  | nil => rfl
  | cons line lines ih =>
    -- Whatever a cap takes away, the command for the next repetition is the same.
    have hlatest := (produce_sameButCopies h cap 0 n line).2
    rw [run, run, List.map_cons, List.map_cons, commands_produce_eq_take h hcap, ih hlatest]

theorem length_commands_run_le (hcap : 0 < cap) (last : Option Command) (n : Nat)
    (lines : List Bytes) :
    (Result.ofOutcomes (run cap last n lines).flatten).commands.length ≤
      lines.length * cap.toNat := by
  induction lines generalizing last n with
  | nil => exact Nat.zero_le _
  | cons line lines ih =>
    have hline : (Result.ofOutcomes (produce cap last n line)).commands.length ≤ cap.toNat := by
      rw [commands_produce_eq_take rfl hcap]
      exact List.length_take_le _ _
    have hrest := ih (latest last (produce cap last n line)) (n + 1)
    rw [run, List.flatten_cons, Result.commands_ofOutcomes_append, List.length_append,
      List.length_cons, Nat.succ_mul]
    omega

theorem commandsOf_eq_take (hcap : 0 < cap) (lines : List Bytes) :
    commandsOf cap lines = (commandsOf 0 lines).map (List.take cap.toNat) := by
  rw [commandsOf, commands_run_eq_take rfl hcap, commandsOf, List.map_map]
  rfl

end LineByLine

/-- Under a cap a line has the first of its commands. -/
theorem filter_line_parseMaxRepeat (text : Bytes) {cap : Int} (hcap : 0 < cap) (l : Int) :
    (parseMaxRepeat text cap).commands.filter (fun c => c.line == l) =
      ((parse text).commands.filter fun c => c.line == l).take cap.toNat := by
  have hparse : parse text = parseMaxRepeat text 0 := rfl
  rw [hparse]
  by_cases hl : 1 ≤ l
  · obtain ⟨i, rfl⟩ : ∃ i : Nat, l = i + 1 := ⟨(l - 1).toNat, by omega⟩
    have hpieces : ∀ n, (parseMaxRepeat text n).commands.filter (fun c => c.line == (i + 1 : Int)) =
        (LineByLine.commandsOf n (splitLines text))[i]?.getD [] := by
      intro n
      rw [parseMaxRepeat_eq_result, ← LineByLine.flatten_commandsOf]
      exact (LineByLine.separates_commandsOf n (splitLines text)).filter_flatten i
    rw [hpieces, hpieces, LineByLine.commandsOf_eq_take hcap, List.getElem?_map]
    cases (LineByLine.commandsOf 0 (splitLines text))[i]? with
    | none => simp
    | some commands => rfl
  · -- Lines are counted from one.
    have hnone : ∀ n, (parseMaxRepeat text n).commands.filter (fun c => c.line == l) = [] := by
      intro n
      rw [List.filter_eq_nil_iff]
      intro c hc
      have hline := (accounts_parseMaxRepeat text n).command_line c hc
      rw [beq_iff_eq]
      omega
    rw [hnone, hnone, List.take_nil]

/-- All that a number does as a cap. If it is not positive, nothing. If it is, the diagnostics stay,
each line has the first of its commands, as many as the cap allows, and so there are at most as many
commands as the lines can have together. -/
theorem parseMaxRepeat_truncates (text : Bytes) (n : Int) :
    (0 < n →
      (parseMaxRepeat text n).errors = (parse text).errors ∧
      (∀ l : Int,
        let all := (parse text).commands.filter fun c => c.line == l
        (parseMaxRepeat text n).commands.filter (fun c => c.line == l) =
          all.take (min n all.length).toNat) ∧
      (parseMaxRepeat text n).commands.length ≤ n * (splitLines text).length) ∧
    (n ≤ 0 → parseMaxRepeat text n = parse text) := by
  refine ⟨fun hn => ⟨errors_parseMaxRepeat text n, fun l => ?_, ?_⟩, fun hn => ?_⟩
  · intro all
    have hcount : (min n all.length).toNat = min n.toNat all.length := by omega
    rw [filter_line_parseMaxRepeat text hn, hcount, ← List.take_eq_take_min]
  · have hlength := LineByLine.length_commands_run_le hn none 1 (splitLines text)
    rw [parseMaxRepeat_eq_result, Int.mul_comm]
    calc ((LineByLine.result n (splitLines text)).commands.length : Int)
        ≤ ((splitLines text).length * n.toNat : Nat) := Int.ofNat_le.mpr hlength
      _ = (splitLines text).length * n := by
        rw [Int.natCast_mul, Int.toNat_of_nonneg (Int.le_of_lt hn)]
  · rw [parseMaxRepeat, Decoder.setMaxRepeat, if_neg (by omega)]
    rfl

/-- A repetition that asks for more copies than a 64-bit integer counts, and one behind it. -/
def largeScript : Bytes := "up\nREPEAT 99999999999999999999\nREPEAT 2\nfoo"

theorem parseMaxRepeat_truncates_large :
    (parse largeScript).errors = [⟨4, "foo", .unknownCommand⟩] ∧
      (let all := (parse largeScript).commands.filter fun c => c.line == 2
       all.take (min (3 : Int) all.length).toNat = List.replicate 3 ⟨.key .up, [], 2⟩) ∧
      (parseMaxRepeat largeScript 3).commands.length ≤ 3 * 4 ∧
      parseMaxRepeat largeScript (-1) = parse largeScript := by
  obtain ⟨herrors, hcommands, hlength⟩ := (parseMaxRepeat_truncates largeScript 3).1 (by decide)
  have hlines : (splitLines largeScript).length = 4 := by decide
  rw [hlines] at hlength
  refine ⟨herrors.symm.trans ?_, (hcommands 2).symm.trans ?_, by omega,
    (parseMaxRepeat_truncates largeScript (-1)).2 (by decide)⟩
  · rw [parseMaxRepeat_eq_result]
    decide
  · rw [parseMaxRepeat_eq_result]
    decide

end KeyScript
