import KeyScript.Proofs.Script.ErrorLines

/-!
# Finding the diagnostics of a line

The diagnostics of a line are found by bisection and then by going on as long as the line is the
same. This is right if the diagnostics come in the order of their lines, where a line may have
several of them or none. Under the same condition nothing is lost or exchanged when they are
grouped by line, and the result of every text satisfies it.

## Main definitions

- `Result.IsInLineOrder` — the diagnostics come in the order of their lines

## Main results

- `bisect_spec` — what bisection finds
- `Result.errorsOn_eq_filter` — the diagnostics that are found for a line
- `Result.flatMap_errorLines` — the groups of all lines, put together
- `errors_by_line` — search, grouping and selection agree
-/

namespace KeyScript

/-- Bisection divides an interval into the indices at which `p` fails and those at which it holds,
if `p` stays true once it is true. -/
theorem bisect_spec {p : Nat → Bool} {lo hi : Nat} (hle : lo ≤ hi)
    (hp : ∀ i j, lo ≤ i → i ≤ j → j < hi → p i = true → p j = true) :
    (lo ≤ bisect p lo hi ∧ bisect p lo hi ≤ hi) ∧
      (∀ i, lo ≤ i → i < bisect p lo hi → p i = false) ∧
      ∀ i, bisect p lo hi ≤ i → i < hi → p i = true := by
  fun_induction bisect p lo hi with
  | case1 lo hi hlt mid hmid ih =>
    obtain ⟨hbounds, hbelow, habove⟩ := ih (by omega) fun i j hi hij hj => hp i j hi hij (by omega)
    refine ⟨by omega, hbelow, ?_⟩
    intro i hi hhi
    by_cases hi' : i < mid
    · exact habove i hi hi'
    · exact hp mid i (by omega) (by omega) hhi hmid
  | case2 lo hi hlt mid hmid ih =>
    obtain ⟨hbounds, hbelow, habove⟩ := ih (by omega) fun i j hi hij => hp i j (by omega) hij
    refine ⟨by omega, ?_, habove⟩
    intro i hlo hi
    by_cases hi' : mid < i
    · exact hbelow i hi' hi
    · -- If `p` held at `i`, it would hold at the middle.
      by_contra hpi
      exact hmid (hp i mid hlo (by omega) (by omega) (by simpa using hpi))
  | case3 lo hi hlt =>
    refine ⟨by omega, ?_, ?_⟩
    · intro i hlo hi
      omega
    · intro i hlo hi
      omega

namespace Result

/-- The diagnostics come in the order of their lines; a line may have several of them. -/
def IsInLineOrder (r : Result) : Prop := r.errors.Pairwise fun e f => e.line ≤ f.line

instance (r : Result) : Decidable r.IsInLineOrder := inferInstanceAs (Decidable (List.Pairwise ..))

section Search

variable {r : Result}

/-- The index that bisection finds for a line has the diagnostics of earlier lines before it and no
others. -/
theorem exists_errorsOn_eq (h : r.IsInLineOrder) (line : Int) :
    ∃ before after, r.errors = before ++ after ∧ (∀ e ∈ before, e.line < line) ∧
      (∀ e ∈ after, line ≤ e.line) ∧
      r.errorsOn line = after.takeWhile fun e => e.line == line := by
  set p : Nat → Bool := fun i => r.errors.toArray[i]?.any fun e => line ≤ e.line with hp
  have hp_iff : ∀ i (hi : i < r.errors.length), p i = true ↔ line ≤ (r.errors[i]).line := by
    intro i hi
    simp [hp, List.getElem?_eq_getElem hi]
  have hmono : ∀ i j, 0 ≤ i → i ≤ j → j < r.errors.length → p i = true → p j = true := by
    intro i j _ hij hj
    rw [hp_iff i (by omega), hp_iff j hj]
    intro hi
    by_cases heq : i = j
    · subst heq
      exact hi
    · exact Int.le_trans hi (List.pairwise_iff_getElem.mp h i j (by omega) hj (by omega))
  obtain ⟨hbounds, hbelow, habove⟩ := bisect_spec (Nat.zero_le _) hmono
  have hfound : r.errorsOn line = (r.errors.drop (bisect p 0 r.errors.length)).takeWhile
      fun e => e.line == line := rfl
  generalize bisect p 0 r.errors.length = first at hbounds hbelow habove hfound
  refine ⟨_, _, (List.take_append_drop first r.errors).symm, ?_, ?_, hfound⟩
  · intro e he
    obtain ⟨i, hi, rfl⟩ := List.mem_take_iff_getElem.mp he
    have hfalse := hbelow i (Nat.zero_le i) (by omega)
    rw [← Int.not_le, ← hp_iff i (by omega), hfalse]
    exact Bool.false_ne_true
  · intro e he
    obtain ⟨i, hi, rfl⟩ := List.mem_drop_iff_getElem.mp he
    exact (hp_iff (first + i) (by omega)).mp (habove (first + i) (by omega) (by omega))

end Search

/-- Among diagnostics from a line on, those of the line come first. -/
theorem takeWhile_eq_filter {errors : List Diagnostic} {line : Int}
    (hsorted : errors.Pairwise fun e f => e.line ≤ f.line) (hle : ∀ e ∈ errors, line ≤ e.line) :
    errors.takeWhile (fun e => e.line == line) = errors.filter fun e => e.line == line := by
  induction errors with
  | nil => rfl
  | cons e errors ih =>
    obtain ⟨hfirst, hrest⟩ := List.pairwise_cons.mp hsorted
    by_cases he : e.line = line
    · rw [List.takeWhile_cons_of_pos (by simpa using he),
        List.filter_cons_of_pos (by simpa using he),
        ih hrest fun f hf => hle f (List.mem_cons_of_mem _ hf)]
    · -- All that follow are on later lines as well.
      have hlt : line < e.line := by
        have := hle e List.mem_cons_self
        omega
      have hnone : (e :: errors).filter (fun e => e.line == line) = [] := by
        rw [List.filter_eq_nil_iff]
        intro f hf
        rw [beq_iff_eq]
        by_cases hfe : f = e
        · rwa [hfe]
        · have := hfirst f ((List.mem_cons.mp hf).resolve_left hfe)
          omega
      rw [hnone, List.takeWhile_cons_of_neg (by simpa using he)]

/-- The diagnostics that are found for a line are all those on it, in their order. -/
theorem errorsOn_eq_filter {r : Result} (h : r.IsInLineOrder) (line : Int) :
    r.errorsOn line = r.errors.filter fun e => e.line == line := by
  obtain ⟨before, after, happend, hbefore, hafter, hfound⟩ := exists_errorsOn_eq h line
  have hnone : before.filter (fun e => e.line == line) = [] := by
    rw [List.filter_eq_nil_iff]
    intro e he
    have := hbefore e he
    rw [beq_iff_eq]
    omega
  rw [IsInLineOrder, happend, List.pairwise_append] at h
  rw [hfound, takeWhile_eq_filter h.2.1 hafter, happend, List.filter_append, hnone, List.nil_append]

section Groups

variable {groups : List (Int × List Diagnostic)} {e : Diagnostic}

/-- A diagnostic of no earlier line than the others goes to the end of all groups. -/
theorem flatMap_insertByLine (hordered : IsOrdered groups) (h : ∀ g ∈ groups, g.1 ≤ e.line) :
    (insertByLine e groups).flatMap Prod.snd = groups.flatMap Prod.snd ++ [e] := by
  induction groups with
  | nil => rfl
  | cons first groups ih =>
    obtain ⟨hlater, hgroups⟩ := List.pairwise_cons.mp hordered
    have hfirst : first.1 ≤ e.line := h first List.mem_cons_self
    rw [insertByLine, if_neg (by omega)]
    by_cases hsame : e.line = first.1
    · -- The group of the line is the last one.
      have hlast : groups = [] := by
        rw [List.eq_nil_iff_forall_not_mem]
        intro g hg
        have := hlater g hg
        have := h g (List.mem_cons_of_mem _ hg)
        omega
      rw [if_pos hsame, hlast]
      simp
    · rw [if_neg hsame, List.flatMap_cons, List.flatMap_cons,
        ih hgroups fun g hg => h g (List.mem_cons_of_mem _ hg), List.append_assoc]

/-- Diagnostics that are grouped one after the other keep their order, if they come in the order of
their lines. -/
theorem flatMap_foldl_insertByLine {errors : List Diagnostic}
    (hsorted : errors.Pairwise fun e f => e.line ≤ f.line) (hordered : IsOrdered groups)
    (h : ∀ g ∈ groups, ∀ e ∈ errors, g.1 ≤ e.line) :
    (errors.foldl (fun groups e => insertByLine e groups) groups).flatMap Prod.snd =
      groups.flatMap Prod.snd ++ errors := by
  induction errors generalizing groups with
  | nil => simp
  | cons e errors ih =>
    obtain ⟨hfirst, hrest⟩ := List.pairwise_cons.mp hsorted
    have hlines : ∀ g ∈ insertByLine e groups, ∀ f ∈ errors, g.1 ≤ f.line := by
      intro g hg f hf
      rcases line_of_mem_insertByLine hg with heq | ⟨g', hg', heq⟩
      · rw [heq]
        exact hfirst f hf
      · rw [heq]
        exact h g' hg' f (List.mem_cons_of_mem _ hf)
    rw [List.foldl_cons, ih hrest (isOrdered_insertByLine hordered) hlines,
      flatMap_insertByLine hordered fun g hg => h g hg e List.mem_cons_self, List.append_assoc]
    rfl

theorem isOrdered_foldl (hordered : IsOrdered groups) (errors : List Diagnostic) :
    IsOrdered (errors.foldl (fun groups e => insertByLine e groups) groups) := by
  induction errors generalizing groups with
  | nil => exact hordered
  | cons e errors ih => exact ih (isOrdered_insertByLine hordered)

end Groups

/-- The groups of all lines, put together, are the diagnostics in their order. -/
theorem flatMap_errorLines {r : Result} (h : r.IsInLineOrder) :
    r.errorLines.flatMap Prod.snd = r.errors :=
  flatMap_foldl_insertByLine h List.Pairwise.nil (by simp)

theorem isInLineOrder_parseMaxRepeat (text : Bytes) (n : Int) :
    (parseMaxRepeat text n).IsInLineOrder := by
  apply (accounts_parseMaxRepeat text n).errors_sorted.imp
  intro e f hlt
  exact Int.le_of_lt hlt

end Result

/-- In a result whose diagnostics come in the order of their lines, the search for a line finds
those that are on it, in their order, and these are the group of the line. The groups have the lines
in increasing order, and put together they are all diagnostics. The result of every text is such a
result, with any cap on repetitions and with none. -/
theorem errors_by_line :
    (∀ r : Result, r.IsInLineOrder →
      (∀ line : Int, r.errorsOn line = r.errors.filter (fun e => e.line == line) ∧
        r.errorsOn line = Result.errorsAt r.errorLines line) ∧
      (r.errorLines.map Prod.fst).Pairwise (· < ·) ∧ r.errorLines.flatMap Prod.snd = r.errors) ∧
    ∀ text, (parse text).IsInLineOrder ∧ ∀ n, (parseMaxRepeat text n).IsInLineOrder := by
  constructor
  · intro r h
    refine ⟨?_, ?_, Result.flatMap_errorLines h⟩
    · intro line
      have hfound := Result.errorsOn_eq_filter h line
      exact ⟨hfound, hfound.trans (Result.errorsAt_errorLines r line).symm⟩
    · rw [List.pairwise_map]
      exact Result.isOrdered_foldl List.Pairwise.nil r.errors
  · intro text
    have hcapped := Result.isInLineOrder_parseMaxRepeat text
    exact ⟨hcapped 0, hcapped⟩

/-- Several diagnostics on a line, and lines before, between and behind those that have any. -/
theorem errors_by_line_runs :
    let foo : Diagnostic := ⟨2, "foo", .unknownCommand⟩
    let bar : Diagnostic := ⟨2, "bar", .missingArgument⟩
    let delay : Diagnostic := ⟨5, "DELAY", .delayNumber⟩
    let r : Result := { errors := [foo, bar, foo, delay] }
    r.IsInLineOrder ∧ r.errorsOn 2 = [foo, bar, foo] ∧ r.errorsOn 5 = [delay] ∧
      ([-1, 0, 1, 3, 4, 6].map r.errorsOn).flatten = [] ∧
      r.errorLines = [(2, [foo, bar, foo]), (5, [delay])] := by
  intro foo bar delay r
  have horder : r.IsInLineOrder := by decide
  have hfound : ∀ line, r.errorsOn line = r.errors.filter fun e => e.line == line := fun line =>
    ((errors_by_line.1 r horder).1 line).1
  refine ⟨horder, ?_, ?_, ?_, by decide⟩
  · rw [hfound]
    decide
  · rw [hfound]
    decide
  · rw [funext hfound]
    decide

end KeyScript
