import KeyScript.Proofs.Script.Parsing

/-!
# Where the commands of a script come from

Every command of a result is what some line of the text says by itself: a repetition only copies
such a command to another line. So whatever holds of the commands that single lines read as holds of
all the commands of a script.

## Main definitions

- `Command.IsReadFrom` — a command is what a line says, up to the line number

## Main results

- `exists_isReadFrom_of_mem_commands` — every command of a result is read from a line
-/

namespace KeyScript

/-- A command is what a line says, up to the line number. -/
def Command.IsReadFrom (c : Command) (line : Bytes) : Prop :=
  Reading.ofLine line = .command c.kind c.args

theorem Outcome.mem_filterMap_command? {c : Command} {outcomes : List Outcome} :
    c ∈ outcomes.filterMap Outcome.command? ↔ .command c ∈ outcomes := by
  rw [List.mem_filterMap]
  constructor
  · rintro ⟨o, ho, hc⟩
    cases o with
    | command d =>
      cases hc
      exact ho
    | _ => cases hc
  · intro h
    exact ⟨.command c, h, rfl⟩

namespace LineByLine

variable {cap : Int} {last : Option Command} {n : Nat} {line : Bytes} {lines : List Bytes}
  {c : Command}

/-- A line gives a command by saying it, or as a copy of the command before. -/
theorem isReadFrom_or_copy_of_mem_produce (h : .command c ∈ produce cap last n line) :
    c.IsReadFrom line ∨ ∃ d, last = some d ∧ c = atLine n d := by
  rw [← Reading.outcomes_ofLine] at h
  cases hreading : Reading.ofLine line with
  | nothing => simp [hreading, Reading.outcomes] at h
  | rejected token cause => simp [hreading, Reading.outcomes] at h
  | command kind args =>
    rw [hreading, Reading.outcomes, List.mem_singleton] at h
    cases h
    exact .inl hreading
  | again token count =>
    cases last with
    | none => simp [hreading, Reading.outcomes] at h
    | some d =>
      rw [hreading] at h
      cases List.eq_of_mem_replicate h
      exact .inr ⟨d, rfl, rfl⟩

theorem mem_or_eq_of_latest {outcomes : List Outcome} (h : latest last outcomes = some c) :
    .command c ∈ outcomes ∨ last = some c := by
  rw [latest, Option.or_eq_some_iff] at h
  rcases h with h | ⟨-, h⟩
  · exact .inl (Outcome.mem_filterMap_command?.mp (List.mem_of_getLast? h))
  · exact .inr h

/-- If the command before the lines is read from some line, then so is every command that the lines
produce. -/
theorem exists_isReadFrom_of_mem_run {P : Bytes → Prop} (hP : ∀ line ∈ lines, P line)
    (hlast : ∀ d, last = some d → ∃ line, P line ∧ d.IsReadFrom line)
    (h : .command c ∈ (run cap last n lines).flatten) : ∃ line, P line ∧ c.IsReadFrom line := by
  -- The command carried from line to line is the invariant: it is always read from some line.
  induction lines generalizing last n with
  | nil => simp [run] at h
  | cons line lines ih =>
    have hfirst : ∀ d, .command d ∈ produce cap last n line →
        ∃ line, P line ∧ d.IsReadFrom line := by
      intro d hd
      rcases isReadFrom_or_copy_of_mem_produce hd with hd | ⟨e, he, rfl⟩
      · exact ⟨line, hP line List.mem_cons_self, hd⟩
      · exact hlast e he
    rw [run, List.flatten_cons, List.mem_append] at h
    rcases h with h | h
    · exact hfirst c h
    · refine ih (fun line hline => hP line (List.mem_cons_of_mem _ hline)) (fun d hd => ?_) h
      exact (mem_or_eq_of_latest hd).elim (hfirst d) (hlast d)

end LineByLine

/-- Every command of a result is read from a line of the text. -/
theorem exists_isReadFrom_of_mem_commands {text : Bytes} {n : Int} {c : Command}
    (h : c ∈ (parseMaxRepeat text n).commands) : ∃ line ∈ splitLines text, c.IsReadFrom line := by
  rw [parseMaxRepeat_eq_result] at h
  refine LineByLine.exists_isReadFrom_of_mem_run (P := (· ∈ splitLines text)) (fun _ => id) ?_
    (Outcome.mem_filterMap_command?.mp h)
  simp

theorem Reading.ofRepeat_ne_command {token number : Bytes} {kind : Kind} {args : List Bytes} :
    ofRepeat token number ≠ command kind args := by
  rw [ofRepeat]
  split
  · split <;> simp
  · simp

end KeyScript
