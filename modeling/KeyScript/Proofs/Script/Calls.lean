import KeyScript.Proofs.Script.Decoding

/-!
# Calls of a decoder

A decoder is asked for outcomes one at a time, and between two of them its cap on repetitions may be
set anew. The answers to any such sequence of calls are fixed by the joined bytes of the source:
what its lines produce, each under the cap in force when the line is read, and then the end again
and again.

## Main definitions

- `Call` — a call of a decoder
- `Decoder.answers`, `Decoder.after` — what calls hand out, and the decoder after them
- `Call.capAt` — the cap in force at an outcome of a sequence of calls

## Main results

- `Decoder.answers_eq_padded` — the answers of any decoder between two calls
- `Decoder.answers_ofSource` — the answers of a decoder at the start of a source, and what a change
  of the cap does to them
-/

namespace KeyScript

/-- A call of a decoder. -/
inductive Call where
  /-- Ask for the next outcome. -/
  | decode
  /-- Set the cap on the copies of one repetition. -/
  | setMaxRepeat (n : Int)
deriving DecidableEq, Repr

namespace Call

/-- The number of outcomes that calls ask for. -/
def decodes (calls : List Call) : Nat := calls.count .decode

/-- The cap in force when outcome number `k`, counted from zero, is asked for, if `cap` was in force
before the calls. -/
def capAt (cap : Int) : List Call → Nat → Int
  | [], _ => cap
  | setMaxRepeat n :: calls, k => capAt n calls k
  | decode :: _, 0 => cap
  | decode :: calls, k + 1 => capAt cap calls k

end Call

namespace LineByLine

/-- A line whose first word names a repetition. -/
def IsRepetition (line : Bytes) : Prop :=
  ∃ first others, words line = first :: others ∧ first.upper = "REPEAT"

/-- Commands, if there are any, that differ at most in their line. -/
def SameUpToLine (last last' : Option Command) : Prop := last.map (atLine 0) = last'.map (atLine 0)

/-- What one line produces in two runs: the same or, for a repetition, copies of the same
command. -/
def SameButCopies (line : Bytes) (outcomes outcomes' : List Outcome) : Prop :=
  outcomes = outcomes' ∨ IsRepetition line ∧
    ∃ c k k', outcomes = List.replicate k (.command c) ∧ outcomes' = List.replicate k' (.command c)

/-- Other lines do not depend on the cap and on the command produced last. -/
theorem produce_congr_of_not_isRepetition {line : Bytes} (h : ¬IsRepetition line) (cap cap' : Int)
    (last last' : Option Command) (n : Nat) :
    produce cap last n line = produce cap' last' n line := by
  unfold produce
  cases hwords : words line with
  | nil => rfl
  | cons first others =>
    have hname : ¬first.upper = "REPEAT" := fun hname => h ⟨first, others, hwords, hname⟩
    simp only [if_neg hname]

theorem map_atLine_latest_replicate (c : Command) (k m n : Nat) :
    (latest (some c) (List.replicate k (.command (atLine m c)))).map (atLine n) =
      some (atLine n c) := by
  cases k with
  | zero => rfl
  | succ k => rw [latest_replicate_succ]; rfl

theorem SameUpToLine.cases {last last' : Option Command} (h : SameUpToLine last last') :
    (last = none ∧ last' = none) ∨
      ∃ c c', last = some c ∧ last' = some c' ∧ ∀ n, atLine n c = atLine n c' := by
  cases last with
  | none =>
    cases last' with
    | none => exact .inl ⟨rfl, rfl⟩
    | some c' => simp [SameUpToLine] at h
  | some c =>
    cases last' with
    | none => simp [SameUpToLine] at h
    | some c' =>
      have hzero : atLine 0 c = atLine 0 c' := by simpa [SameUpToLine] using h
      refine .inr ⟨c, c', rfl, rfl, ?_⟩
      intro n
      have hmapped := congrArg (atLine n) hzero
      exact hmapped

theorem SameUpToLine.latest {last last' : Option Command} (h : SameUpToLine last last')
    (outcomes : List Outcome) : SameUpToLine (latest last outcomes) (latest last' outcomes) := by
  rw [LineByLine.latest, LineByLine.latest]
  cases (outcomes.filterMap Outcome.command?).getLast? with
  | none => exact h
  | some c => rfl

/-- One line under two caps produces the same but for the number of copies, and leaves the same
command for the next repetition. -/
theorem produce_sameButCopies {last last' : Option Command} (h : SameUpToLine last last')
    (cap cap' : Int) (n : Nat) (line : Bytes) :
    SameButCopies line (produce cap last n line) (produce cap' last' n line) ∧
      SameUpToLine (latest last (produce cap last n line))
        (latest last' (produce cap' last' n line)) := by
  -- Only a repetition looks at the cap and at the command before it.
  by_cases hrepetition : IsRepetition line
  · rw [← Reading.outcomes_ofLine, ← Reading.outcomes_ofLine]
    cases Reading.ofLine line with
    | nothing => exact ⟨.inl rfl, h.latest _⟩
    | command kind args => exact ⟨.inl rfl, h.latest _⟩
    | rejected token cause => exact ⟨.inl rfl, h.latest _⟩
    | again token count =>
      rcases h.cases with ⟨rfl, rfl⟩ | ⟨c, c', rfl, rfl, hsame⟩
      · exact ⟨.inl rfl, h.latest _⟩
      · refine ⟨.inr ⟨hrepetition, atLine n c, Reading.capped cap count, Reading.capped cap' count,
          rfl, ?_⟩, ?_⟩
        · rw [hsame n]
          rfl
        · rw [Reading.outcomes, Reading.outcomes]
          exact (map_atLine_latest_replicate c _ n 0).trans
            ((congrArg some (hsame 0)).trans (map_atLine_latest_replicate c' _ n 0).symm)
  · rw [produce_congr_of_not_isRepetition hrepetition cap cap' last last' n]
    exact ⟨.inl rfl, h.latest _⟩

/-- Two runs over the same lines under different caps differ in the number of copies only. -/
theorem runUnder_sameButCopies {last last' : Option Command} (h : SameUpToLine last last')
    (capAt capAt' : Nat → Int) (handed handed' n : Nat) {lines : List Bytes} {i : Nat}
    {line : Bytes} (hline : lines[i]? = some line) :
    ∃ outcomes outcomes', (runUnder capAt handed last n lines)[i]? = some outcomes ∧
      (runUnder capAt' handed' last' n lines)[i]? = some outcomes' ∧
      SameButCopies line outcomes outcomes' := by
  induction lines generalizing last last' handed handed' n i with
  | nil => simp at hline
  | cons next lines ih =>
    have hnext := produce_sameButCopies h (capAt handed) (capAt' handed') n next
    cases i with
    | zero =>
      obtain rfl : next = line := by simpa using hline
      exact ⟨_, _, rfl, rfl, hnext.1⟩
    | succ i => exact ih hnext.2 _ _ _ (by simpa using hline)

end LineByLine

namespace Decoder

open Call (decodes capAt)
open LineByLine (runUnder)

/-- The outcomes that calls hand out. -/
def answers (d : Decoder) : List Call → List Outcome
  | [] => []
  | .decode :: calls => d.decode.1 :: d.decode.2.answers calls
  | .setMaxRepeat n :: calls => (d.setMaxRepeat n).answers calls

/-- The decoder after calls. -/
def after (d : Decoder) : List Call → Decoder
  | [] => d
  | .decode :: calls => d.decode.2.after calls
  | .setMaxRepeat n :: calls => (d.setMaxRepeat n).after calls

theorem answers_append (d : Decoder) (before calls : List Call) :
    d.answers (before ++ calls) = d.answers before ++ (d.after before).answers calls := by
  induction before generalizing d with
  | nil => rfl
  | cons call before ih =>
    cases call with
    | decode => simp only [List.cons_append, answers, after, ih]
    | setMaxRepeat n => simp only [List.cons_append, answers, after, ih]

theorem length_answers (d : Decoder) (calls : List Call) :
    (d.answers calls).length = decodes calls := by
  induction calls generalizing d with
  | nil => rfl
  | cons call calls ih =>
    cases call with
    | decode => rw [answers, List.length_cons, ih, decodes, decodes, List.count_cons_self]
    | setMaxRepeat n => rw [answers, ih, decodes, decodes, List.count_cons_of_ne (by simp)]

/-- Between two calls, a decoder agrees with the cap set last. -/
theorem Agrees.after {d : Decoder} {cap : Int} (h : d.Agrees cap) (calls : List Call) :
    ∃ cap', (d.after calls).Agrees cap' := by
  induction calls generalizing d cap with
  | nil => exact ⟨cap, h⟩
  | cons call calls ih =>
    cases call with
    | decode =>
      have hagrees := (d.decode_eq_head (fun _ => cap) h).agrees
      exact ih hagrees
    | setMaxRepeat n => exact ih (h.setMaxRepeat n)

/-- A list of outcomes with the end behind it, as far as `k` outcomes. -/
def padded (k : Nat) (outcomes : List Outcome) (ending : Ending) : List Outcome :=
  (outcomes ++ List.replicate k (Outcome.finished ending)).take k

theorem padded_succ (k : Nat) (outcomes : List Outcome) (ending : Ending) :
    padded (k + 1) outcomes ending =
      outcomes.headD (.finished ending) :: padded k outcomes.tail ending := by
  cases outcomes with
  | nil => simp [padded, List.replicate_succ]
  | cons o os =>
    have hlonger : List.replicate (k + 1) (Outcome.finished ending) =
        List.replicate k (.finished ending) ++ [.finished ending] := List.replicate_succ'
    rw [padded, padded, List.cons_append, List.take_succ_cons, hlonger, ← List.append_assoc,
      List.take_append_of_le_length (by simp)]
    rfl

/-- The answers to calls are what is still to be handed out and then the end, again and again. -/
theorem answers_eq_padded {d : Decoder} {cap : Int} (h : d.Agrees cap) (calls : List Call) :
    d.answers calls = padded (decodes calls) (d.stream (capAt cap calls)) d.source.ending := by
  induction calls generalizing d cap with
  | nil => rfl
  | cons call calls ih =>
    cases call with
    | decode =>
      obtain ⟨hhead, htail, hagrees, hending⟩ := d.decode_eq_head (capAt cap (.decode :: calls)) h
      rw [decodes, List.count_cons_self, padded_succ, answers, hhead, ih hagrees, ← htail, hending]
      rfl
    | setMaxRepeat n =>
      rw [decodes, List.count_cons_of_ne (by simp), answers, ih (h.setMaxRepeat n)]
      rfl

theorem length_owed {d : Decoder} {cap : Int} (h : d.Agrees cap) : d.owed.length = d.pending := by
  cases hlast : d.last with
  | none => rw [owed, hlast, h.pending_eq_zero hlast]; rfl
  | some c => rw [owed_of_last_some hlast, List.length_replicate]

/-- Copies that are owed are handed out first, whatever the calls are. -/
theorem take_pending_answers {d : Decoder} {cap : Int} (h : d.Agrees cap) (calls : List Call) :
    (d.answers calls).take d.pending = d.owed.take (decodes calls) := by
  rw [answers_eq_padded h, padded, List.take_take, Nat.min_comm, ← List.take_take, stream,
    List.append_assoc, ← length_owed h, List.take_left']
  rfl

/-- A new cap does not reach the copies that are owed. -/
theorem take_pending_setMaxRepeat {d : Decoder} {cap : Int} (h : d.Agrees cap) (n : Int)
    (calls : List Call) :
    ((d.setMaxRepeat n).answers calls).take d.pending = (d.answers calls).take d.pending := by
  rw [take_pending_answers h]
  exact take_pending_answers (h.setMaxRepeat n) calls

/-- Where the end stands in a padded list, it stands at every later place too. -/
theorem padded_finished {outcomes : List Outcome} {ending e : Ending} {k i j : Nat}
    (hne : ∀ o ∈ outcomes, ∀ ending, o ≠ .finished ending) (hij : i ≤ j) (hj : j < k)
    (h : (padded k outcomes ending)[i]? = some (.finished e)) :
    e = ending ∧ (padded k outcomes ending)[j]? = some (.finished e) := by
  rw [padded, List.getElem?_take_of_lt (by omega)] at h ⊢
  -- No outcome before the padding is an end, so the end at `i` is part of the padding.
  have hi : outcomes.length ≤ i := by
    by_contra hlt
    rw [List.getElem?_append_left (by omega)] at h
    exact hne _ (List.mem_of_getElem? h) e rfl
  rw [List.getElem?_append_right hi, List.getElem?_replicate, if_pos (by omega)] at h
  rw [List.getElem?_append_right (by omega), List.getElem?_replicate, if_pos (by omega), h]
  simp only [Option.some.injEq, Outcome.finished.injEq] at h
  exact ⟨h.symm, rfl⟩

/-- The answers of a decoder at the start of a source. Only the joined bytes count. What the lines
produce, each under the cap in force when it is read, is handed out in order, and then the end,
which stays. A new cap leaves the outcomes before it and the copies owed at that moment as they are,
and changes nothing else but the number of copies that repetitions make. -/
theorem answers_ofSource (chunks : List Bytes) (ending : Ending) :
    let source : Source := { chunks, ending }
    let d := ofSource source
    let blocks := fun calls => runUnder (capAt 0 calls) 0 none 1 source.lines
    (∀ calls, d.answers calls = (ofSource { chunks := [chunks.flatten], ending }).answers calls) ∧
    (∀ calls, d.answers calls = padded (decodes calls) (blocks calls).flatten ending) ∧
    (∀ calls (i j : Nat) e, i ≤ j → j < decodes calls → (d.answers calls)[i]? = some (.finished e) →
      e = ending ∧ (d.answers calls)[j]? = some (.finished e)) ∧
    ∀ before n calls,
      (d.answers (before ++ .setMaxRepeat n :: calls)).take
          (decodes before + (d.after before).pending) =
        (d.answers (before ++ calls)).take (decodes before + (d.after before).pending) ∧
      ∀ (i : Nat) line, source.lines[i]? = some line → ∃ outcomes outcomes',
        (blocks (before ++ .setMaxRepeat n :: calls))[i]? = some outcomes ∧
          (blocks (before ++ calls))[i]? = some outcomes' ∧
          LineByLine.SameButCopies line outcomes outcomes' := by
  intro source d blocks
  have hanswers : ∀ (source : Source) calls, (ofSource source).answers calls =
      padded (decodes calls) (runUnder (capAt 0 calls) 0 none 1 source.lines).flatten
        source.ending := by
    intro source calls
    rw [answers_eq_padded (agrees_ofSource source), stream_ofSource]
    rfl
  refine ⟨fun calls => ?_, hanswers source, ?_, fun before n calls => ⟨?_, ?_⟩⟩
  · have hlines : source.lines = Source.lines { chunks := [chunks.flatten], ending } := by
      simp [Source.lines, Source.bytes, source]
    rw [hanswers, hanswers, hlines]
  · intro calls i j e hij hj h
    rw [hanswers] at h ⊢
    exact padded_finished (fun o ho => LineByLine.ne_finished_of_mem_runUnder ho) hij hj h
  · obtain ⟨cap, hagrees⟩ := (agrees_ofSource source).after before
    rw [answers_append, answers_append, ← length_answers d before, List.take_length_add_append,
      List.take_length_add_append]
    exact congrArg _ (take_pending_setMaxRepeat hagrees n calls)
  · intro i line hline
    exact LineByLine.runUnder_sameButCopies rfl _ _ _ _ _ hline

/-- A cap that is set between two copies holds for the next repetition only. -/
theorem answers_ofSource_cap_between_copies :
    let enter := fun line => Outcome.command ⟨.key .enter, [], line⟩
    (ofSource { chunks := ["ENTER\nREP", "EAT 3\nREPEAT 2"] }).answers
        [.decode, .decode, .setMaxRepeat 1, .decode, .decode, .decode, .decode] =
      [enter 1, enter 2, enter 2, enter 2, enter 3, .finished .endOfFile] :=
  ((answers_ofSource _ _).2.1 _).trans (by decide)

end Decoder

end KeyScript
