import KeyScript.Proofs.Script.Decoding

/-!
# The lines that a decoder reads

A decoder takes its source apart line by line, in reads that may end anywhere, and drops the end of
each line as it goes. Splitting a text drops the carriage returns before line feeds first and then
divides what is left. To show that both find the same lines, with the same numbers, decoding is
repeated here with a log of the lines that are applied. The log changes nothing else.

## Main definitions

- `Decoder.decodeLogged` — the next outcome, with the lines that are applied on the way to it
- `Decoder.transcript` — all outcomes up to the end, each with its lines

## Main results

- `Decoder.decodeLogged_snd`, `Decoder.map_snd_transcript` — without the log this is decoding
- `Decoder.log_append_unread` — the lines of one outcome and those that are left
- `Decoder.flatMap_fst_transcript` — the lines of all outcomes
- `Decoder.transcript_ofSource` — for the bytes of a source these are the lines of the text
-/

namespace KeyScript

namespace Decoder

/-- The next outcome and the state after it, behind the lines that are applied on the way, each with
its number. -/
def decodeLogged (d : Decoder) : List (Bytes × Nat) × Outcome × Decoder :=
  match d.pending, d.last with
  | copies + 1, some c =>
    ([], .command { c with line := d.pendingLine }, { d with pending := copies })
  | _, _ =>
    match hfetch : d.fetch with
    | none => ([], .finished d.source.ending, d)
    | some (line, read) =>
      match happly : read.apply (.ofLine line) with
      | (some outcome, next) => ([(line, read.line)], outcome, next)
      | (none, next) =>
        have : next.remaining < d.remaining := by
          have hread := remaining_fetch_lt hfetch
          have hnext := remaining_apply read (.ofLine line)
          rw [happly] at hnext
          exact hnext ▸ hread
        let rest := decodeLogged next
        ((line, read.line) :: rest.1, rest.2)
termination_by d.remaining

section OneOutcome

variable {d read next : Decoder} {line : Bytes}

theorem decode_of_fetch_none
    (hidle : ∀ copies c, d.pending = copies + 1 → d.last = some c → False)
    (hfetch : d.fetch = none) : d.decode = (.finished d.source.ending, d) := by
  rw [decode]
  split
  · next copies c hpending hlast => exact (hidle copies c hpending hlast).elim
  split
  · rfl
  · next hsome => simp [hfetch] at hsome

/-- A decoder that owes no copy applies the next line, and goes on if that gives no outcome. -/
theorem decode_of_fetch_some
    (hidle : ∀ copies c, d.pending = copies + 1 → d.last = some c → False)
    (hfetch : d.fetch = some (line, read)) :
    d.decode = match read.apply (.ofLine line) with
      | (some outcome, next) => (outcome, next)
      | (none, next) => next.decode := by
  rw [decode]
  split
  · next copies c hpending hlast => exact (hidle copies c hpending hlast).elim
  split
  · next hnone => simp [hfetch] at hnone
  · next taken after hsome =>
    obtain ⟨rfl, rfl⟩ : line = taken ∧ read = after := by simpa [hfetch] using hsome
    split
    · next happly => simp only [happly]
    · next happly => simp only [happly]

/-- The log changes nothing. -/
theorem decodeLogged_snd (d : Decoder) : d.decodeLogged.2 = d.decode := by
  fun_induction decodeLogged d with
  | case1 d copies c hlast hpending =>
    rw [decode]
    simp [hlast, hpending]
  | case2 d hfetch hidle => rw [decode_of_fetch_none hidle hfetch]
  | case3 d line read hfetch outcome next happly hidle =>
    rw [decode_of_fetch_some hidle hfetch, happly]
  | case4 d line read hfetch next happly hlt rest hidle ih =>
    rw [decode_of_fetch_some hidle hfetch, happly]
    exact ih

/-- Applying a line leaves the lines behind it and the count of lines as they are. -/
theorem unread_apply (d : Decoder) (r : Reading) :
    (d.apply r).2.unread = d.unread ∧ (d.apply r).2.line = d.line := by
  unfold apply
  split
  · exact ⟨rfl, rfl⟩
  · exact ⟨rfl, rfl⟩
  · split <;> exact ⟨rfl, rfl⟩
  · exact ⟨rfl, rfl⟩

theorem apply_ne_finished (d : Decoder) (r : Reading) (ending : Ending) :
    (d.apply r).1 ≠ some (.finished ending) := by
  unfold apply
  split
  · simp
  · simp
  · split <;> simp
  · simp

/-- A line that is fetched and applied stands before the lines that are left after it. -/
theorem zipIdx_unread_of_fetch_some {outcome : Option Outcome}
    (hfetch : d.fetch = some (line, read))
    (happly : read.apply (.ofLine line) = (outcome, next)) :
    d.unread.zipIdx (d.line + 1) = (line, read.line) :: next.unread.zipIdx (next.line + 1) := by
  obtain ⟨hunread, -, hread⟩ := unread_of_fetch_some hfetch
  have hline : read.line = d.line + 1 := by rw [hread]
  have hnext := unread_apply read (.ofLine line)
  rw [happly] at hnext
  rw [hunread, List.zipIdx_cons, hnext.1, hnext.2, hline]

/-- The lines of one outcome stand before the lines that are left after it. -/
theorem log_append_unread (d : Decoder) :
    d.decodeLogged.1 ++ d.decodeLogged.2.2.unread.zipIdx (d.decodeLogged.2.2.line + 1) =
      d.unread.zipIdx (d.line + 1) := by
  fun_induction decodeLogged d with
  | case1 d copies c hlast hpending => rfl
  | case2 d hfetch hidle => rfl
  | case3 d line read hfetch outcome next happly hidle =>
    rw [zipIdx_unread_of_fetch_some hfetch happly]
    rfl
  | case4 d line read hfetch next happly hlt rest hidle ih =>
    -- This line gives no outcome, so the log goes on with the lines of the next state.
    rw [zipIdx_unread_of_fetch_some hfetch happly, List.cons_append]
    exact congrArg _ ih

/-- At the end no line is left. -/
theorem unread_of_decode_finished {ending : Ending} (h : d.decode = (.finished ending, next)) :
    next.unread = [] := by
  fun_induction decode d with
  | case1 d copies c hlast hpending => simp at h
  | case2 d hfetch hidle =>
    obtain ⟨-, rfl⟩ := Prod.mk.inj h
    exact unread_of_fetch_none hfetch
  | case3 d line read hfetch outcome after happly hidle =>
    have houtcome := apply_ne_finished read (.ofLine line) ending
    rw [happly, (Prod.mk.inj h).1] at houtcome
    exact absurd rfl houtcome
  | case4 d line read hfetch after happly hlt hidle ih => exact ih h

end OneOutcome

/-- All outcomes up to the end and with it, each behind the lines that are applied for it. -/
def transcript (d : Decoder) : List (List (Bytes × Nat) × Outcome) :=
  match _hlogged : d.decodeLogged with
  | (log, .finished ending, _) => [(log, .finished ending)]
  | (log, .command c, next) => (log, .command c) :: next.transcript
  | (log, .rejected e, next) => (log, .rejected e) :: next.transcript
termination_by (d.remaining, d.pending)
decreasing_by
  all_goals
    have h := d.decode_decreases
    rw [← decodeLogged_snd, _hlogged] at h
    rcases h.2 with ⟨_, h⟩ | h | h
    · cases h
    · exact Prod.Lex.left _ _ h
    · exact h.1 ▸ Prod.Lex.right _ h.2

/-- The lines of all outcomes are the lines that a decoder has still to read, with their numbers. -/
theorem flatMap_fst_transcript (d : Decoder) :
    d.transcript.flatMap Prod.fst = d.unread.zipIdx (d.line + 1) := by
  fun_induction transcript d with
  | case1 d log ending next hlogged =>
    have hlines := d.log_append_unread
    have hdecode := d.decodeLogged_snd
    rw [hlogged] at hlines hdecode
    rw [unread_of_decode_finished hdecode.symm] at hlines
    simpa using hlines
  | case2 d log c next hlogged ih =>
    have hlines := d.log_append_unread
    rw [hlogged] at hlines
    rw [List.flatMap_cons, ih, ← hlines]
  | case3 d log e next hlogged ih =>
    have hlines := d.log_append_unread
    rw [hlogged] at hlines
    rw [List.flatMap_cons, ih, ← hlines]

/-- The outcomes of a transcript are those that are handed out, and then the end. -/
theorem map_snd_transcript {d : Decoder} {cap : Int} (h : d.Agrees cap) :
    d.transcript.map Prod.snd = d.outcomes ++ [.finished d.source.ending] := by
  have hstep : ∀ {d next : Decoder} {log : List (Bytes × Nat)} {o : Outcome}, d.Agrees cap →
      d.decodeLogged = (log, o, next) → (∀ ending, o ≠ .finished ending) →
      next.Agrees cap ∧ d.outcomes ++ [.finished d.source.ending] =
        o :: (next.outcomes ++ [.finished next.source.ending]) := by
    intro d next log o h hlogged ho
    have hdecode : d.decode = (o, next) := by rw [← decodeLogged_snd, hlogged]
    have hending := (d.decode_eq_head (fun _ => cap) h).ending_eq
    rw [hdecode] at hending
    obtain ⟨hstream, hagrees⟩ := stream_of_decode (fun _ => cap) h hdecode ho
    refine ⟨hagrees, ?_⟩
    rw [outcomes_eq_stream h, outcomes_eq_stream hagrees, hstream, hending]
    rfl
  fun_induction transcript d with
  | case1 d log ending next hlogged =>
    have hdecode : d.decode = (.finished ending, next) := by rw [← decodeLogged_snd, hlogged]
    have hstream := stream_of_decode_finished (fun _ => cap) h hdecode
    have hhead := (d.decode_eq_head (fun _ => cap) h).head_eq
    rw [hdecode, hstream] at hhead
    rw [outcomes_eq_stream h, hstream]
    exact congrArg (fun o => [o]) hhead
  | case2 d log c next hlogged ih =>
    obtain ⟨hagrees, houtcomes⟩ := hstep h hlogged (by simp)
    rw [List.map_cons, ih hagrees, houtcomes]
  | case3 d log e next hlogged ih =>
    obtain ⟨hagrees, houtcomes⟩ := hstep h hlogged (by simp)
    rw [List.map_cons, ih hagrees, houtcomes]

/-- However the bytes of a text arrive, the lines that a decoder applies before it reports the end
are the lines of the text: the same number of lines, each with the same bytes and in its place, the
first of them with number 1. -/
theorem transcript_ofSource (chunks : List Bytes) (cap : Int) :
    let d := (ofSource { chunks }).setMaxRepeat cap
    d.transcript.map Prod.snd = d.outcomes ++ [.finished .endOfFile] ∧
    d.transcript.flatMap Prod.fst = (splitLines chunks.flatten).zipIdx 1 := by
  intro d
  exact ⟨map_snd_transcript ((agrees_ofSource { chunks }).setMaxRepeat cap),
    flatMap_fst_transcript d⟩

-- Of two carriage returns only the one before the line feed goes; one at the very end stays.
example : splitLines "a\r\r\nb\rc\n\r\n\r" = (["a\r", "b\rc", "", "\r"] : List Bytes) := by decide

end Decoder

end KeyScript
