import KeyScript.Proofs.Script.LineByLine

/-!
# Decoding is going through the lines

A decoder holds copies that it still owes and lines that it has still to read. Together they fix
everything it will hand out, as a list: the copies, and then what the unread lines produce line by
line. Each call for an outcome takes the head off this list, and reports the end once it is empty.

## Main definitions

- `Decoder.owed` — the copies still to be handed out
- `Decoder.stream` — all that is still to be handed out
- `Decoder.Agrees` — what holds of a decoder between two calls
- `Decoder.TakesHead` — an outcome is the head of the list, and a state has its tail

## Main results

- `Decoder.decode_eq_head` — an outcome is the head of the list and leaves its tail
- `Decoder.outcomes_eq_stream` — the outcomes up to the end are the whole list
- `Decoder.outcomes_ofText` — for a text these are what its lines produce
-/

namespace KeyScript

namespace LineByLine

/-- A copy of a command with another line number. -/
def atLine (n : Nat) (c : Command) : Command := { c with line := n }

/-- No line produces an end. -/
theorem ne_finished_of_mem_produce {cap : Int} {last : Option Command} {n : Nat} {line : Bytes}
    {o : Outcome} (h : o ∈ produce cap last n line) (ending : Ending) : o ≠ .finished ending := by
  rw [← Reading.outcomes_ofLine] at h
  rintro rfl
  cases hreading : Reading.ofLine line with
  | again token count => cases last <;> simp [hreading, Reading.outcomes] at h
  | _ => simp [hreading, Reading.outcomes] at h

theorem ne_finished_of_mem_runUnder {capAt : Nat → Int} {handed : Nat} {last : Option Command}
    {n : Nat} {lines : List Bytes} {o : Outcome}
    (h : o ∈ (runUnder capAt handed last n lines).flatten) (ending : Ending) :
    o ≠ .finished ending := by
  induction lines generalizing handed last n with
  | nil => simp [runUnder] at h
  | cons line lines ih =>
    rw [runUnder, List.flatten_cons, List.mem_append] at h
    rcases h with h | h
    · exact ne_finished_of_mem_produce h ending
    · exact ih h

/-- The line number of the command produced last makes no difference. -/
theorem produce_map_atLine (cap : Int) (last : Option Command) (m n : Nat) (line : Bytes) :
    produce cap (last.map (atLine m)) n line = produce cap last n line := by
  rw [← Reading.outcomes_ofLine, ← Reading.outcomes_ofLine]
  cases Reading.ofLine line with
  | again token count => cases last <;> rfl
  | _ => rfl

theorem runUnder_map_atLine (capAt : Nat → Int) (handed : Nat) (last : Option Command) (m n : Nat)
    (lines : List Bytes) :
    runUnder capAt handed (last.map (atLine m)) n lines = runUnder capAt handed last n lines := by
  induction lines generalizing handed last n with
  | nil => rfl
  | cons line lines ih =>
    rw [runUnder, runUnder, produce_map_atLine]
    congr 1
    rw [latest, latest]
    cases ((produce (capAt handed) last n line).filterMap Outcome.command?).getLast? with
    | none => exact ih _ _ _
    | some c => rfl

/-- The last of some copies is the command produced last. -/
theorem latest_replicate_succ (c : Command) (k m : Nat) :
    latest (some c) (List.replicate (k + 1) (.command (atLine m c))) = some (atLine m c) := by
  have hcommand : Outcome.command? (.command (atLine m c)) = some (atLine m c) := rfl
  rw [latest, List.filterMap_replicate_of_some hcommand, List.getLast?_replicate, if_neg (by omega)]
  rfl

/-- After copies of a command, a repetition copies the same command as before them. -/
theorem runUnder_latest_replicate (capAt : Nat → Int) (handed : Nat) (c : Command) (k m n : Nat)
    (lines : List Bytes) :
    runUnder capAt handed (latest (some c) (List.replicate k (.command (atLine m c)))) n lines =
      runUnder capAt handed (some c) n lines := by
  cases k with
  | zero => rfl
  | succ k =>
    rw [latest_replicate_succ]
    exact runUnder_map_atLine capAt handed (some c) m n lines

/-- Counting from the second outcome on moves the caps by one. -/
theorem runUnder_succ (capAt : Nat → Int) (handed : Nat) (last : Option Command) (n : Nat)
    (lines : List Bytes) :
    runUnder capAt (handed + 1) last n lines =
      runUnder (fun k => capAt (k + 1)) handed last n lines := by
  induction lines generalizing handed last n with
  | nil => rfl
  | cons line lines ih => rw [runUnder, runUnder, Nat.add_right_comm, ih]

/-- A cap that does not change does not depend on the count. -/
theorem runUnder_const (cap : Int) (handed : Nat) (last : Option Command) (n : Nat)
    (lines : List Bytes) :
    runUnder (fun _ => cap) handed last n lines = run cap last n lines := by
  induction lines generalizing handed last n with
  | nil => rfl
  | cons line lines ih => rw [runUnder, run, ih]

end LineByLine

namespace Decoder

open LineByLine (atLine latest runUnder)

/-- The cap that a number stands for, none if the number is not positive. -/
def capOf (n : Int) : Option Nat := if 0 < n then some n.toNat else none

/-- The copies that are still to be handed out. -/
def owed (d : Decoder) : List Outcome :=
  match d.last with
  | some c => List.replicate d.pending (.command (atLine d.pendingLine c))
  | none => []

/-- All that is still to be handed out before the end, if `capAt k` is the cap when a line is read
after `k` more outcomes. -/
def stream (capAt : Nat → Int) (d : Decoder) : List Outcome :=
  d.owed ++ (runUnder capAt d.owed.length d.last (d.line + 1) d.unread).flatten

/-- What holds of a decoder between two calls: copies are owed only of a command, and the cap is the
one set last. -/
structure Agrees (d : Decoder) (cap : Int) : Prop where
  pending_eq_zero : d.last = none → d.pending = 0
  maxRepeat_eq : d.maxRepeat = capOf cap

theorem allowed_eq_capped {d : Decoder} {cap : Int} (h : d.maxRepeat = capOf cap) (count : Nat) :
    d.allowed count = Reading.capped cap count := by
  rw [allowed, h, capOf, Reading.capped]
  by_cases hpos : 0 < cap
  · rw [if_pos hpos, if_pos hpos]
  · rw [if_neg hpos, if_neg hpos]

/-- What applying a line can do. It hands out nothing and changes nothing, or hands out one outcome
at once, or notes that copies are owed. -/
theorem apply_cases {d : Decoder} {cap : Int} (hcap : d.maxRepeat = capOf cap) (r : Reading) :
    (r.outcomes cap d.last d.line = [] ∧ d.apply r = (none, d)) ∨
      (∃ o, r.outcomes cap d.last d.line = [o] ∧
        d.apply r = (some o, { d with last := latest d.last [o] })) ∨
      ∃ c k, d.last = some c ∧
        r.outcomes cap d.last d.line = List.replicate k (.command (atLine d.line c)) ∧
        d.apply r = (none, { d with pending := k, pendingLine := d.line }) := by
  cases r with
  | nothing => exact .inl ⟨rfl, rfl⟩
  | command kind args => exact .inr (.inl ⟨_, rfl, rfl⟩)
  | rejected token cause => exact .inr (.inl ⟨_, rfl, rfl⟩)
  | again token count =>
    cases hlast : d.last with
    | none =>
      refine .inr (.inl ⟨_, rfl, ?_⟩)
      simp only [apply, hlast]
      rw [latest, ← hlast]
      rfl
    | some c =>
      refine .inr (.inr ⟨c, _, rfl, rfl, ?_⟩)
      simp only [apply, hlast, allowed_eq_capped hcap]

/-- A decoder that does not hand out a copy next owes none. -/
theorem Agrees.pending_of_idle {d : Decoder} {cap : Int} (h : d.Agrees cap)
    (hidle : ∀ copies c, d.pending = copies + 1 → d.last = some c → False) : d.pending = 0 := by
  cases hlast : d.last with
  | none => exact h.pending_eq_zero hlast
  | some c =>
    cases hpending : d.pending with
    | zero => rfl
    | succ copies => exact absurd hlast (hidle copies c hpending)

/-- Fetching a line keeps the cap and the copies that are owed. -/
theorem Agrees.of_fetch_some {d read : Decoder} {line : Bytes} {cap : Int} (h : d.Agrees cap)
    (hpending : d.pending = 0) (hfetch : d.fetch = some (line, read)) :
    read.maxRepeat = capOf cap ∧ read.pending = 0 ∧ read.source.ending = d.source.ending := by
  obtain ⟨-, hending, hread⟩ := unread_of_fetch_some hfetch
  refine ⟨?_, ?_, hending⟩
  · rw [hread]
    exact h.maxRepeat_eq
  · rw [hread]
    exact hpending

theorem owed_of_last_some {d : Decoder} {c : Command} (h : d.last = some c) :
    d.owed = List.replicate d.pending (.command (atLine d.pendingLine c)) := by
  rw [owed, h]

theorem owed_of_pending_zero {d : Decoder} (h : d.pending = 0) : d.owed = [] := by
  rw [owed, h]
  cases d.last <;> rfl

/-- With no copies owed, all that is handed out comes from the unread lines. -/
theorem stream_of_pending_zero {d : Decoder} (h : d.pending = 0) (capAt : Nat → Int) :
    d.stream capAt = (runUnder capAt 0 d.last (d.line + 1) d.unread).flatten := by
  rw [stream, owed_of_pending_zero h]
  rfl

/-- What is handed out by a decoder that owes no copies starts with what its next line produces. -/
theorem stream_of_fetch_some {d read : Decoder} {line : Bytes} (hpending : d.pending = 0)
    (hfetch : d.fetch = some (line, read)) (capAt : Nat → Int) :
    d.stream capAt =
      (Reading.ofLine line).outcomes (capAt 0) read.last read.line ++
        (runUnder capAt ((Reading.ofLine line).outcomes (capAt 0) read.last read.line).length
          (latest read.last ((Reading.ofLine line).outcomes (capAt 0) read.last read.line))
          (read.line + 1) read.unread).flatten := by
  obtain ⟨hunread, -, hread⟩ := unread_of_fetch_some hfetch
  have hlast : read.last = d.last := by rw [hread]
  have hline : read.line = d.line + 1 := by rw [hread]
  rw [stream_of_pending_zero hpending, hunread, runUnder, Reading.outcomes_ofLine, hlast, hline,
    Nat.zero_add]
  rfl

/-- An outcome is the head of what a decoder has still to hand out, or the end if there is nothing,
and the next state has the tail. -/
structure TakesHead (d : Decoder) (capAt : Nat → Int) (outcome : Outcome) (next : Decoder) :
    Prop where
  head_eq : outcome = (d.stream capAt).headD (.finished d.source.ending)
  tail_eq : next.stream (fun k => capAt (k + 1)) = (d.stream capAt).tail
  agrees : next.Agrees (capAt 0)
  ending_eq : next.source.ending = d.source.ending

section Calls

variable {d read next : Decoder} {capAt : Nat → Int} {line : Bytes} (h : d.Agrees (capAt 0))

include h

/-- A copy that is owed: the list loses its first copy and the caps move by one. -/
theorem takesHead_of_copy {copies : Nat} {c : Command} (hpending : d.pending = copies + 1)
    (hlast : d.last = some c) :
    d.TakesHead capAt (.command (atLine d.pendingLine c)) { d with pending := copies } := by
  have howed : d.owed = .command (atLine d.pendingLine c) ::
      List.replicate copies (.command (atLine d.pendingLine c)) := by
    rw [owed_of_last_some hlast, hpending]
    rfl
  have hnext : ({ d with pending := copies } : Decoder).owed =
      List.replicate copies (.command (atLine d.pendingLine c)) := owed_of_last_some hlast
  refine ⟨?_, ?_, ⟨fun hnone => ?_, h.maxRepeat_eq⟩, rfl⟩
  · rw [stream, howed]
    rfl
  · rw [stream, stream, howed, hnext, List.length_cons, LineByLine.runUnder_succ]
    rfl
  · simp [hlast] at hnone

/-- The end: no copy is owed and no line is left, so the list is empty. -/
theorem takesHead_of_end (hpending : d.pending = 0) (hfetch : d.fetch = none) :
    d.TakesHead capAt (.finished d.source.ending) d := by
  have hstream : ∀ capAt, d.stream capAt = [] := by
    intro capAt
    rw [stream_of_pending_zero hpending, unread_of_fetch_none hfetch]
    rfl
  refine ⟨?_, ?_, h, rfl⟩
  · rw [hstream]
    rfl
  · rw [hstream, hstream]
    rfl

variable (hpending : d.pending = 0) (hfetch : d.fetch = some (line, read))

include hpending hfetch

/-- A line that gives one outcome at once. -/
theorem takesHead_of_outcome {outcome : Outcome}
    (happly : read.apply (.ofLine line) = (some outcome, next)) :
    d.TakesHead capAt outcome next := by
  have hstream := stream_of_fetch_some hpending hfetch capAt
  obtain ⟨hcap, hzero, hending⟩ := h.of_fetch_some hpending hfetch
  -- The other two ways of applying a line give no outcome.
  rcases apply_cases hcap (.ofLine line) with
    ⟨-, hap⟩ | ⟨o, houtcomes, hap⟩ | ⟨c, k, -, -, hap⟩ <;> rw [happly] at hap
  · simp at hap
  · simp only [Prod.mk.injEq, Option.some.injEq] at hap
    obtain ⟨rfl, rfl⟩ := hap
    rw [houtcomes] at hstream
    have hnext : ({ read with last := latest read.last [outcome] } : Decoder).pending = 0 := hzero
    refine ⟨by rw [hstream]; rfl, ?_, ⟨fun _ => hzero, hcap⟩, hending⟩
    rw [hstream]
    refine (stream_of_pending_zero hnext _).trans (congrArg List.flatten ?_)
    exact (LineByLine.runUnder_succ ..).symm
  · simp at hap

/-- A line that gives no outcome at once leaves the same to hand out: it says nothing, or its copies
are owed. -/
theorem stream_of_apply_none (happly : read.apply (.ofLine line) = (none, next)) :
    next.stream capAt = d.stream capAt ∧ next.Agrees (capAt 0) ∧
      next.source.ending = d.source.ending := by
  have hstream := stream_of_fetch_some hpending hfetch capAt
  obtain ⟨hcap, hzero, hending⟩ := h.of_fetch_some hpending hfetch
  rcases apply_cases hcap (.ofLine line) with
    ⟨houtcomes, hap⟩ | ⟨o, -, hap⟩ | ⟨c, k, hlast, houtcomes, hap⟩ <;> rw [happly] at hap
  · simp only [Prod.mk.injEq, true_and] at hap
    subst hap
    refine ⟨?_, ⟨fun _ => hzero, hcap⟩, hending⟩
    rw [hstream, houtcomes, stream_of_pending_zero hzero]
    rfl
  · simp at hap
  · simp only [Prod.mk.injEq, true_and] at hap
    subst hap
    refine ⟨?_, ⟨fun hnone => ?_, hcap⟩, hending⟩
    · have howed := owed_of_last_some
        (d := { read with pending := k, pendingLine := read.line }) hlast
      rw [hstream, houtcomes, stream, howed, hlast, LineByLine.runUnder_latest_replicate]
      rfl
    · simp [hlast] at hnone

end Calls

/-- A call hands out the head of what is still to be handed out, or the end if there is nothing, and
leaves the tail. -/
theorem decode_eq_head (d : Decoder) (capAt : Nat → Int) (h : d.Agrees (capAt 0)) :
    d.TakesHead capAt d.decode.1 d.decode.2 := by
  fun_induction decode d with
  | case1 d copies c hlast hpending => exact takesHead_of_copy h hpending hlast
  | case2 d hfetch hidle => exact takesHead_of_end h (h.pending_of_idle hidle) hfetch
  | case3 d line read hfetch outcome next happly hidle =>
    exact takesHead_of_outcome h (h.pending_of_idle hidle) hfetch happly
  | case4 d line read hfetch next happly hlt hidle ih =>
    obtain ⟨hsame, hagrees, hending⟩ :=
      stream_of_apply_none h (h.pending_of_idle hidle) hfetch happly
    obtain ⟨hhead, htail, hagrees', hending'⟩ := ih hagrees
    rw [hsame, hending] at hhead
    exact ⟨hhead, htail.trans (congrArg List.tail hsame), hagrees', hending'.trans hending⟩

/-- The end is not among what is handed out before it. -/
theorem ne_finished_of_mem_stream {d : Decoder} {capAt : Nat → Int} {o : Outcome}
    (h : o ∈ d.stream capAt) (ending : Ending) : o ≠ .finished ending := by
  rw [stream, List.mem_append] at h
  rcases h with h | h
  · rw [owed] at h
    split at h
    · rw [List.eq_of_mem_replicate h]
      exact Outcome.noConfusion
    · simp at h
  · exact LineByLine.ne_finished_of_mem_runUnder h ending

/-- Where the end is handed out, nothing else was left. -/
theorem stream_of_decode_finished {d next : Decoder} {ending : Ending} (capAt : Nat → Int)
    (h : d.Agrees (capAt 0)) (hdecode : d.decode = (.finished ending, next)) :
    d.stream capAt = [] := by
  have hhead := (d.decode_eq_head capAt h).head_eq
  cases hstream : d.stream capAt with
  | nil => rfl
  | cons o os =>
    rw [hdecode, hstream] at hhead
    exact absurd hhead.symm (ne_finished_of_mem_stream (hstream ▸ List.mem_cons_self) ending)

/-- An outcome other than the end stands in front of what is left after it. -/
theorem stream_of_decode {d next : Decoder} {o : Outcome} (capAt : Nat → Int)
    (h : d.Agrees (capAt 0)) (hdecode : d.decode = (o, next))
    (ho : ∀ ending, o ≠ .finished ending) :
    d.stream capAt = o :: next.stream (fun k => capAt (k + 1)) ∧ next.Agrees (capAt 0) := by
  obtain ⟨hhead, htail, hagrees, -⟩ := d.decode_eq_head capAt h
  rw [hdecode] at hhead htail hagrees
  refine ⟨?_, hagrees⟩
  cases hstream : d.stream capAt with
  | nil =>
    rw [hstream] at hhead
    exact absurd hhead (ho _)
  | cons p os =>
    rw [hstream] at hhead htail
    rw [htail, show o = p from hhead]
    rfl

theorem outcomesAfter_eq_append {d : Decoder} {cap : Int} (h : d.Agrees cap)
    (before : List Outcome) :
    d.outcomesAfter before = before.reverse ++ d.stream fun _ => cap := by
  have hstep : ∀ {d next : Decoder} {o : Outcome} (before : List Outcome), d.Agrees cap →
      d.decode = (o, next) → (∀ ending, o ≠ .finished ending) → next.Agrees cap ∧
        (o :: before).reverse ++ next.stream (fun _ => cap) =
          before.reverse ++ d.stream fun _ => cap := by
    intro d next o before h hdecode ho
    obtain ⟨hstream, hagrees⟩ := stream_of_decode (fun _ => cap) h hdecode ho
    refine ⟨hagrees, ?_⟩
    rw [hstream, List.reverse_cons, List.append_assoc, List.singleton_append]
  fun_induction outcomesAfter d before with
  | case1 d before ending next hdecode =>
    rw [stream_of_decode_finished (fun _ => cap) h hdecode, List.append_nil]
  | case2 d before c next hdecode ih =>
    obtain ⟨hagrees, hstream⟩ := hstep before h hdecode (by simp)
    rw [ih hagrees, hstream]
  | case3 d before e next hdecode ih =>
    obtain ⟨hagrees, hstream⟩ := hstep before h hdecode (by simp)
    rw [ih hagrees, hstream]

/-- Under a cap that is not changed, the outcomes up to the end are all that is to be handed out. -/
theorem outcomes_eq_stream {d : Decoder} {cap : Int} (h : d.Agrees cap) :
    d.outcomes = d.stream fun _ => cap :=
  outcomesAfter_eq_append h []

/-- A decoder at the start of a source owes nothing and has no cap. -/
theorem agrees_ofSource (source : Source) : (ofSource source).Agrees 0 := ⟨fun _ => rfl, rfl⟩

/-- Setting a cap changes the cap and nothing else. -/
theorem Agrees.setMaxRepeat {d : Decoder} {cap : Int} (h : d.Agrees cap) (n : Int) :
    (d.setMaxRepeat n).Agrees n :=
  ⟨h.pending_eq_zero, rfl⟩

theorem stream_ofSource (capAt : Nat → Int) (source : Source) :
    (ofSource source).stream capAt = (runUnder capAt 0 none 1 source.lines).flatten :=
  rfl

/-- The outcomes of a text are what its lines produce. -/
theorem outcomes_ofText (text : Bytes) (n : Int) :
    ((ofText text).setMaxRepeat n).outcomes =
      (LineByLine.run n none 1 (splitLines text)).flatten := by
  have hbytes : Source.lines { chunks := [text] } = splitLines text := by
    rw [Source.lines, Source.bytes]
    simp
  have hagrees := (agrees_ofSource { chunks := [text] }).setMaxRepeat n
  rw [ofText, outcomes_eq_stream hagrees, ← LineByLine.runUnder_const n 0, ← hbytes]
  rfl

end Decoder

end KeyScript
