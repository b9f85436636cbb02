import KeyScript.Script.Line

/-!
# Decoding a script from a source

A decoder reads a script piece by piece and hands out one outcome at a time: a command, a rejected
line, or the end. A rejected line does not stop it; only the end of the source does, and then
every later outcome is the end again. Copies asked for by a repetition are handed out one by one
before the next line is read.

## Main definitions

- `Source` — chunks of bytes and the way they end
- `Source.readLine` — the next line of a source
- `Decoder` — the state between two outcomes
- `Decoder.decode` — the next outcome
- `Decoder.setMaxRepeat` — the cap on the copies of one repetition
-/

namespace KeyScript

/-- How a source ends after its last byte. -/
inductive Ending where
  | endOfFile
  /-- Reading fails with a message. -/
  | failure (message : Bytes)
  /-- Reading fails with a message that also reports the end of the file. -/
  | failureAtEnd (message : Bytes)
deriving DecidableEq, Repr, Inhabited

/-- Whether the end of the file is reported. -/
def Ending.isEndOfFile : Ending → Bool
  | endOfFile | failureAtEnd _ => true
  | failure _ => false

/-- The bytes of a script as they arrive. -/
structure Source where
  /-- The chunks that are still to be read. -/
  chunks : List Bytes
  /-- What comes after the last chunk. -/
  ending : Ending := .endOfFile
deriving DecidableEq, Repr, Inhabited

namespace Source

/-- The number of bytes that are still to be read. -/
def size (s : Source) : Nat := s.chunks.flatten.length

/-- The bytes before the first line feed of some chunks, and the chunks after it if there is one. -/
def takeLine : List Bytes → Bytes × Option (List Bytes)
  | [] => ([], none)
  | chunk :: chunks =>
    match chunk.cut Bytes.lineFeed with
    | (before, some after) => (before, some (after :: chunks))
    | (before, none) =>
      let rest := takeLine chunks
      (before ++ rest.1, rest.2)

/-- The next line. A line that is ended by a line feed comes without it and without a carriage
return directly before it. The bytes after the last line feed come as they are, and with no source
left. -/
def readLine (s : Source) : Bytes × Option Source :=
  match takeLine s.chunks with
  | (line, some chunks) => (line.dropEnd [Bytes.carriageReturn], some { s with chunks })
  | (line, none) => (line, none)

/-- A cut leaves fewer bytes than there were. -/
theorem length_cut_lt {b : UInt8} {s after : Bytes} (h : (s.cut b).2 = some after) :
    after.length < s.length := by
  induction s with
  | nil => simp [Bytes.cut] at h
  | cons c s ih =>
    unfold Bytes.cut at h
    split at h
    · simp_all
    · have := ih h
      simp only [List.length_cons]
      omega

/-- Reading a line leaves fewer bytes than there were. -/
theorem size_takeLine_lt {chunks rest : List Bytes} (h : (takeLine chunks).2 = some rest) :
    rest.flatten.length < chunks.flatten.length := by
  induction chunks with
  | nil => simp [takeLine] at h
  | cons chunk chunks ih =>
    unfold takeLine at h
    split at h
    · next before after hcut =>
      have : after.length < chunk.length := length_cut_lt (by rw [hcut])
      simp only [Option.some.injEq] at h
      subst h
      simp only [List.flatten_cons, List.length_append]
      omega
    · have := ih h
      simp only [List.flatten_cons, List.length_append]
      omega

/-- A source after a line has fewer bytes. -/
theorem size_readLine_lt {s t : Source} (h : s.readLine.2 = some t) : t.size < s.size := by
  unfold readLine at h
  split at h
  · next line chunks hline =>
    simp only [Option.some.injEq] at h
    subst h
    exact size_takeLine_lt (by rw [hline])
  · simp at h

end Source

/-- What a decoder hands out. -/
inductive Outcome where
  | command (c : Command)
  | rejected (d : Diagnostic)
  /-- There is nothing more, for the reason given. -/
  | finished (ending : Ending)
deriving DecidableEq, Repr, Inhabited

/-- The state of a decoder between two outcomes. -/
structure Decoder where
  /-- What is still to be read. -/
  source : Source
  /-- Whether the end of the source has been met. -/
  ended : Bool := false
  /-- The number of lines read so far. -/
  line : Nat := 0
  /-- The command that a repetition copies. -/
  last : Option Command := none
  /-- The number of copies still to be handed out. -/
  pending : Nat := 0
  /-- The line that asked for the copies. -/
  pendingLine : Nat := 0
  /-- The cap on the copies of one repetition, if there is one. -/
  maxRepeat : Option Nat := none
deriving DecidableEq, Repr, Inhabited

namespace Decoder

/-- A decoder at the start of a source. -/
def ofSource (source : Source) : Decoder := { source }

/-- A decoder at the start of a text that is there as a whole. -/
def ofText (text : Bytes) : Decoder := ofSource { chunks := [text] }

/-- Sets the cap on the copies of one repetition; a number that is not positive means no cap. Copies
already asked for are not affected. -/
def setMaxRepeat (d : Decoder) (n : Int) : Decoder :=
  { d with maxRepeat := if 0 < n then some n.toNat else none }

/-- The number of copies that are made when a line asks for `count`. -/
def allowed (d : Decoder) (count : Nat) : Nat :=
  match d.maxRepeat with
  | some cap => min count cap
  | none => count

/-- The effect of the line just read: the outcome it gives at once, if any, and the new state. -/
def apply (d : Decoder) : Reading → Option Outcome × Decoder
  | .nothing => (none, d)
  | .command kind args =>
    let c : Command := { kind, args, line := d.line }
    (some (.command c), { d with last := some c })
  | .again token count =>
    match d.last with
    | some _ => (none, { d with pending := d.allowed count, pendingLine := d.line })
    | none => (some (.rejected ⟨d.line, token, .nothingToRepeat⟩), d)
  | .rejected token cause => (some (.rejected ⟨d.line, token, cause⟩), d)

/-- The bytes still to be read, plus one as long as the end has not been met. -/
def remaining (d : Decoder) : Nat := if d.ended then 0 else d.source.size + 1

/-- Applying a line reads nothing. -/
theorem remaining_apply (d : Decoder) (r : Reading) : (d.apply r).2.remaining = d.remaining := by
  unfold apply
  split <;> try rfl
  split <;> rfl

/-- The next line and the state after reading it, or nothing at the end. The bytes after the last
line feed are the last line if the source reports the end of the file, and no line otherwise. -/
def fetch (d : Decoder) : Option (Bytes × Decoder) :=
  if d.ended then none
  else match d.source.readLine with
    | (line, some source) => some (line, { d with source, line := d.line + 1 })
    | (line, none) =>
      if d.source.ending.isEndOfFile then
        let source := { d.source with chunks := [] }
        some (line, { d with source, ended := true, line := d.line + 1 })
      else none

/-- Fetching a line leaves less to read. -/
theorem remaining_fetch_lt {d next : Decoder} {line : Bytes} (h : d.fetch = some (line, next)) :
    next.remaining < d.remaining := by
  unfold fetch at h
  split at h
  · simp at h
  · next hopen =>
    split at h
    · next source hread =>
      have hsize : source.size < d.source.size := Source.size_readLine_lt (by rw [hread])
      simp only [Option.some.injEq, Prod.mk.injEq] at h
      obtain ⟨-, rfl⟩ := h
      simpa [remaining, hopen] using hsize
    · split at h
      · simp only [Option.some.injEq, Prod.mk.injEq] at h
        obtain ⟨-, rfl⟩ := h
        simp [remaining, hopen]
      · simp at h

/-- The next outcome and the state after it. -/
def decode (d : Decoder) : Outcome × Decoder :=
  match d.pending, d.last with
  | copies + 1, some c =>
    (.command { c with line := d.pendingLine }, { d with pending := copies })
  | _, _ =>
    match hfetch : d.fetch with
    | none => (.finished d.source.ending, d)
    | some (line, read) =>
      match happly : read.apply (.ofLine line) with
      | (some outcome, next) => (outcome, next)
      | (none, next) =>
        have : next.remaining < d.remaining := by
          have hread := remaining_fetch_lt hfetch
          have hnext := remaining_apply read (.ofLine line)
          rw [happly] at hnext
          exact hnext ▸ hread
        decode next
termination_by d.remaining

/-- What decoding leaves to read is no more than there was, and an outcome other than the end takes
bytes or a pending copy. -/
theorem decode_decreases (d : Decoder) :
    d.decode.2.remaining ≤ d.remaining ∧
      ((∃ ending, d.decode.1 = .finished ending) ∨ d.decode.2.remaining < d.remaining ∨
        (d.decode.2.remaining = d.remaining ∧ d.decode.2.pending < d.pending)) := by
  fun_induction decode d with
  | case1 d copies c _ hpending => exact ⟨Nat.le_refl _, .inr (.inr ⟨rfl, by simp [hpending]⟩)⟩
  | case2 d => exact ⟨Nat.le_refl _, .inl ⟨_, rfl⟩⟩
  | case3 d line read hfetch outcome next happly =>
    have hread := remaining_fetch_lt hfetch
    have hnext := remaining_apply read (.ofLine line)
    rw [happly] at hnext
    have hlt : next.remaining < d.remaining := hnext ▸ hread
    exact ⟨Nat.le_of_lt hlt, .inr (.inl hlt)⟩
  | case4 d line read hfetch next happly hlt _ ih =>
    refine ⟨Nat.le_trans ih.1 (Nat.le_of_lt hlt), ?_⟩
    rcases ih.2 with h | h | h
    · exact .inl h
    · exact .inr (.inl (Nat.lt_trans h hlt))
    · exact .inr (.inl (h.1 ▸ hlt))

/-- The outcomes up to the end, behind those already handed out, which come latest first. -/
def outcomesAfter (d : Decoder) (before : List Outcome) : List Outcome :=
  match _hdecode : d.decode with
  | (.finished _, _) => before.reverse
  | (.command c, next) => next.outcomesAfter (.command c :: before)
  | (.rejected e, next) => next.outcomesAfter (.rejected e :: before)
termination_by (d.remaining, d.pending)
decreasing_by
  all_goals
    have h := d.decode_decreases
    rw [_hdecode] at h
    rcases h.2 with ⟨_, h⟩ | h | h
    · cases h
    · exact Prod.Lex.left _ _ h
    · exact h.1 ▸ Prod.Lex.right _ h.2

/-- The outcomes up to the end. -/
def outcomes (d : Decoder) : List Outcome := d.outcomesAfter []

end Decoder

end KeyScript
