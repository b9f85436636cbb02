import Mathlib.Tactic.Common
import KeyScript.Server.Session

/-!
# A session over a stream is a session over messages

A connection gets bytes in chunks of any size and handles a message as soon as its frame is
complete. What it does depends on the messages alone: they are read off from the joined bytes, and
the server handles them one after the other until one of them asks for the end.

## Main definitions

- `Server.run` — the server after some messages, and what it sends for each of them
- `received` — the messages in a stream, up to the first place that is no whole frame
- `Connection.feedAll` — a connection after some chunks, and what it sends

## Main results

- `readFrame_append` — bytes behind a frame have no say in it
- `Connection.drains_drain` — the pending bytes are handled as far as they are whole frames
- `Connection.feedAll_eq_run` — a connection does what the server does with the messages it received
-/

namespace KeyScript

/-- The server after some messages, and what it sends for each of them. A message that asks for the
end is the last one that is looked at. -/
def Server.run (s : Server) : List Bytes → Server × List (Option Outgoing)
  | [] => (s, [])
  | body :: bodies =>
    match s.receive body with
    | .exit _ => (s, [])
    | .next t sent =>
      let later := t.run bodies
      (later.1, sent :: later.2)

/-- What was read, with more bytes behind it. -/
def FrameReading.append : FrameReading → Bytes → FrameReading
  | .message body rest, t => .message body (rest ++ t)
  | .partly begun, _ => .partly begun
  | .noLength, _ => .noLength
  | .badLength, _ => .badLength

section Frames

variable {s t body rest : Bytes} {length n : Int} {line : Bytes}

theorem readHeader_append (h : readHeader length line s = some (n, rest)) (t : Bytes) :
    readHeader length line (s ++ t) = some (n, rest ++ t) := by
  induction s generalizing length line with
  | nil => simp [readHeader] at h
  | cons b s ih =>
    rw [List.cons_append, readHeader]
    rw [readHeader] at h
    by_cases hb : b = Bytes.lineFeed
    · rw [if_pos hb] at h ⊢
      by_cases hline : headerLine line.reverse = []
      · simp only [if_pos hline, Option.some.injEq, Prod.mk.injEq] at h ⊢
        obtain ⟨rfl, rfl⟩ := h
        exact ⟨rfl, rfl⟩
      · simp only [if_neg hline] at h ⊢
        exact ih h
    · rw [if_neg hb] at h ⊢
      exact ih h

/-- Bytes behind a frame, or behind a header that is refused, have no say in it. -/
theorem readFrame_append (h : ∀ begun, readFrame s ≠ .partly begun) (t : Bytes) :
    readFrame (s ++ t) = (readFrame s).append t := by
  rcases readFrame_cases s with ⟨begun, hpartly⟩ | ⟨n, rest, hheader, hcases⟩
  · exact absurd hpartly (h begun)
  have hmore := readHeader_append hheader t
  rcases hcases with ⟨hzero, hread⟩ | ⟨hzero, hbad, hread⟩ | ⟨hzero, hgood, hlong, hread⟩
  · rw [hread, FrameReading.append]
    simp only [readFrame, hmore, if_pos hzero]
  · rw [hread, FrameReading.append]
    simp only [readFrame, hmore, if_neg hzero, if_pos hbad]
  · have hlong' : ¬(rest ++ t).length < n.toNat := by
      rw [List.length_append]
      omega
    rw [hread, FrameReading.append]
    simp only [readFrame, hmore, if_neg hzero, if_neg hgood, if_neg hlong',
      List.take_append_of_le_length hlong, List.drop_append_of_le_length hlong]

end Frames

/-- The messages in a stream, up to the first place that is no whole frame. -/
def received (stream : Bytes) : List Bytes :=
  match _h : readFrame stream with
  | .message body rest => body :: received rest
  | _ => []
termination_by stream.length
decreasing_by exact length_of_readFrame _h

theorem received_of_message {s body rest : Bytes} (h : readFrame s = .message body rest) :
    received s = body :: received rest := by
  rw [received]
  split
  · next hread =>
    rw [h, FrameReading.message.injEq] at hread
    rw [hread.1, hread.2]
  · next hread => exact absurd h (hread body rest)

theorem received_of_ne_message {s : Bytes} (h : ∀ body rest, readFrame s ≠ .message body rest) :
    received s = [] := by
  rw [received]
  split
  · next hread => exact absurd hread (h _ _)
  · rfl

namespace Connection

/-- A connection after some chunks, and what it sends. -/
def feedAll (c : Connection) : List Bytes → Connection × List Outgoing
  | [] => (c, [])
  | chunk :: chunks =>
    let (next, sent) := c.feed chunk
    let (last, more) := next.feedAll chunks
    (last, sent ++ more)

/-- What a connection has done with the bytes that were pending, from `c` to `d`: the server has
handled the messages, and either the session has ended, and nothing that follows can be a message,
or it goes on with bytes that hold no whole frame. -/
structure Drains (c d : Connection) (sent : List Outgoing) : Prop where
  server_eq : d.server = (c.server.run (received c.pending)).1
  sent_eq : sent = (c.server.run (received c.pending)).2.filterMap id
  ended_or_waits :
    (d.ended.isSome = true ∧
      ∀ more, c.server.run (received (c.pending ++ more)) = c.server.run (received c.pending)) ∨
    (d.ended = none ∧ received d.pending = [] ∧
      ∀ more, c.server.run (received (c.pending ++ more)) =
        ((d.server.run (received (d.pending ++ more))).1,
          (c.server.run (received c.pending)).2 ++
            (d.server.run (received (d.pending ++ more))).2))

/-- A connection at a place that is no whole frame has nothing to do. -/
theorem drains_of_partly {c : Connection} (hopen : c.ended = none) {begun : Bool}
    (h : readFrame c.pending = .partly begun) : Drains c c [] := by
  have hnone : received c.pending = [] := received_of_ne_message (by simp [h])
  refine ⟨?_, ?_, .inr ⟨hopen, hnone, fun more => ?_⟩⟩
  · rw [hnone]
    rfl
  · rw [hnone]
    rfl
  · rw [hnone]
    rfl

/-- A header that is refused ends the session. -/
theorem drains_of_refused {c d : Connection}
    (hread : readFrame c.pending = .noLength ∨ readFrame c.pending = .badLength)
    (hserver : d.server = c.server) (hended : d.ended.isSome = true) : Drains c d [] := by
  have hnone : ∀ more, received (c.pending ++ more) = [] := by
    intro more
    refine received_of_ne_message fun body rest => ?_
    rcases hread with hread | hread <;>
      rw [readFrame_append (by simp [hread]), hread, FrameReading.append] <;> simp
  have hpending : received c.pending = [] := by simpa using hnone []
  refine ⟨?_, ?_, .inl ⟨hended, fun more => ?_⟩⟩
  · rw [hpending, hserver]
    rfl
  · rw [hpending]
    rfl
  · rw [hnone, hpending]

/-- The bytes that are there are handled as far as they are whole frames, if the fuel is enough for
all of them. -/
theorem drains_drain {fuel : Nat} {c : Connection} (hopen : c.ended = none)
    (hfuel : c.pending.length < fuel) : Drains c (drain fuel c).1 (drain fuel c).2 := by
  induction fuel generalizing c with
  | zero => contradiction
  | succ fuel ih =>
  cases hread : readFrame c.pending with
  | partly begun =>
    simp only [drain, hread]
    exact drains_of_partly hopen hread
  | noLength =>
    simp only [drain, hread]
    exact drains_of_refused (.inl hread) rfl rfl
  | badLength =>
    simp only [drain, hread]
    exact drains_of_refused (.inr hread) rfl rfl
  | message body rest =>
    have hreceived := received_of_message hread
    have hmore : ∀ more, received (c.pending ++ more) = body :: received (rest ++ more) := by
      intro more
      apply received_of_message
      rw [readFrame_append (by simp [hread]), hread, FrameReading.append]
    cases hturn : c.server.receive body with
    | exit code =>
      simp only [drain, hread, hturn]
      refine ⟨?_, ?_, .inl ⟨rfl, fun more => ?_⟩⟩
      · simp only [hreceived, Server.run, hturn]
      · simp only [hreceived, Server.run, hturn, List.filterMap_nil]
      · simp only [hreceived, hmore, Server.run, hturn]
    | next server sent =>
      -- The frame took a byte at least, so the fuel is enough for the bytes behind it.
      have hlength := length_of_readFrame hread
      have ih := ih (c := { c with server, pending := rest }) hopen (by simp only; omega)
      simp only [drain, hread, hturn]
      refine ⟨?_, ?_, ?_⟩
      · rw [ih.server_eq]
        simp only [hreceived, Server.run, hturn]
      · rw [ih.sent_eq]
        simp only [hreceived, Server.run, hturn]
        cases sent <;> rfl
      · refine ih.ended_or_waits.imp (And.imp_right fun hend more => ?_)
          (And.imp_right (And.imp_right fun hwait more => ?_))
        · simp only [hreceived, hmore, Server.run, hturn, hend more]
        · simp only [hreceived, hmore, Server.run, hturn, hwait more, List.cons_append]

theorem drains_feed {c : Connection} (hopen : c.ended = none) (chunk : Bytes) :
    Drains { c with pending := c.pending ++ chunk } (c.feed chunk).1 (c.feed chunk).2 := by
  rw [feed, if_neg (by simp [hopen])]
  exact drains_drain hopen (Nat.lt_succ_self _)

/-- A session that has ended takes no notice of what follows. -/
theorem feedAll_of_ended {c : Connection} (h : c.ended.isSome = true) (chunks : List Bytes) :
    c.feedAll chunks = (c, []) := by
  induction chunks with
  | nil => rfl
  | cons chunk chunks ih =>
    have hfeed : c.feed chunk = (c, []) := by rw [feed, if_pos h]
    simp only [feedAll, hfeed, ih, List.append_nil]

/-- A connection that waits for more does with some chunks what the server does with the messages in
the pending bytes and the chunks together. -/
theorem feedAll_eq {c : Connection} (hopen : c.ended = none) (hwaits : received c.pending = [])
    (chunks : List Bytes) :
    (c.feedAll chunks).1.server =
        (c.server.run (received (c.pending ++ chunks.flatten))).1 ∧
      (c.feedAll chunks).2 =
        (c.server.run (received (c.pending ++ chunks.flatten))).2.filterMap id := by
  induction chunks generalizing c with
  | nil =>
    rw [List.flatten_nil, List.append_nil, hwaits]
    exact ⟨rfl, rfl⟩
  | cons chunk chunks ih =>
    have hdrains := drains_feed hopen chunk
    rw [List.flatten_cons, ← List.append_assoc]
    simp only [feedAll]
    rcases hdrains.ended_or_waits with ⟨hended, hrest⟩ | ⟨hopen, hwaits, hrest⟩
    · rw [feedAll_of_ended hended, hrest, List.append_nil]
      exact ⟨hdrains.server_eq, hdrains.sent_eq⟩
    · obtain ⟨hserver, hsent⟩ := ih hopen hwaits
      rw [hrest, hserver, hsent, hdrains.sent_eq, List.filterMap_append]
      exact ⟨rfl, rfl⟩

/-- A connection does what the server does with the messages it received, however the bytes are cut
into chunks. -/
theorem feedAll_eq_run (s : Server) (chunks : List Bytes) :
    (({ server := s } : Connection).feedAll chunks).1.server =
        (s.run (received chunks.flatten)).1 ∧
      (({ server := s } : Connection).feedAll chunks).2 =
        (s.run (received chunks.flatten)).2.filterMap id :=
  feedAll_eq rfl (received_of_ne_message (by simp [readFrame, readHeader])) chunks

end Connection

end KeyScript
