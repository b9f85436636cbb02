import KeyScript.Proofs.Server.Replies
import KeyScript.Proofs.Text.Division
import KeyScript.Proofs.Text.Encoding
import KeyScript.Proofs.Text.Numeral
import KeyScript.Server.Inbox

/-!
# Frames that are cut off

Messages in their frames are read back one after the other, also when the stream is cut off at any
byte and arrives in reads of any size. A message comes out when its whole frame is there and not
before. A cut inside a message is an error; a cut at its first byte, in a header or between frames
is a normal end.

## Main definitions

- `leftover` — the bytes behind the whole frames of a stream
- `frameEnd`, `bodiesWithin`, `IsInsideBody` — where frames end, and what a cut does to them

## Main results

- `readFrame_frame_append`, `readFrame_take_frame` — a whole frame, and a frame that is cut off
- `Inbox.messages_eq` — what is asked for one at a time is what is in the joined bytes
- `Connection.finish_feedAll` — a session ends the way its stream does
- `messages_of_cut_frames` — what comes out of frames that are cut off
-/

namespace KeyScript

/-! ## The header of a frame -/

/-- What can be sent: a text that is not empty and no longer than a text in memory can be. -/
structure IsMessage (body : Bytes) : Prop where
  ne_nil : body ≠ []
  length_le : (body.length : Int) ≤ maxLength

/-- The part of a frame before the message. -/
def frameHeader (n : Nat) : Bytes := "Content-Length: " ++ Numeral.ofNat n ++ "\r\n\r\n"

theorem frame_eq (body : Bytes) : frame body = frameHeader body.length ++ body := rfl

section Header

variable {digits : Bytes}

theorem Numeral.whole?_ofNat (n : Nat) : whole? (ofNat n) = some (n : Int) := by
  have hdigits := isDigit_of_mem_ofNat n
  have hunsigned : unsignedPart (ofNat n) = ofNat n := by
    cases hcons : ofNat n with
    | nil => rfl
    | cons d rest =>
      obtain ⟨hminus, hplus⟩ := ne_sign_of_isDigit (hdigits d (by simp [hcons]))
      simp [unsignedPart, hminus, hplus]
  have hall : (ofNat n).all isDigit = true := List.all_eq_true.mpr hdigits
  have hleading : leadingDigits (ofNat n) = ofNat n := by
    rw [leadingDigits, hunsigned]
    exact List.takeWhile_eq_self_iff.mpr hdigits
  have hhead : (ofNat n).head? ≠ some minus := by
    intro h
    exact (ne_sign_of_isDigit (hdigits minus (List.mem_of_head? h))).1 rfl
  rw [whole?, hunsigned, if_pos hall, leading?_eq, hleading, if_neg (ofNat_ne_nil n), if_neg hhead,
    valueOf_ofNat]

/-- Digits are not space. -/
theorem isSpace_digit {d : UInt8} (h : Numeral.isDigit d = true) :
    d < 0x80 ∧ isSpace (Char.ofNat d.toNat) = false := by
  simp only [Numeral.isDigit, Bool.and_eq_true, decide_eq_true_eq, UInt8.le_iff_toNat_le,
    UInt8.reduceToNat] at h
  have hchar : (Char.ofNat d.toNat).toNat = d.toNat := toNat_charOfNat (.inl (by omega))
  constructor
  · exact UInt8.lt_iff_toNat_lt.mpr (show d.toNat < 128 by omega)
  · simp only [isSpace, hchar, Bool.or_eq_false_iff, Bool.and_eq_false_iff, decide_eq_false_iff_not,
      beq_eq_false_iff_ne]
    omega

/-- Digits with a space before them are trimmed to the digits. -/
theorem trim_space_digits (hdigits : ∀ d ∈ digits, Numeral.isDigit d = true) :
    Bytes.trim isSpace (32 :: digits) = digits := by
  have hascii : ∀ b ∈ (32 : UInt8) :: digits, b < 0x80 := by
    intro b hb
    rcases List.mem_cons.mp hb with rfl | hb
    · decide
    · exact (isSpace_digit (hdigits b hb)).1
  have hrunes := runes_ascii_append hascii []
  rw [List.append_nil, runes_nil, List.append_nil, List.map_cons] at hrunes
  set rs := digits.map fun b => (⟨Char.ofNat b.toNat, [b]⟩ : Rune) with hrs
  have hword : ∀ r ∈ rs, isSpace r.char = false := by
    intro r hr
    obtain ⟨b, hb, rfl⟩ := List.mem_map.mp hr
    exact (isSpace_digit (hdigits b hb)).2
  have hkept : ∀ ts : List Rune, (∀ r ∈ ts, isSpace r.char = false) →
      skipSpace isSpace ts = ts := by
    intro ts hts
    have hnone : ∀ r ∈ ([] : List Rune), isSpace r.char = true := by simp
    exact skipSpace_gap_append hnone fun r hr => hts r (List.mem_of_mem_head? hr)
  have hskip : skipSpace isSpace (runes (32 :: digits)) = rs := by
    rw [hrunes, ← List.singleton_append]
    refine skipSpace_gap_append ?_ fun r hr => hword r (List.mem_of_mem_head? hr)
    simp only [List.mem_singleton, forall_eq]
    decide
  have hreverse : skipSpace isSpace rs.reverse = rs.reverse :=
    hkept _ fun r hr => hword r (List.mem_reverse.mp hr)
  rw [Bytes.trim, hskip, hreverse, List.reverse_reverse, hrs, Rune.join, List.flatMap_map]
  exact List.flatMap_singleton' digits

/-- The line of a header that gives the length. -/
def lengthLine (n : Nat) : Bytes := "Content-Length: " ++ Numeral.ofNat n

theorem lengthAfter_lengthLine {n : Nat} (hn : (n : Int) ≤ maxLength) :
    lengthAfter 0 (lengthLine n) = n := by
  have hcut : Bytes.cut 58 (lengthLine n) =
      (Bytes.ofString "Content-Length", some (32 :: Numeral.ofNat n)) := rfl
  have hname : (Bytes.trim isSpace "Content-Length").equalFold lengthName = true := by
    decide +kernel
  have hsaturate : Numeral.saturate n = n := by
    rw [maxLength] at hn
    rw [Numeral.saturate, Numeral.maxWord, Numeral.minWord, if_neg (by omega), if_neg (by omega)]
  simp only [lengthAfter, hcut, hname, if_true]
  rw [lengthOf, trim_space_digits (Numeral.isDigit_of_mem_ofNat n), Numeral.whole?_ofNat,
    Option.map_some, hsaturate]
  rfl

/-- A header line has no line end in it. -/
theorem lineEnd_notMem_lengthLine (n : Nat) :
    ∀ b ∈ lengthLine n, (b == Bytes.carriageReturn || b == Bytes.lineFeed) = false := by
  have hname : List.all "Content-Length: "
      (fun b => !(b == Bytes.carriageReturn || b == Bytes.lineFeed)) = true := by decide
  intro b hb
  rcases List.mem_append.mp hb with hb | hb
  · simpa using List.all_eq_true.mp hname b hb
  · have hdigit := Numeral.isDigit_of_mem_ofNat n b hb
    rw [Bool.or_eq_false_iff, beq_eq_false_iff_ne, beq_eq_false_iff_ne]
    constructor
    · rintro rfl
      exact absurd hdigit (by decide)
    · rintro rfl
      exact absurd hdigit (by decide)

/-- A line is read up to its end. -/
theorem readHeader_line {s : Bytes} (h : Bytes.lineFeed ∉ s) (length : Int) (line rest : Bytes) :
    readHeader length line (s ++ rest) = readHeader length (s.reverse ++ line) rest := by
  induction s generalizing line with
  | nil => rfl
  | cons b s ih =>
    obtain ⟨hb, hs⟩ := not_or.mp (mt List.mem_cons.mpr h)
    rw [List.cons_append, readHeader, if_neg (Ne.symm hb), ih hs, List.reverse_cons,
      List.append_assoc]
    rfl

/-- A line end behind a line is not part of the line. -/
theorem headerLine_append_carriageReturn {line : Bytes}
    (h : ∀ b ∈ line, (b == Bytes.carriageReturn || b == Bytes.lineFeed) = false) :
    headerLine (line ++ [Bytes.carriageReturn]) = line := by
  rw [headerLine, Bytes.dropEndWhile, List.reverse_append, List.reverse_singleton,
    List.singleton_append, List.dropWhile_cons_of_pos (by decide)]
  cases hreverse : line.reverse with
  | nil => rw [List.dropWhile_nil, List.reverse_nil, List.reverse_eq_nil_iff.mp hreverse]
  | cons b rest =>
    have hb : b ∈ line := List.mem_reverse.mp (by simp [hreverse])
    rw [List.dropWhile_cons_of_neg (by simp [h b hb]), ← hreverse, List.reverse_reverse]

theorem readHeader_frameHeader {n : Nat} (hn : (n : Int) ≤ maxLength) (rest : Bytes) :
    readHeader 0 [] (frameHeader n ++ rest) = some ((n : Int), rest) := by
  have hends := lineEnd_notMem_lengthLine n
  have hfeed : Bytes.lineFeed ∉ lengthLine n ++ [Bytes.carriageReturn] := by
    intro hmem
    rcases List.mem_append.mp hmem with hmem | hmem
    · exact absurd (hends _ hmem) (by decide)
    · exact absurd (List.mem_singleton.mp hmem) (by decide)
  have hne : lengthLine n ≠ [] := List.append_ne_nil_of_left_ne_nil (by decide) _
  have hsplit : frameHeader n ++ rest = (lengthLine n ++ [Bytes.carriageReturn]) ++
      Bytes.lineFeed :: ([Bytes.carriageReturn] ++ Bytes.lineFeed :: rest) := by
    simp only [frameHeader, lengthLine, List.append_assoc]
    rfl
  -- The line with the length is followed by an empty one, which ends the header.
  rw [hsplit, readHeader_line hfeed, List.append_nil, readHeader, if_pos rfl, List.reverse_reverse,
    headerLine_append_carriageReturn hends]
  simp only [if_neg hne, lengthAfter_lengthLine hn]
  rw [readHeader_line (by decide), readHeader, if_pos rfl]
  exact if_pos (by decide)

/-- A header that is cut off is no header. -/
theorem readHeader_take_frameHeader {n k : Nat} (hn : (n : Int) ≤ maxLength)
    (hk : k < (frameHeader n).length) : readHeader 0 [] ((frameHeader n).take k) = none := by
  cases hread : readHeader 0 [] ((frameHeader n).take k) with
  | none => rfl
  | some found =>
    obtain ⟨length, rest⟩ := found
    -- What is missing would be left over behind the whole header, but nothing is.
    have hmore := readHeader_append hread ((frameHeader n).drop k)
    have hwhole := readHeader_frameHeader hn []
    rw [List.append_nil] at hwhole
    rw [List.take_append_drop, hwhole, Option.some.injEq, Prod.mk.injEq, List.nil_eq,
      List.append_eq_nil_iff, List.drop_eq_nil_iff] at hmore
    omega

end Header

/-! ## Whole frames and frames that are cut off -/

section Frames

variable {body : Bytes}

/-- The length of a message passes the checks that are made on it. -/
theorem IsMessage.length_bounds (h : IsMessage body) :
    ¬(body.length : Int) = 0 ∧
      ¬((body.length : Int) < 0 || (body.length : Int) > maxLength) = true := by
  have hpos : 0 < body.length := List.length_pos_iff.mpr h.ne_nil
  have hle := h.length_le
  simp only [Bool.or_eq_true, decide_eq_true_eq]
  omega

theorem readFrame_frame_append (h : IsMessage body) (rest : Bytes) :
    readFrame (frame body ++ rest) = .message body rest := by
  have hlong : ¬(body ++ rest).length < body.length := by
    rw [List.length_append]
    omega
  obtain ⟨hzero, hbounds⟩ := h.length_bounds
  rw [frame_eq, List.append_assoc]
  simp only [readFrame, readHeader_frameHeader h.length_le, Int.toNat_natCast, if_neg hbounds,
    if_neg hlong, List.take_left, List.drop_left]
  exact if_neg hzero

/-- A frame that is cut off is the beginning of a frame, and its message has begun if a byte of it
is there. -/
theorem readFrame_take_frame (h : IsMessage body) {k : Nat} (hk : k < (frame body).length) :
    readFrame ((frame body).take k) = .partly (decide ((frameHeader body.length).length < k)) := by
  rw [frame_eq, List.length_append] at hk
  rw [frame_eq, readFrame]
  by_cases hheader : k < (frameHeader body.length).length
  · rw [List.take_append_of_le_length (Nat.le_of_lt hheader),
      readHeader_take_frameHeader h.length_le hheader, decide_eq_false (by omega)]
  · obtain ⟨j, rfl⟩ := Nat.exists_eq_add_of_le (Nat.not_lt.mp hheader)
    have hj : j < body.length := by omega
    have hlength : (body.take j).length = j := List.length_take_of_le (Nat.le_of_lt hj)
    obtain ⟨hzero, hbounds⟩ := h.length_bounds
    have hbegun : (!(body.take j).isEmpty) =
        decide ((frameHeader body.length).length < (frameHeader body.length).length + j) := by
      rw [Bool.eq_iff_iff]
      simp only [Bool.not_eq_true', List.isEmpty_eq_false_iff, ← List.length_pos_iff, hlength,
        decide_eq_true_eq]
      omega
    rw [List.take_length_add_append]
    simp only [readHeader_frameHeader h.length_le, Int.toNat_natCast, if_neg hbounds, hlength,
      if_pos hj, hbegun]
    exact if_neg hzero

end Frames

/-! ## Messages asked for one at a time -/

namespace Inbox

/-- How the bytes were divided into reads has no say in what is read from them. -/
theorem readFrom_cases (pending : Bytes) (reads : List Bytes)
    (hreads : ∀ read ∈ reads, read ≠ []) :
    (∃ body next, readFrom pending reads hreads = .ok (body, next) ∧
        readFrame (pending ++ reads.flatten) = .message body next.stream) ∨
      readFrom pending reads hreads = .error (endOfStream (pending ++ reads.flatten)) ∧
        ∀ body rest, readFrame (pending ++ reads.flatten) ≠ .message body rest := by
  induction reads generalizing pending with
  | nil =>
    rw [readFrom, List.flatten_nil, List.append_nil]
    cases hread : readFrame pending with
    | message body rest =>
      refine .inl ⟨body, ⟨rest, [], hreads⟩, rfl, ?_⟩
      simp [stream]
    | _ => exact .inr ⟨rfl, by simp⟩
  | cons read reads ih =>
    rw [readFrom]
    cases hread : readFrame pending with
    | message body rest =>
      refine .inl ⟨body, ⟨rest, read :: reads, hreads⟩, rfl, ?_⟩
      rw [readFrame_append (by simp [hread]), hread]
      rfl
    | partly begun =>
      rw [List.flatten_cons, ← List.append_assoc]
      exact ih (pending ++ read) _
    | _ =>
      have hmore := readFrame_append (s := pending) (by simp [hread]) (read :: reads).flatten
      rw [hread, FrameReading.append] at hmore
      refine .inr ⟨?_, fun body rest => by rw [hmore]; simp⟩
      simp only [endOfStream, hread, hmore]

theorem readMessage_cases (i : Inbox) :
    (∃ body next, i.readMessage = .ok (body, next) ∧
        readFrame i.stream = .message body next.stream) ∨
      i.readMessage = .error (endOfStream i.stream) ∧
        ∀ body rest, readFrame i.stream ≠ .message body rest :=
  readFrom_cases i.pending i.reads i.reads_ne_nil

end Inbox

/-- The bytes behind the whole frames of a stream. -/
def leftover (stream : Bytes) : Bytes :=
  match _h : readFrame stream with
  | .message _ rest => leftover rest
  | _ => stream
termination_by stream.length
decreasing_by exact length_of_readFrame _h

theorem leftover_of_message {s body rest : Bytes} (h : readFrame s = .message body rest) :
    leftover s = leftover rest := by
  rw [leftover]
  split
  · next hread =>
    rw [h, FrameReading.message.injEq] at hread
    rw [hread.2]
  · next hread => exact absurd h (hread body rest)

theorem leftover_of_ne_message {s : Bytes} (h : ∀ body rest, readFrame s ≠ .message body rest) :
    leftover s = s := by
  rw [leftover]
  split
  · next hread => exact absurd hread (h _ _)
  · rfl

/-- Messages that are asked for one at a time are those in the joined bytes, and the failure behind
them is the end of the joined bytes. -/
theorem Inbox.messages_eq (i : Inbox) :
    i.messages = (received i.stream, endOfStream (leftover i.stream)) := by
  induction hlength : i.stream.length using Nat.strongRecOn generalizing i with
  | _ length ih =>
    rw [messages]
    rcases i.readMessage_cases with ⟨body, next, hread, hframe⟩ | ⟨hread, hframe⟩
    · have hlater := ih _ (hlength ▸ length_of_readFrame hframe) next rfl
      rw [received_of_message hframe, leftover_of_message hframe]
      split
      · next hread' =>
        rw [hread, Except.ok.injEq, Prod.mk.injEq] at hread'
        obtain ⟨rfl, rfl⟩ := hread'
        rw [hlater]
      · next hread' =>
        rw [hread] at hread'
        contradiction
    · rw [received_of_ne_message hframe, leftover_of_ne_message hframe]
      split
      · next hread' =>
        rw [hread] at hread'
        contradiction
      · next hread' =>
        rw [hread, Except.error.injEq] at hread'
        rw [hread']

/-! ## Sessions -/

section Appended

/-- More bytes add to what is left behind the frames that are there. -/
theorem received_leftover_append (s t : Bytes) :
    received (s ++ t) = received s ++ received (leftover s ++ t) ∧
      leftover (s ++ t) = leftover (leftover s ++ t) := by
  induction hlength : s.length using Nat.strongRecOn generalizing s with
  | _ length ih =>
    by_cases hread : ∃ body rest, readFrame s = .message body rest
    · obtain ⟨body, rest, hread⟩ := hread
      have hmore : readFrame (s ++ t) = .message body (rest ++ t) := by
        rw [readFrame_append (by simp [hread]), hread]
        rfl
      obtain ⟨hreceived, hleftover⟩ := ih _ (hlength ▸ length_of_readFrame hread) rest rfl
      rw [received_of_message hread, received_of_message hmore, leftover_of_message hread,
        leftover_of_message hmore, hreceived, hleftover]
      exact ⟨rfl, rfl⟩
    · have hnone : ∀ body rest, readFrame s ≠ .message body rest :=
        fun body rest h => hread ⟨body, rest, h⟩
      rw [received_of_ne_message hnone, leftover_of_ne_message hnone]
      exact ⟨rfl, rfl⟩

end Appended

namespace Connection

/-- A connection that has got the bytes of a stream: it waits behind the whole frames, or it has
ended there because of a header that is refused. -/
structure HasRead (c : Connection) (stream : Bytes) : Prop where
  pending_eq : c.ended = none → c.pending = leftover stream
  refused : ∀ e, c.ended = some e → endOfStream (leftover stream) = e ∧
    (readFrame (leftover stream) = .noLength ∨ readFrame (leftover stream) = .badLength)

variable {c : Connection} {stream stream' : Bytes}

theorem HasRead.congr (h : HasRead c stream) (heq : leftover stream' = leftover stream) :
    HasRead c stream' := by
  obtain ⟨hpending, hrefused⟩ := h
  exact ⟨heq ▸ hpending, heq ▸ hrefused⟩

theorem HasRead.finish_eq (h : HasRead c stream) : c.finish = endOfStream (leftover stream) := by
  rw [finish]
  cases hended : c.ended with
  | none => rw [Option.getD_none, h.pending_eq hended]
  | some e => rw [Option.getD_some, (h.refused e hended).1]

theorem hasRead_drain {fuel : Nat} (hopen : c.ended = none) (hfuel : c.pending.length < fuel)
    (hgoes : ∀ body ∈ received c.pending, isExit body = false) :
    HasRead (drain fuel c).1 c.pending := by
  induction fuel generalizing c with
  | zero => contradiction
  | succ fuel ih =>
    cases hread : readFrame c.pending with
    | partly begun =>
      have hleft := leftover_of_ne_message (s := c.pending) (by simp [hread])
      simp only [drain, hread]
      exact ⟨fun _ => hleft.symm, fun e he => by simp [hopen] at he⟩
    | noLength =>
      have hleft := leftover_of_ne_message (s := c.pending) (by simp [hread])
      simp only [drain, hread]
      refine ⟨fun h => by simp at h, fun e he => ?_⟩
      obtain rfl : StreamEnd.noLength = e := by simpa using he
      simp only [hleft, endOfStream, hread, true_or, and_self]
    | badLength =>
      have hleft := leftover_of_ne_message (s := c.pending) (by simp [hread])
      simp only [drain, hread]
      refine ⟨fun h => by simp at h, fun e he => ?_⟩
      obtain rfl : StreamEnd.badLength = e := by simpa using he
      simp only [hleft, endOfStream, hread, or_true, and_self]
    | message body rest =>
      have hreceived := received_of_message hread
      have hlength := length_of_readFrame hread
      cases hturn : c.server.receive body with
      | exit code =>
        have hexit := (c.server.exists_receive_eq_exit_iff body).mp ⟨code, hturn⟩
        simp [hgoes body (by simp [hreceived])] at hexit
      | next server sent =>
        simp only [drain, hread, hturn]
        refine HasRead.congr ?_ (leftover_of_message hread)
        refine ih (c := { c with server, pending := rest }) hopen (by simp only; omega) ?_
        intro b hb
        exact hgoes b (by simp only [hreceived, List.mem_cons, hb, or_true])

theorem HasRead.feed (h : HasRead c stream) (chunk : Bytes)
    (hgoes : ∀ body ∈ received (stream ++ chunk), isExit body = false) :
    HasRead (c.feed chunk).1 (stream ++ chunk) := by
  obtain ⟨hreceived, hleftover⟩ := received_leftover_append stream chunk
  rw [hreceived] at hgoes
  refine HasRead.congr ?_ hleftover
  rw [Connection.feed]
  cases hended : c.ended with
  | none =>
    have hpending := h.pending_eq hended
    rw [if_neg (by simp), ← hpending]
    refine hasRead_drain (c := { server := c.server, pending := c.pending ++ chunk }) rfl
      (Nat.lt_succ_self _) fun body hbody => hgoes body ?_
    exact List.mem_append_right _ (hpending ▸ hbody)
  | some e =>
    -- The refused header is still the first thing behind the frames.
    obtain ⟨hend, hrefused⟩ := h.refused e hended
    have hmore : readFrame (leftover stream ++ chunk) = readFrame (leftover stream) := by
      rcases hrefused with hread | hread
      · rw [readFrame_append (by simp [hread]), hread]
        rfl
      · rw [readFrame_append (by simp [hread]), hread]
        rfl
    have hleft : leftover (leftover stream ++ chunk) = leftover stream ++ chunk := by
      refine leftover_of_ne_message fun body rest => ?_
      rcases hrefused with hread | hread <;> simp [hmore, hread]
    rw [if_pos (by simp)]
    refine ⟨fun hnone => by simp [hended] at hnone, fun f hf => ?_⟩
    obtain rfl : e = f := Option.some.inj (hended.symm.trans hf)
    rw [hleft, endOfStream, hmore]
    exact ⟨hend, hrefused⟩

theorem HasRead.feedAll (h : HasRead c stream) (chunks : List Bytes)
    (hgoes : ∀ body ∈ received (stream ++ chunks.flatten), isExit body = false) :
    HasRead (c.feedAll chunks).1 (stream ++ chunks.flatten) := by
  induction chunks generalizing c stream with
  | nil => simpa [Connection.feedAll] using h
  | cons chunk chunks ih =>
    rw [List.flatten_cons, ← List.append_assoc] at hgoes ⊢
    refine ih (h.feed chunk fun body hbody => hgoes body ?_) hgoes
    rw [(received_leftover_append (stream ++ chunk) chunks.flatten).1]
    exact List.mem_append_left _ hbody

/-- A session that no message ends is ended by its stream. -/
theorem finish_feedAll (s : Server) (chunks : List Bytes)
    (hgoes : ∀ body ∈ received chunks.flatten, isExit body = false) :
    (({ server := s } : Connection).feedAll chunks).1.finish =
      endOfStream (leftover chunks.flatten) := by
  have hnothing : leftover [] = [] := leftover_of_ne_message (by simp [readFrame, readHeader])
  have hstart : HasRead { server := s } [] := ⟨fun _ => hnothing.symm, fun e he => by simp at he⟩
  simpa using (hstart.feedAll chunks (by simpa using hgoes)).finish_eq

end Connection

/-! ## Cuts -/

/-- Where the frame of message number `i` ends, if messages are sent one after the other. -/
def frameEnd (bodies : List Bytes) (i : Nat) : Nat := ((bodies.take (i + 1)).flatMap frame).length

/-- The messages whose frames lie wholly inside the first `k` bytes. -/
def bodiesWithin (k : Nat) (bodies : List Bytes) : List Bytes :=
  (bodies.zipIdx.filter fun p => decide (frameEnd bodies p.2 ≤ k)).map Prod.fst

/-- A cut after `k` bytes lies inside a message, with at least one byte of it before the cut and at
least one behind. -/
def IsInsideBody (k : Nat) (bodies : List Bytes) : Prop :=
  ∃ i body, bodies[i]? = some body ∧ frameEnd bodies i < k + body.length ∧ k < frameEnd bodies i

section Cuts

variable {k : Nat} {body : Bytes} {bodies : List Bytes}

theorem frameEnd_zero (body : Bytes) (bodies : List Bytes) :
    frameEnd (body :: bodies) 0 = (frame body).length := by
  simp [frameEnd]

theorem frameEnd_succ (body : Bytes) (bodies : List Bytes) (i : Nat) :
    frameEnd (body :: bodies) (i + 1) = (frame body).length + frameEnd bodies i := by
  simp [frameEnd]

theorem length_le_frameEnd {i : Nat} (h : bodies[i]? = some body) :
    body.length ≤ frameEnd bodies i := by
  induction bodies generalizing i with
  | nil => simp at h
  | cons first bodies ih =>
    cases i with
    | zero =>
      obtain rfl : first = body := by simpa using h
      rw [frameEnd_zero, frame_eq, List.length_append]
      omega
    | succ i =>
      rw [frameEnd_succ]
      have := ih (by simpa using h)
      omega

theorem bodiesWithin_cons_of_le (h : (frame body).length ≤ k) (bodies : List Bytes) :
    bodiesWithin k (body :: bodies) = body :: bodiesWithin (k - (frame body).length) bodies := by
  have hshift : ∀ i, decide (frameEnd (body :: bodies) (i + 1) ≤ k) =
      decide (frameEnd bodies i ≤ k - (frame body).length) := by
    intro i
    rw [frameEnd_succ, decide_eq_decide]
    omega
  simp only [bodiesWithin, List.zipIdx_cons, Nat.zero_add, List.zipIdx_succ, List.filter_cons,
    frameEnd_zero, h, decide_true, if_true, List.map_cons, List.filter_map, List.map_map]
  simp only [Function.comp_def, hshift]

/-- The first frame ends before all others do. -/
theorem length_frame_le_frameEnd (body : Bytes) (bodies : List Bytes) (i : Nat) :
    (frame body).length ≤ frameEnd (body :: bodies) i := by
  cases i with
  | zero => rw [frameEnd_zero]
  | succ i =>
    rw [frameEnd_succ]
    omega

theorem bodiesWithin_cons_of_lt (h : k < (frame body).length) (bodies : List Bytes) :
    bodiesWithin k (body :: bodies) = [] := by
  rw [bodiesWithin, List.map_eq_nil_iff, List.filter_eq_nil_iff]
  intro p _
  have := length_frame_le_frameEnd body bodies p.2
  rw [decide_eq_true_eq]
  omega

theorem isInsideBody_cons_of_le (h : (frame body).length ≤ k) (bodies : List Bytes) :
    IsInsideBody k (body :: bodies) ↔ IsInsideBody (k - (frame body).length) bodies := by
  constructor
  · rintro ⟨i, found, hfound, hbegun, hcut⟩
    cases i with
    | zero =>
      rw [frameEnd_zero] at hcut
      omega
    | succ i =>
      rw [frameEnd_succ] at hbegun hcut
      exact ⟨i, found, by simpa using hfound, by omega, by omega⟩
  · rintro ⟨i, found, hfound, hbegun, hcut⟩
    refine ⟨i + 1, found, by simpa using hfound, ?_, ?_⟩
    · rw [frameEnd_succ]
      omega
    · rw [frameEnd_succ]
      omega

theorem isInsideBody_cons_of_lt (h : k < (frame body).length) (bodies : List Bytes) :
    IsInsideBody k (body :: bodies) ↔ (frameHeader body.length).length < k := by
  have hlength : (frame body).length = (frameHeader body.length).length + body.length := by
    rw [frame_eq, List.length_append]
  constructor
  · rintro ⟨i, found, hfound, hbegun, -⟩
    cases i with
    | zero =>
      obtain rfl : body = found := by simpa using hfound
      rw [frameEnd_zero] at hbegun
      omega
    | succ i =>
      -- A later message begins behind the first frame, where the cut is not.
      have hlater : bodies[i]? = some found := by simpa using hfound
      have := length_le_frameEnd hlater
      rw [frameEnd_succ] at hbegun
      omega
  · intro hbegun
    refine ⟨0, body, rfl, ?_, ?_⟩
    · rw [frameEnd_zero]
      omega
    · rw [frameEnd_zero]
      exact h

theorem not_isInsideBody_nil (k : Nat) : ¬IsInsideBody k [] := by
  rintro ⟨i, found, hfound, -⟩
  simp at hfound

/-- What is left of frames that are cut off: the whole frames are read back, and the rest is a
beginning of a frame that shows whether the cut lies inside a message. -/
theorem received_take_frames (h : ∀ body ∈ bodies, IsMessage body) (k : Nat) :
    received ((bodies.flatMap frame).take k) = bodiesWithin k bodies ∧
      (IsInsideBody k bodies →
        endOfStream (leftover ((bodies.flatMap frame).take k)) = .truncated) ∧
      (¬IsInsideBody k bodies →
        endOfStream (leftover ((bodies.flatMap frame).take k)) = .finished) := by
  induction bodies generalizing k with
  | nil =>
    have hread : readFrame [] = .partly false := rfl
    rw [List.flatMap_nil, List.take_nil, received_of_ne_message (by simp [hread]),
      leftover_of_ne_message (by simp [hread])]
    exact ⟨rfl, fun hinside => absurd hinside (not_isInsideBody_nil k), fun _ => rfl⟩
  | cons body bodies ih =>
    have hbody := h body List.mem_cons_self
    rw [List.flatMap_cons]
    by_cases hk : (frame body).length ≤ k
    · have hread :=
        readFrame_frame_append hbody ((bodies.flatMap frame).take (k - (frame body).length))
      rw [List.take_append, List.take_of_length_le hk, received_of_message hread,
        leftover_of_message hread, bodiesWithin_cons_of_le hk, isInsideBody_cons_of_le hk]
      obtain ⟨hreceived, hend⟩ :=
        ih (fun b hb => h b (List.mem_cons_of_mem _ hb)) (k - (frame body).length)
      exact ⟨by rw [hreceived], hend⟩
    · have hlt : k < (frame body).length := Nat.lt_of_not_le hk
      have hread := readFrame_take_frame hbody hlt
      rw [List.take_append_of_le_length (Nat.le_of_lt hlt),
        received_of_ne_message (by simp [hread]),
        leftover_of_ne_message (by simp [hread]), bodiesWithin_cons_of_lt hlt,
        isInsideBody_cons_of_lt hlt, endOfStream, hread]
      refine ⟨rfl, fun hinside => ?_, fun houtside => ?_⟩
      · rw [decide_eq_true hinside]
      · rw [decide_eq_false houtside]

end Cuts

/-- Messages in their frames, one after the other and cut off after any number of bytes, come out as
they were, as far as their frames are whole, however the bytes come in reads. Then reading
fails: with an unexpected end if the cut lies inside a message, and normally otherwise. A session
over these bytes handles the same messages and ends in the same way, unless one of them ends it
before. -/
theorem messages_of_cut_frames (bodies reads : List Bytes) (k : Nat)
    (hbodies : ∀ body ∈ bodies, IsMessage body) (hne : ∀ read ∈ reads, read ≠ [])
    (hreads : reads.flatten = (bodies.flatMap frame).take k) :
    ∃ e, ({ reads, reads_ne_nil := hne } : Inbox).messages = (bodiesWithin k bodies, e) ∧
      (IsInsideBody k bodies → e = .truncated ∧ e.message? = some ("unexpected EOF" : Bytes)) ∧
      (¬IsInsideBody k bodies → e = .finished ∧ e.message? = none) ∧
      ∀ s : Server,
        (({ server := s } : Connection).feedAll reads).1.server =
            (s.run (bodiesWithin k bodies)).1 ∧
          (({ server := s } : Connection).feedAll reads).2 =
            (s.run (bodiesWithin k bodies)).2.filterMap id ∧
          ((∀ body ∈ bodiesWithin k bodies, isExit body = false) →
            (({ server := s } : Connection).feedAll reads).1.finish = e) := by
  obtain ⟨hreceived, hinside, houtside⟩ := received_take_frames hbodies k
  rw [← hreads] at hreceived hinside houtside
  refine ⟨endOfStream (leftover reads.flatten), ?_, fun hcut => ?_, fun hcut => ?_, fun s => ?_⟩
  · rw [Inbox.messages_eq, ← hreceived]
    rfl
  · rw [hinside hcut]
    exact ⟨rfl, rfl⟩
  · rw [houtside hcut]
    exact ⟨rfl, rfl⟩
  · obtain ⟨hserver, hsent⟩ := Connection.feedAll_eq_run s reads
    rw [hreceived] at hserver hsent
    refine ⟨hserver, hsent, fun hgoes => ?_⟩
    exact Connection.finish_feedAll s reads (hreceived ▸ hgoes)

/-- A message that is a frame itself and a short one, in three reads and cut off behind the first
byte of the short one. -/
theorem messages_of_cut_frames_nested :
    (∀ body ∈ [frame "a", "hi"], IsMessage body) ∧ IsInsideBody 66 [frame "a", "hi"] ∧
      ({ reads := ["Content-Length: 22\r", "\n\r\n" ++ frame "a",
          "Content-Length: 2\r\n\r\nh"],
         reads_ne_nil := by decide } : Inbox).messages = ([frame "a"], .truncated) := by
  have hbodies : ∀ body ∈ [frame "a", "hi"], IsMessage body := by
    intro body hbody
    rcases List.mem_cons.mp hbody with rfl | hbody
    · exact ⟨by decide, by decide⟩
    · obtain rfl := List.mem_singleton.mp hbody
      exact ⟨by decide, by decide⟩
  have hcut : IsInsideBody 66 [frame "a", "hi"] := ⟨1, "hi", by decide, by decide, by decide⟩
  obtain ⟨e, hmessages, hinside, -⟩ := messages_of_cut_frames [frame "a", "hi"]
    ["Content-Length: 22\r", "\n\r\n" ++ frame "a", "Content-Length: 2\r\n\r\nh"] 66 hbodies
    (by decide) (by decide)
  rw [hmessages, (hinside hcut).1]
  exact ⟨hbodies, hcut, congrArg (·, _) (by decide)⟩

end KeyScript
