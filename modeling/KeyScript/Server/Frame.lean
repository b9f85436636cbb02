import KeyScript.Text.Case
import KeyScript.Text.Numeral
import KeyScript.Text.Words

/-!
# Frames

Messages are sent one after the other over a stream of bytes. Each is put into a frame: header
lines, an empty line, and as many bytes as the header says. Only the length is read from the
header; the last line that gives one counts.

## Main definitions

- `frame` — a message in its frame
- `readHeader` — the length that a header gives
- `FrameReading`, `readFrame` — the first frame of a stream
- `StreamEnd`, `endOfStream` — what it means that a stream ends
-/

namespace KeyScript

/-- The name of the header line that gives the length. -/
def lengthName : Bytes := "content-length"

/-- A message in its frame. -/
def frame (body : Bytes) : Bytes :=
  "Content-Length: " ++ Numeral.ofNat body.length ++ "\r\n\r\n" ++ body

/-- The length that a text says; zero if it is not a number. -/
def lengthOf (value : Bytes) : Int :=
  ((Numeral.whole? (value.trim isSpace)).map Numeral.saturate).getD 0

/-- The length after one header line. -/
def lengthAfter (length : Int) (line : Bytes) : Int :=
  match Bytes.cut 58 line with
  | (name, some value) =>
    if (name.trim isSpace).equalFold lengthName then lengthOf value else length
  | (_, none) => length

/-- A header line without its end. -/
def headerLine (line : Bytes) : Bytes :=
  line.dropEndWhile fun b => b == Bytes.carriageReturn || b == Bytes.lineFeed

/-- The length that a header gives, and what is behind the empty line that ends it. The length so
far is `length`, and `line` is the start of the current line, latest byte first. -/
def readHeader (length : Int) (line : Bytes) : Bytes → Option (Int × Bytes)
  | [] => none
  | b :: s =>
    if b = Bytes.lineFeed then
      let whole := headerLine line.reverse
      if whole = [] then some (length, s) else readHeader (lengthAfter length whole) [] s
    else readHeader length (b :: line) s

/-- The greatest length for which there can be room. -/
def maxLength : Int := 281474976710656

/-- What the start of a stream is. -/
inductive FrameReading where
  /-- A frame with a message, and what is behind it. -/
  | message (body rest : Bytes)
  /-- The beginning of a frame, whose message has begun or not. -/
  | partly (begun : Bool)
  /-- A header without a length. -/
  | noLength
  /-- A header with a length that no message can have. -/
  | badLength
deriving DecidableEq, Repr, Inhabited

/-- The first frame of a stream. -/
def readFrame (stream : Bytes) : FrameReading :=
  match readHeader 0 [] stream with
  | none => .partly false
  | some (length, rest) =>
    if length = 0 then .noLength
    else if length < 0 || length > maxLength then .badLength
    else if rest.length < length.toNat then .partly (!rest.isEmpty)
    else .message (rest.take length.toNat) (rest.drop length.toNat)

section Reading

variable {s body rest line : Bytes} {length n : Int}

/-- A header takes at least one byte. -/
theorem length_of_readHeader (h : readHeader length line s = some (n, rest)) :
    rest.length < s.length := by
  induction s generalizing length line with
  | nil => simp [readHeader] at h
  | cons b s ih =>
    rw [List.length_cons]
    simp only [readHeader] at h
    split at h
    · split at h
      · simp only [Option.some.injEq, Prod.mk.injEq] at h
        rw [h.2]
        exact Nat.lt_succ_self _
      · exact Nat.lt_succ_of_lt (ih h)
    · exact Nat.lt_succ_of_lt (ih h)

/-- The ways in which a frame is read, with what was found in its header. -/
theorem readFrame_cases (s : Bytes) :
    (∃ begun, readFrame s = .partly begun) ∨
      ∃ n rest, readHeader 0 [] s = some (n, rest) ∧
        ((n = 0 ∧ readFrame s = .noLength) ∨
          (n ≠ 0 ∧ (n < 0 || n > maxLength) = true ∧ readFrame s = .badLength) ∨
          (n ≠ 0 ∧ ¬(n < 0 || n > maxLength) = true ∧ n.toNat ≤ rest.length ∧
            readFrame s = .message (rest.take n.toNat) (rest.drop n.toNat))) := by
  unfold readFrame
  split
  · exact .inl ⟨_, rfl⟩
  next n rest hheader =>
  by_cases hzero : n = 0
  · rw [if_pos hzero]
    exact .inr ⟨n, rest, hheader, .inl ⟨hzero, rfl⟩⟩
  rw [if_neg hzero]
  by_cases hbad : (n < 0 || n > maxLength) = true
  · rw [if_pos hbad]
    exact .inr ⟨n, rest, hheader, .inr (.inl ⟨hzero, hbad, rfl⟩)⟩
  rw [if_neg hbad]
  by_cases hshort : rest.length < n.toNat
  · rw [if_pos hshort]
    exact .inl ⟨_, rfl⟩
  · rw [if_neg hshort]
    exact .inr ⟨n, rest, hheader, .inr (.inr ⟨hzero, hbad, Nat.not_lt.mp hshort, rfl⟩)⟩

/-- A frame takes at least one byte. -/
theorem length_of_readFrame (h : readFrame s = .message body rest) : rest.length < s.length := by
  rcases readFrame_cases s with ⟨begun, hpartly⟩ | ⟨n, behind, hheader, hcases⟩
  · rw [hpartly] at h
    contradiction
  rcases hcases with ⟨-, hread⟩ | ⟨-, -, hread⟩ | ⟨-, -, -, hread⟩
  · rw [hread] at h
    contradiction
  · rw [hread] at h
    contradiction
  · rw [hread, FrameReading.message.injEq] at h
    rw [← h.2, List.length_drop]
    exact Nat.lt_of_le_of_lt (Nat.sub_le _ _) (length_of_readHeader hheader)

end Reading

/-- How the reading of a stream ends. -/
inductive StreamEnd where
  /-- There is no further message. -/
  | finished
  /-- The stream ends inside a message. -/
  | truncated
  /-- A header without a length. -/
  | noLength
  /-- A header with a length that no message can have. -/
  | badLength
  /-- A message asked for the end, with an exit code. -/
  | exit (code : Nat)
deriving DecidableEq, Repr, Inhabited

/-- What it means that a stream ends behind some bytes that are no whole frame. -/
def endOfStream (pending : Bytes) : StreamEnd :=
  match readFrame pending with
  | .partly true => .truncated
  | .noLength => .noLength
  | .badLength => .badLength
  | _ => .finished

/-- The wording of an end that is an error. -/
def StreamEnd.message? : StreamEnd → Option Bytes
  | truncated => some "unexpected EOF"
  | noLength => some "missing Content-Length"
  | badLength => some "Content-Length out of range"
  | _ => none

end KeyScript
