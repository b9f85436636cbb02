import Mathlib.Tactic.Common
import KeyScript.Script.Result

/-!
# The lines of a source

A source delivers its bytes in chunks, and a line is read across as many chunks as it takes. The
lines that come out are those of the joined bytes: splitting a text and reading it line by line are
the same.

## Main definitions

- `Source.bytes` — all bytes of a source
- `Source.lines` — the lines that a source delivers before it ends
- `Decoder.unread` — the lines that a decoder has still to read

## Main results

- `splitLines_eq_cut` — the first line of a text and the lines behind it
- `splitLines_joinWith_cons` — the same for lines that were joined
- `Bytes.splitAt_unlines` — splitting undoes writing lines one after the other
- `Source.lines_of_readLine_some` — reading takes the first line
- `Decoder.unread_of_fetch_some`, `Decoder.unread_of_fetch_none` — so does a decoder
-/

namespace KeyScript

namespace Bytes

/-- A cut in joined byte strings is a cut in the first, if it holds the byte, and otherwise in the
second. -/
theorem cut_append (b : UInt8) (s t : Bytes) :
    cut b (s ++ t) =
      match cut b s with
      | (before, some after) => (before, some (after ++ t))
      | (before, none) => (before ++ (cut b t).1, (cut b t).2) := by
  induction s with
  | nil => rfl
  | cons c s ih =>
    rw [List.cons_append, cut, cut]
    split
    · rfl
    · rw [ih]
      rcases cut b s with ⟨before, _ | after⟩ <;> rfl

/-- What is cut at a byte is the part before it, the byte and the part after it. -/
theorem eq_append_of_cut {b : UInt8} {s before after : Bytes}
    (h : cut b s = (before, some after)) : s = before ++ b :: after := by
  induction s generalizing before with
  | nil => simp [cut] at h
  | cons c s ih =>
    rw [cut] at h
    split at h
    · next hc =>
      simp only [Prod.mk.injEq, Option.some.injEq] at h
      rw [hc, ← h.1, ← h.2, List.nil_append]
    · simp only [Prod.mk.injEq] at h
      rw [← h.1, List.cons_append, ← ih (Prod.ext rfl h.2)]

theorem cut_of_notMem {b : UInt8} {s : Bytes} (h : b ∉ s) : s.cut b = (s, none) := by
  induction s with
  | nil => rfl
  | cons c s ih =>
    rw [List.mem_cons, not_or] at h
    rw [cut, if_neg (Ne.symm h.1), ih h.2]

theorem dropEnd_singleton (s : Bytes) (b : UInt8) :
    s.dropEnd [b] = if s.getLast? = some b then s.dropLast else s := by
  simp only [dropEnd, List.isSuffixOf_iff_suffix, List.singleton_suffix_iff_getLast?_eq_some,
    List.dropLast_eq_take]
  rfl

/-- Whether an ending of one byte stands at the end does not depend on the bytes before the last. -/
theorem dropEnd_cons {s : Bytes} (hs : s ≠ []) (c b : UInt8) :
    dropEnd (c :: s) [b] = c :: s.dropEnd [b] := by
  rw [dropEnd_singleton, dropEnd_singleton, List.getLast?_cons_of_ne_nil hs,
    List.dropLast_cons_of_ne_nil hs]
  split <;> rfl

theorem dropEnd_append {t : Bytes} (ht : t ≠ []) (s : Bytes) (b : UInt8) :
    dropEnd (s ++ t) [b] = s ++ t.dropEnd [b] := by
  induction s with
  | nil => rfl
  | cons c s ih => rw [List.cons_append, dropEnd_cons (by simp [ht]), ih, List.cons_append]

theorem splitAt_ne_nil (b : UInt8) (s : Bytes) : splitAt b s ≠ [] := by
  cases s with
  | nil => simp [splitAt]
  | cons c s =>
    rw [splitAt]
    split
    · simp
    · split <;> simp

/-- No piece holds the byte at which the pieces were divided. -/
theorem notMem_of_mem_splitAt {b : UInt8} {s piece : Bytes} (h : piece ∈ splitAt b s) :
    b ∉ piece := by
  induction s generalizing piece with
  | nil => simp_all [splitAt]
  | cons c s ih =>
    rw [splitAt] at h
    split at h
    · rcases List.mem_cons.mp h with rfl | h
      · simp
      · exact ih h
    next hc =>
    split at h
    · next first pieces hsplit =>
      rcases List.mem_cons.mp h with rfl | h
      · rw [List.mem_cons, not_or]
        exact ⟨Ne.symm hc, ih (by simp [hsplit])⟩
      · exact ih (by simp [hsplit, h])
    · next hsplit => exact absurd hsplit (splitAt_ne_nil _ _)

/-- Pieces that are joined with the byte at which they were divided give the whole again. -/
theorem joinWith_splitAt (b : UInt8) (s : Bytes) : joinWith [b] (splitAt b s) = s := by
  induction s with
  | nil => rfl
  | cons c s ih =>
    obtain ⟨first, pieces, hsplit⟩ := List.exists_cons_of_ne_nil (splitAt_ne_nil b s)
    rw [hsplit] at ih
    by_cases hc : c = b
    · rw [splitAt, if_pos hc, hsplit, joinWith, ih, hc]
      rfl
    · rw [splitAt, if_neg hc, hsplit]
      cases pieces with
      | nil => exact congrArg (c :: ·) ih
      | cons second pieces =>
        rw [joinWith] at ih ⊢
        exact congrArg (c :: ·) ih

theorem splitAt_of_notMem {b : UInt8} {s : Bytes} (h : b ∉ s) : splitAt b s = [s] := by
  induction s with
  | nil => rfl
  | cons c s ih =>
    rw [List.mem_cons, not_or] at h
    rw [splitAt, if_neg (Ne.symm h.1), ih h.2]

/-- There is one piece more than there are places to cut. -/
theorem length_splitAt (b : UInt8) (s : Bytes) : (splitAt b s).length = s.count b + 1 := by
  induction s with
  | nil => rfl
  | cons c s ih =>
    rw [splitAt]
    split
    next h => rw [List.length_cons, ih, h, List.count_cons_self]
    next h =>
      rw [List.count_cons_of_ne h, ← ih]
      split <;> simp_all

theorem splitAt_append_cons {b : UInt8} {s : Bytes} (h : b ∉ s) (t : Bytes) :
    splitAt b (s ++ b :: t) = s :: splitAt b t := by
  induction s with
  | nil => rw [List.nil_append, splitAt, if_pos rfl]
  | cons c s ih =>
    rw [List.mem_cons, not_or] at h
    rw [List.cons_append, splitAt, if_neg (Ne.symm h.1), ih h.2]

/-- Splitting at line feeds gives back lines that were each written with one behind it. -/
theorem splitAt_unlines {lines : List Bytes} (h : ∀ line ∈ lines, lineFeed ∉ line) :
    splitAt lineFeed (unlines lines) = lines ++ [[]] := by
  induction lines with
  | nil => rfl
  | cons line lines ih =>
    have hrest := ih fun line hline => h line (List.mem_cons_of_mem _ hline)
    rw [unlines, List.flatMap_cons, List.append_assoc, List.singleton_append,
      splitAt_append_cons (h line List.mem_cons_self)]
    exact congrArg (line :: ·) hrest

end Bytes

section SplitLines

open Bytes (lineFeed carriageReturn)

theorem splitLines_ne_nil (text : Bytes) : splitLines text ≠ [] := Bytes.splitAt_ne_nil _ _

theorem splitLines_lineFeed_cons (text : Bytes) :
    splitLines (lineFeed :: text) = [] :: splitLines text := by
  have hne : lineFeed ≠ carriageReturn := by decide
  rw [splitLines, unifyLineEnds, if_neg fun h => hne h.1, Bytes.splitAt, if_pos rfl]
  rfl

/-- A carriage return directly before a line feed is not part of a line. -/
theorem splitLines_carriageReturn_lineFeed (text : Bytes) :
    splitLines (carriageReturn :: lineFeed :: text) = [] :: splitLines text := by
  rw [splitLines, unifyLineEnds, if_pos ⟨rfl, rfl⟩]
  exact splitLines_lineFeed_cons text

/-- Any other byte belongs to the first line. -/
theorem splitLines_cons {c : UInt8} {text line : Bytes} {lines : List Bytes}
    (hfeed : c ≠ lineFeed) (hreturn : ¬(c = carriageReturn ∧ text.head? = some lineFeed))
    (h : splitLines text = line :: lines) : splitLines (c :: text) = (c :: line) :: lines := by
  rw [splitLines] at h ⊢
  rw [unifyLineEnds, if_neg hreturn, Bytes.splitAt, if_neg hfeed, h]

/-- The first line of a text and the lines behind it. Reading a line and splitting the whole text
take the same bytes for the end of a line. -/
theorem splitLines_eq_cut (text : Bytes) :
    splitLines text =
      match text.cut lineFeed with
      | (line, some rest) => line.dropEnd [carriageReturn] :: splitLines rest
      | (line, none) => [line] := by
  induction text with
  | nil => rfl
  | cons c text ih =>
    by_cases hfeed : c = lineFeed
    · subst hfeed
      rw [splitLines_lineFeed_cons, Bytes.cut, if_pos rfl]
      rfl
    rw [Bytes.cut, if_neg hfeed]
    by_cases hreturn : c = carriageReturn ∧ text.head? = some lineFeed
    · obtain ⟨rfl, hhead⟩ := hreturn
      obtain ⟨text, rfl⟩ : ∃ rest, text = lineFeed :: rest := by
        cases text with
        | nil => simp at hhead
        | cons d text => exact ⟨text, by simpa using hhead⟩
      rw [splitLines_carriageReturn_lineFeed, Bytes.cut, if_pos rfl]
      rfl
    · rcases hcut : Bytes.cut lineFeed text with ⟨line, _ | rest⟩
      · rw [hcut] at ih
        exact splitLines_cons hfeed hreturn ih
      · rw [hcut] at ih
        have hline : Bytes.dropEnd (c :: line) [carriageReturn] =
            c :: line.dropEnd [carriageReturn] := by
          cases line with
          | nil =>
            -- The line feed is next, so this byte is no carriage return.
            have hhead : text.head? = some lineFeed := by
              rw [Bytes.eq_append_of_cut hcut]
              rfl
            have hc : c ≠ carriageReturn := fun hc => hreturn ⟨hc, hhead⟩
            rw [Bytes.dropEnd_singleton, if_neg (by simp [hc])]
            rfl
          | cons d line => exact Bytes.dropEnd_cons (by simp) c _
        rw [splitLines_cons hfeed hreturn ih, ← hline]

theorem splitLines_of_notMem {line : Bytes} (h : lineFeed ∉ line) : splitLines line = [line] := by
  rw [splitLines_eq_cut, Bytes.cut_of_notMem h]

/-- A line in front of others loses a carriage return at its end to the line feed behind it. -/
theorem splitLines_joinWith_cons {line : Bytes} (h : lineFeed ∉ line) (next : Bytes)
    (rest : List Bytes) :
    splitLines (Bytes.joinWith [lineFeed] (line :: next :: rest)) =
      line.dropEnd [carriageReturn] :: splitLines (Bytes.joinWith [lineFeed] (next :: rest)) := by
  have hcut : Bytes.cut lineFeed (Bytes.joinWith [lineFeed] (line :: next :: rest)) =
      (line, some (Bytes.joinWith [lineFeed] (next :: rest))) := by
    rw [Bytes.joinWith, List.append_assoc, Bytes.cut_append, Bytes.cut_of_notMem h,
      List.singleton_append, Bytes.cut, if_pos rfl]
    simp only [List.append_nil]
  rw [splitLines_eq_cut, hcut]

/-- The lines of a text hold no line feed. -/
theorem lineFeed_notMem_of_mem_splitLines {text line : Bytes} (h : line ∈ splitLines text) :
    lineFeed ∉ line :=
  Bytes.notMem_of_mem_splitAt h

end SplitLines

namespace Source

/-- All bytes that a source delivers. -/
def bytes (s : Source) : Bytes := s.chunks.flatten

/-- The lines that a source delivers: every line that is ended by a line feed and, if the source
reports the end of the file, what follows the last line feed. -/
def lines (s : Source) : List Bytes :=
  match s.ending with
  | .endOfFile | .failureAtEnd _ => splitLines s.bytes
  | .failure _ => (splitLines s.bytes).dropLast

/-- Taking a line out of chunks is cutting their joined bytes. -/
theorem takeLine_eq_cut (chunks : List Bytes) :
    Bytes.cut Bytes.lineFeed chunks.flatten =
      ((takeLine chunks).1, (takeLine chunks).2.map List.flatten) := by
  induction chunks with
  | nil => rfl
  | cons chunk chunks ih =>
    rw [List.flatten_cons, Bytes.cut_append, takeLine]
    rcases Bytes.cut Bytes.lineFeed chunk with ⟨before, _ | after⟩
    · simp only [ih]
    · simp

/-- Reading a line that is ended by a line feed takes the first line of the text. -/
theorem splitLines_of_readLine_some {s t : Source} {line : Bytes}
    (h : s.readLine = (line, some t)) :
    splitLines s.bytes = line :: splitLines t.bytes ∧ t.ending = s.ending := by
  have hcut := takeLine_eq_cut s.chunks
  unfold readLine at h
  rcases htake : takeLine s.chunks with ⟨taken, _ | chunks⟩
  · simp [htake] at h
  · simp only [htake, Prod.mk.injEq, Option.some.injEq] at h
    obtain ⟨rfl, rfl⟩ := h
    rw [htake] at hcut
    rw [splitLines_eq_cut, bytes, hcut]
    exact ⟨rfl, rfl⟩

/-- Where no line feed is left, the rest of the text is its only line. -/
theorem splitLines_of_readLine_none {s : Source} {line : Bytes} (h : s.readLine = (line, none)) :
    splitLines s.bytes = [line] := by
  have hcut := takeLine_eq_cut s.chunks
  unfold readLine at h
  rcases htake : takeLine s.chunks with ⟨taken, _ | chunks⟩
  · simp only [htake, Prod.mk.injEq, and_true] at h
    rw [htake] at hcut
    rw [splitLines_eq_cut, bytes, hcut, ← h]
    rfl
  · simp [htake] at h

/-- Reading a line that is ended by a line feed takes the first line that the source delivers. -/
theorem lines_of_readLine_some {s t : Source} {line : Bytes} (h : s.readLine = (line, some t)) :
    s.lines = line :: t.lines := by
  obtain ⟨hsplit, hending⟩ := splitLines_of_readLine_some h
  rw [lines, lines, hending, hsplit]
  cases s.ending with
  | endOfFile | failureAtEnd => rfl
  | failure message => exact List.dropLast_cons_of_ne_nil (splitLines_ne_nil _)

end Source

namespace Decoder

/-- The lines that a decoder has still to read. -/
def unread (d : Decoder) : List Bytes := if d.ended then [] else d.source.lines

/-- A decoder fetches nothing only when no line is left. -/
theorem unread_of_fetch_none {d : Decoder} (h : d.fetch = none) : d.unread = [] := by
  unfold fetch at h
  rw [unread]
  split
  · rfl
  · next hopen =>
    rw [if_neg hopen] at h
    rcases hread : d.source.readLine with ⟨line, _ | source⟩
    · rw [hread] at h
      cases hending : d.source.ending with
      | endOfFile | failureAtEnd => simp [hending, Ending.isEndOfFile] at h
      | failure message =>
        rw [Source.lines, hending, Source.splitLines_of_readLine_none hread]
        rfl
    · simp [hread] at h

/-- Fetching takes the first line that is left, counts it, and changes nothing else. -/
theorem unread_of_fetch_some {d next : Decoder} {line : Bytes} (h : d.fetch = some (line, next)) :
    d.unread = line :: next.unread ∧ next.source.ending = d.source.ending ∧
      next = { d with source := next.source, ended := next.ended, line := d.line + 1 } := by
  unfold fetch at h
  split at h
  · simp at h
  · next hopen =>
    rw [unread, if_neg hopen]
    rcases hread : d.source.readLine with ⟨taken, _ | source⟩
    · rw [hread] at h
      cases hending : d.source.ending with
      | failure message => simp [hending, Ending.isEndOfFile] at h
      | endOfFile | failureAtEnd =>
        simp only [hending, Ending.isEndOfFile, if_true, Option.some.injEq, Prod.mk.injEq] at h
        obtain ⟨rfl, rfl⟩ := h
        refine ⟨?_, rfl, rfl⟩
        rw [Source.lines, hending, Source.splitLines_of_readLine_none hread]
        rfl
    · simp only [hread, Option.some.injEq, Prod.mk.injEq] at h
      obtain ⟨rfl, rfl⟩ := h
      refine ⟨?_, (Source.splitLines_of_readLine_some hread).2, rfl⟩
      rw [Source.lines_of_readLine_some hread, unread, if_neg hopen]

end Decoder

end KeyScript
