import Mathlib.Data.List.Basic
import KeyScript.Proofs.Text.Columns
import KeyScript.Script.Line

/-!
# Cutting lines at words

A line that is cut at the first column of a word keeps exactly the bytes before the word, and cut at
the column behind the word it keeps the word as well. Both hold for any bytes, because a column
between two characters belongs to one place only. What stands on either side of a gap can be taken
apart: its words are the words of the one side and then those of the other.

## Main definitions

- `LocatedWord.IsCut` — a located word between the bytes before and behind it

## Main results

- `locateWords_append_of_head`, `locateWords_append_of_getLast` — the words on both sides of a gap
- `exists_isCut` — every word of a line is cut out of it
- `wordsAt_cuts` — the words of a line, their columns, and the line cut there
-/

namespace KeyScript

section TakeUnits

theorem takeUnits_unitsOf_append (rs ts : List Rune) : takeUnits (unitsOf rs) (rs ++ ts) = rs := by
  induction rs with
  | nil =>
    cases ts with
    | nil => rfl
    | cons t ts =>
      have hpos := t.units_pos
      rw [List.nil_append, takeUnits, if_neg (by rw [unitsOf_nil]; omega)]
  | cons r rs ih =>
    rw [List.cons_append, takeUnits, unitsOf, if_pos (by omega), Nat.add_sub_cancel_left, ih]

/-- A column between two characters belongs to one place only. -/
theorem Bytes.takeUnits_unitsOf {s : Bytes} {pre post : List Rune} (h : runes s = pre ++ post) :
    s.takeUnits (unitsOf pre) = Rune.join pre := by
  rw [Bytes.takeUnits, h, Int.toNat_natCast, takeUnits_unitsOf_append]

end TakeUnits

section Append

variable {sep : Char → Bool} {rs ts : List Rune}

theorem IsWordSequence.locateWords_joinParts_append {parts : List (List Rune × List Rune)}
    (h : IsWordSequence sep parts) (hts : ∀ r ∈ ts.head?, sep r.char = true) (col : Nat) :
    locateWords sep col (joinParts parts ++ ts) =
      locateParts col parts ++ locateWords sep (col + unitsOf (joinParts parts)) ts := by
  induction parts generalizing col with
  | nil => rfl
  | cons p parts ih =>
    obtain ⟨word, gap⟩ := p
    have hgap := h.head_gap
    obtain ⟨hne, hword, hsep, -, hparts⟩ := h
    have hbehind : ∀ r ∈ (gap ++ (joinParts parts ++ ts)).head?, sep r.char = true := by
      rw [← List.append_assoc]
      cases hjoin : gap ++ joinParts parts with
      | nil => exact hts
      | cons s rest => simpa [hjoin] using hgap
    have hcol : col + unitsOf (joinParts ((word, gap) :: parts)) =
        col + unitsOf word + unitsOf gap + unitsOf (joinParts parts) := by
      rw [joinParts_cons, unitsOf_append, unitsOf_append]
      omega
    rw [hcol, joinParts_cons, List.append_assoc, List.append_assoc,
      locateWords_word_append hne hword hbehind, locateWords_gap_append hsep, ih hparts,
      locateParts, List.cons_append]

/-- Words are located apart on both sides of a place where a gap begins. -/
theorem locateWords_append_of_head (hts : ∀ r ∈ ts.head?, sep r.char = true) (col : Nat)
    (rs : List Rune) :
    locateWords sep col (rs ++ ts) =
      locateWords sep col rs ++ locateWords sep (col + unitsOf rs) ts := by
  obtain ⟨lead, parts, hlead, hparts, rfl⟩ := Division.ofRunes sep rs
  rw [List.append_assoc, locateWords_gap_append hlead, locateWords_gap_append hlead,
    hparts.locateWords_joinParts_append hts, hparts.locateWords_joinParts, unitsOf_append,
    Nat.add_assoc]

/-- A gap at the end adds no word. -/
theorem locateWords_append_gap {gap : List Rune} (hgap : ∀ r ∈ gap, sep r.char = true) (col : Nat)
    (rs : List Rune) : locateWords sep col (rs ++ gap) = locateWords sep col rs := by
  have hhead : ∀ r ∈ gap.head?, sep r.char = true := by
    intro r hr
    exact hgap r (List.mem_of_mem_head? hr)
  have hnone : locateWords sep (col + unitsOf rs) gap = [] := by
    simpa [locateWords] using locateWords_gap_append hgap (col + unitsOf rs) []
  rw [locateWords_append_of_head hhead, hnone, List.append_nil]

/-- Words are located apart on both sides of a place where a gap ends. -/
theorem locateWords_append_of_getLast (hrs : ∀ r ∈ rs.getLast?, sep r.char = true) (col : Nat)
    (ts : List Rune) :
    locateWords sep col (rs ++ ts) =
      locateWords sep col rs ++ locateWords sep (col + unitsOf rs) ts := by
  rcases List.eq_nil_or_concat' rs with rfl | ⟨front, r, rfl⟩
  · rfl
  · have hgap : ∀ s ∈ [r], sep s.char = true := by simpa using hrs
    have hhead : ∀ s ∈ ([r] ++ ts).head?, sep s.char = true := by simpa using hrs
    -- The gap may be counted to what stands behind it as well as to what stands before it.
    rw [locateWords_append_gap hgap, List.append_assoc, locateWords_append_of_head hhead,
      locateWords_gap_append hgap, unitsOf_append, Nat.add_assoc]

theorem wordRuns_append_of_getLast (hrs : ∀ r ∈ rs.getLast?, sep r.char = true) (ts : List Rune) :
    wordRuns sep (rs ++ ts) = wordRuns sep rs ++ wordRuns sep ts := by
  rw [← map_run_locateWords sep 0, locateWords_append_of_getLast hrs, List.map_append,
    map_run_locateWords, map_run_locateWords]

end Append

namespace IsWordSequence

variable {sep : Char → Bool} {front back : List (List Rune × List Rune)}

theorem of_append (h : IsWordSequence sep (front ++ back)) :
    IsWordSequence sep front ∧ IsWordSequence sep back := by
  induction front with
  | nil => exact ⟨trivial, h⟩
  | cons p front ih =>
    obtain ⟨hne, hword, hsep, hgap, hrest⟩ := h
    obtain ⟨hfront, hback⟩ := ih hrest
    refine ⟨⟨hne, hword, hsep, ?_, hfront⟩, hback⟩
    intro hmore
    exact hgap (List.append_ne_nil_of_left_ne_nil hmore back)

/-- Before a word there is a gap or nothing. -/
theorem getLast_joinParts (h : IsWordSequence sep (front ++ back)) (hback : back ≠ []) :
    ∀ r ∈ (joinParts front).getLast?, sep r.char = true := by
  induction front with
  | nil => simp
  | cons p front ih =>
    obtain ⟨word, gap⟩ := p
    obtain ⟨-, -, hsep, hgap, hrest⟩ := h
    have hne : gap ++ joinParts front ≠ [] := by
      apply List.append_ne_nil_of_left_ne_nil
      exact hgap (List.append_ne_nil_of_right_ne_nil front hback)
    intro r hr
    rw [joinParts_cons, List.getLast?_append, Option.mem_def] at hr
    rcases Option.or_eq_some_iff.mp hr with hr | ⟨hnone, -⟩
    · rw [List.getLast?_append] at hr
      rcases Option.or_eq_some_iff.mp hr with hr | ⟨-, hr⟩
      · exact ih hrest r hr
      · exact hsep r (List.mem_of_getLast? hr)
    · exact absurd (List.getLast?_eq_none_iff.mp hnone) hne

end IsWordSequence

section Cuts

variable {sep : Char → Bool} {line before behind : Bytes} {w : LocatedWord}

/-- A located word is cut out of a line: the bytes of the line are those before the word, the word
and those behind it, the columns of the word are those of the two places, and on both sides of the
word there is a gap or nothing. -/
structure LocatedWord.IsCut (sep : Char → Bool) (line : Bytes) (w : LocatedWord)
    (before behind : Bytes) : Prop where
  line_eq : line = before ++ (w.text ++ behind)
  start_eq : w.start = before.units
  finish_eq : w.finish = before.units + w.text.units
  takeUnits_start : line.takeUnits w.start = before
  takeUnits_finish : line.takeUnits w.finish = before ++ w.text
  getLast_before : ∀ r ∈ (runes before).getLast?, sep r.char = true
  head_behind : ∀ r ∈ (runes behind).head?, sep r.char = true

theorem getElem?_locateParts (col : Nat) (parts : List (List Rune × List Rune)) (i : Nat) :
    (locateParts col parts)[i]? = parts[i]?.map fun p =>
      ⟨p.1, col + unitsOf (joinParts (parts.take i)),
        col + unitsOf (joinParts (parts.take i)) + unitsOf p.1⟩ := by
  induction parts generalizing col i with
  | nil => rfl
  | cons p parts ih =>
    obtain ⟨word, gap⟩ := p
    cases i with
    | zero => rfl
    | succ i =>
      have hcol : col + unitsOf word + unitsOf gap + unitsOf (joinParts (parts.take i)) =
          col + unitsOf (joinParts (((word, gap) :: parts).take (i + 1))) := by
        rw [List.take_succ_cons, joinParts_cons, unitsOf_append, unitsOf_append]
        omega
      rw [locateParts, List.getElem?_cons_succ, ih, hcol, List.getElem?_cons_succ]

/-- The characters around a located word, with the words among them. -/
theorem exists_append_of_getElem?_locateWords {rs : List Rune} {i : Nat}
    (h : (locateWords sep 0 rs)[i]? = some w) :
    ∃ front back, rs = front ++ (w.run ++ back) ∧
      (w.start = unitsOf front ∧ w.finish = unitsOf front + unitsOf w.run) ∧
      (∀ r ∈ front.getLast?, sep r.char = true) ∧ (∀ r ∈ back.head?, sep r.char = true) ∧
      wordRuns sep front = (wordRuns sep rs).take i ∧
      wordRuns sep back = (wordRuns sep rs).drop (i + 1) := by
  obtain ⟨lead, parts, hlead, hparts, rfl⟩ := Division.ofRunes sep rs
  have hwords : wordRuns sep (lead ++ joinParts parts) = parts.map Prod.fst := by
    rw [wordRuns_gap_append hlead, hparts.wordRuns_joinParts]
  rw [locateWords_gap_append hlead, hparts.locateWords_joinParts, getElem?_locateParts] at h
  obtain ⟨⟨word, gap⟩, hpart, rfl⟩ := Option.map_eq_some_iff.mp h
  obtain ⟨hi, hget⟩ := List.getElem?_eq_some_iff.mp hpart
  have hsplit : parts = parts.take i ++ (word, gap) :: parts.drop (i + 1) := by
    rw [← hget, ← List.drop_eq_getElem_cons hi, List.take_append_drop]
  have hsequence := hparts
  rw [hsplit] at hsequence
  obtain ⟨hfront, hback⟩ := hsequence.of_append
  rw [hwords, ← List.map_take, ← List.map_drop]
  refine ⟨lead ++ joinParts (parts.take i), gap ++ joinParts (parts.drop (i + 1)), ?_, ?_, ?_,
    hback.head_gap, ?_, ?_⟩
  · conv_lhs => rw [hsplit]
    simp only [joinParts, List.flatMap_append, List.flatMap_cons, List.append_assoc]
  · rw [unitsOf_append, Nat.zero_add]
    exact ⟨rfl, rfl⟩
  · intro r hr
    rw [List.getLast?_append, Option.mem_def] at hr
    rcases Option.or_eq_some_iff.mp hr with hr | ⟨-, hr⟩
    · exact hsequence.getLast_joinParts (by simp) r hr
    · exact hlead r (List.mem_of_getLast? hr)
  · rw [wordRuns_gap_append hlead, hfront.wordRuns_joinParts]
  · rw [wordRuns_gap_append hback.2.2.1, hback.2.2.2.2.wordRuns_joinParts]

/-- Every word of a line is cut out of it, between the words before and the words behind it. -/
theorem exists_isCut {i : Nat} (h : (line.wordsAt sep)[i]? = some w) :
    ∃ before behind, w.IsCut sep line before behind ∧
      before.words sep = (line.words sep).take i ∧
      behind.words sep = (line.words sep).drop (i + 1) := by
  obtain ⟨front, back, hsplit, ⟨hstart, hfinish⟩, hlast, hhead, htake, hdrop⟩ :=
    exists_append_of_getElem?_locateWords h
  have hjoint : runes line = (front ++ w.run) ++ back := by rw [hsplit, List.append_assoc]
  -- The line is cut between characters, so every piece keeps its own.
  have hfront : runes (Rune.join front) = front := runes_join_left hsplit
  have hback : runes (Rune.join back) = back := runes_join_right hjoint
  have hword : runes w.text = w.run := runes_join_piece ⟨front, back, hjoint.symm⟩
  refine ⟨Rune.join front, Rune.join back, ⟨?_, ?_, ?_, ?_, ?_, ?_, ?_⟩, ?_, ?_⟩
  · rw [LocatedWord.text, ← Rune.join_append, ← Rune.join_append, ← hsplit, join_runes]
  · rw [hstart, Bytes.units, hfront]
  · rw [hfinish, Bytes.units, Bytes.units, hfront, hword]
  · rw [hstart, Bytes.takeUnits_unitsOf hsplit]
  · rw [hfinish, ← unitsOf_append, Bytes.takeUnits_unitsOf hjoint, Rune.join_append]
    rfl
  · rwa [hfront]
  · rwa [hback]
  · rw [Bytes.words, hfront, htake, List.map_take]
    rfl
  · rw [Bytes.words, hback, hdrop, List.map_drop]
    rfl

end Cuts

section Replacement

/-- A line with a new text in place of the columns from `start` up to `finish`. -/
def Bytes.replaceUnits (line : Bytes) (start finish : Int) (new : Bytes) : Bytes :=
  line.takeUnits start ++ (new ++ line.drop (line.takeUnits finish).length)

variable {sep : Char → Bool} {line before behind new : Bytes} {w : LocatedWord}

theorem LocatedWord.IsCut.replaceUnits_eq (h : w.IsCut sep line before behind) (new : Bytes) :
    line.replaceUnits w.start w.finish new = before ++ (new ++ behind) := by
  rw [Bytes.replaceUnits, h.takeUnits_start, h.takeUnits_finish]
  congr 2
  rw [h.line_eq, ← List.append_assoc, List.drop_left]

/-- Bytes in ASCII that hold no separator, between bytes that end with a gap and bytes that begin
with one, are a word of their own. -/
theorem words_append_ascii (hne : new ≠ [])
    (hplain : new.all (fun b => b < 0x80 && !sep (Char.ofNat b.toNat)) = true)
    (hbefore : ∀ r ∈ (runes before).getLast?, sep r.char = true)
    (hbehind : ∀ r ∈ (runes behind).head?, sep r.char = true) :
    (before ++ (new ++ behind)).words sep = before.words sep ++ new :: behind.words sep := by
  simp only [List.all_eq_true, Bool.and_eq_true, decide_eq_true_eq, Bool.not_eq_true'] at hplain
  have hascii : ∀ b ∈ new, b < 0x80 := fun b hb => (hplain b hb).1
  have hnew := runes_ascii_append hascii behind
  have hruns : runes (before ++ (new ++ behind)) =
      runes before ++ (new.map (fun b => ⟨Char.ofNat b.toNat, [b]⟩) ++ runes behind) := by
    rw [← hnew]
    obtain ⟨b, rest, rfl⟩ := List.exists_cons_of_ne_nil hne
    exact runes_append_ascii (hascii b List.mem_cons_self) before (rest ++ behind)
  have hword : ∀ r ∈ new.map (fun b : UInt8 => (⟨Char.ofNat b.toNat, [b]⟩ : Rune)),
      sep r.char = false := by
    intro r hr
    obtain ⟨b, hb, rfl⟩ := List.mem_map.mp hr
    exact (hplain b hb).2
  rw [Bytes.words, hruns, wordRuns_append_of_getLast hbefore,
    wordRuns_word_append (by simpa using hne) hword hbehind, List.map_append, List.map_cons]
  congr 2
  simp [Rune.join, List.flatMap_map]

end Replacement

/-- The located words of a line are the words of the line without the blanks around it. Cut at the
first column of a word, the line keeps the bytes before the word, with the words before it; cut at
the column behind the word, it keeps the word too, and the words behind it are left. Words are as
wide as they are long, come one behind the other with at least one unit between them, and end inside
the line. -/
theorem wordsAt_cuts (line : Bytes) :
    let located := line.wordsAt isBlank
    let words := (line.trim isBlank).words isBlank
    located.map LocatedWord.text = words ∧
    (∀ (i : Nat) w, located[i]? = some w → ∃ before behind : Bytes,
      line = before ++ (w.text ++ behind) ∧
      before.words isBlank = words.take i ∧ behind.words isBlank = words.drop (i + 1) ∧
      line.takeUnits w.start = before ∧ line.takeUnits w.finish = before ++ w.text ∧
      (w.finish - w.start : Int) = w.text.units) ∧
    (located.Pairwise fun v w => v.finish < w.start) ∧
    ∀ w ∈ located.getLast?, w.finish ≤ line.units := by
  intro located words
  have hwords : words = line.words isBlank := words_trim isBlank line
  rw [hwords]
  refine ⟨map_text_wordsAt isBlank line, ?_, pairwise_lt_wordsAt isBlank line, ?_⟩
  · intro i w hw
    obtain ⟨before, behind, hcut, hbefore, hbehind⟩ := exists_isCut hw
    have hunits : (w.finish - w.start : Int) = w.text.units := by
      rw [hcut.start_eq, hcut.finish_eq]
      omega
    exact ⟨before, behind, hcut.line_eq, hbefore, hbehind, hcut.takeUnits_start,
      hcut.takeUnits_finish, hunits⟩
  · intro w hw
    exact (w.bounds_of_mem_wordsAt (List.mem_of_getLast? hw)).2

/-- A byte order mark, a word of two units and three bytes that are no character, and more. -/
def wideLine : Bytes :=
  ("\uFEFFalt 🦆" : Bytes) ++ ([0xFF, 0xE2, 0x80] : Bytes) ++ ("\u2003x" : Bytes)

/-- The second word of this line begins at column 5 and takes five units. -/
theorem wordsAt_cuts_wide :
    let w : LocatedWord := ⟨runes (("🦆" : Bytes) ++ ([0xFF, 0xE2, 0x80] : Bytes)), 5, 10⟩
    let words := (wideLine.trim isBlank).words isBlank
    (wideLine.wordsAt isBlank)[1]? = some w ∧ ∃ before behind : Bytes,
      wideLine = before ++ (w.text ++ behind) ∧
      before.words isBlank = words.take 1 ∧ behind.words isBlank = words.drop 2 ∧
      wideLine.takeUnits 5 = before ∧ wideLine.takeUnits 10 = before ++ w.text ∧
      (10 - 5 : Int) = w.text.units :=
  ⟨by decide, (wordsAt_cuts wideLine).2.1 1 _ (by decide)⟩

end KeyScript
