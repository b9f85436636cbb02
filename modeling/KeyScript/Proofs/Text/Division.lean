import Mathlib.Data.List.TakeWhile
import KeyScript.Proofs.Text.Runes
import KeyScript.Text.Words

/-!
# Words and gaps

A division shows a list of characters as words and the gaps around them: a gap, then words with a
gap behind each. Words are not empty and hold no separator, gaps hold nothing else, and two words
have something between them, so the words of a division are the maximal runs of characters that are
not separators. Every list has a division, and what the functions on words compute can be read off
from any of its divisions.

## Main definitions

- `Division` — words and gaps that make up a list of characters
- `Division.ofRunes` — a division of a given list
- `Division.words`, `Division.fromSecondWord` — its words, and what follows from its second word on

## Main results

- `wordRuns_eq_words` — `wordRuns` gives the words of every division
- `afterFirstWord_eq_fromSecondWord` — `afterFirstWord` gives what follows from the second word on
- `words_trim` — blanks around a byte string do not change its words
-/

namespace KeyScript

/-- Words, each with the gap behind it. Only the last gap may be empty. -/
def IsWordSequence (sep : Char → Bool) : List (List Rune × List Rune) → Prop
  | [] => True
  | (word, gap) :: parts =>
    word ≠ [] ∧ (∀ r ∈ word, sep r.char = false) ∧ (∀ r ∈ gap, sep r.char = true) ∧
      (parts ≠ [] → gap ≠ []) ∧ IsWordSequence sep parts

/-- The characters of words and of the gaps behind them. -/
def joinParts (parts : List (List Rune × List Rune)) : List Rune :=
  parts.flatMap fun p => p.1 ++ p.2

@[simp] theorem joinParts_nil : joinParts [] = [] := rfl

@[simp] theorem joinParts_cons (word gap : List Rune) (parts : List (List Rune × List Rune)) :
    joinParts ((word, gap) :: parts) = word ++ (gap ++ joinParts parts) := by
  simp [joinParts]

/-- A list of characters as a gap followed by words with a gap behind each. -/
structure Division (sep : Char → Bool) (rs : List Rune) where
  /-- The gap before the first word. -/
  lead : List Rune
  /-- The words with the gaps behind them. -/
  parts : List (List Rune × List Rune)
  lead_sep : ∀ r ∈ lead, sep r.char = true
  isWordSequence : IsWordSequence sep parts
  lead_append : lead ++ joinParts parts = rs

namespace Division

variable {sep : Char → Bool} {rs : List Rune}

/-- The words of a division. -/
def words (d : Division sep rs) : List (List Rune) := d.parts.map Prod.fst

/-- The characters from the second word on, none if there is no second word. -/
def fromSecondWord (d : Division sep rs) : List Rune := joinParts d.parts.tail

/-- The division of the empty list. -/
def nil : Division sep [] where
  lead := []
  parts := []
  lead_sep := by simp
  isWordSequence := trivial
  lead_append := rfl

/-- A separator in front makes the first gap longer. -/
def consSep (r : Rune) (h : sep r.char = true) (d : Division sep rs) : Division sep (r :: rs) where
  lead := r :: d.lead
  parts := d.parts
  lead_sep := by simpa [h] using d.lead_sep
  isWordSequence := d.isWordSequence
  lead_append := by simp [d.lead_append]

/-- The words and gaps of a list with one more character in front, which is no separator. It begins
a word of its own if a gap or nothing follows, and belongs to the first word otherwise. -/
def pushWord (r : Rune) :
    (lead : List Rune) → (parts : List (List Rune × List Rune)) → List (List Rune × List Rune)
  | [], (word, gap) :: parts => (r :: word, gap) :: parts
  | lead, parts => ([r], lead) :: parts

/-- A character in front that is no separator leaves no gap before it. -/
def consWord (r : Rune) (h : sep r.char = false) (d : Division sep rs) :
    Division sep (r :: rs) where
  lead := []
  parts := pushWord r d.lead d.parts
  lead_sep := by simp
  isWordSequence := by
    obtain ⟨lead, parts, hlead, hparts, -⟩ := d
    match lead, parts with
    | [], (word, gap) :: parts =>
      obtain ⟨-, hword, hgap⟩ := hparts
      exact ⟨by simp, by simpa [h] using hword, hgap⟩
    | [], [] => exact ⟨by simp, by simp [h], hlead, by simp, trivial⟩
    | s :: lead, parts => exact ⟨by simp, by simp [h], hlead, by simp, hparts⟩
  lead_append := by
    obtain ⟨lead, parts, -, -, rfl⟩ := d
    match lead, parts with
    | [], (word, gap) :: parts => simp [pushWord]
    | [], [] => simp [pushWord]
    | s :: lead, parts => simp [pushWord]

/-- A division of a list of characters. -/
def ofRunes (sep : Char → Bool) : (rs : List Rune) → Division sep rs
  | [] => nil
  | r :: rs =>
    match h : sep r.char with
    | true => (ofRunes sep rs).consSep r h
    | false => (ofRunes sep rs).consWord r h

end Division

section Gaps

variable {sep : Char → Bool}

/-- A gap is skipped as a whole, up to a character that is no separator. -/
theorem skipSpace_gap_append {gap rs : List Rune} (hgap : ∀ r ∈ gap, sep r.char = true)
    (hrs : ∀ r ∈ rs.head?, sep r.char = false) : skipSpace sep (gap ++ rs) = rs := by
  unfold skipSpace
  rw [List.dropWhile_append_of_pos hgap]
  cases rs with
  | nil => rfl
  | cons r rs => simp [hrs r (by simp)]

/-- A word is skipped as a whole, up to a separator. -/
theorem skipWord_word_append {word rs : List Rune} (hword : ∀ r ∈ word, sep r.char = false)
    (hrs : ∀ r ∈ rs.head?, sep r.char = true) : skipWord sep (word ++ rs) = rs := by
  unfold skipWord
  rw [List.dropWhile_append_of_pos (by simpa using hword)]
  cases rs with
  | nil => rfl
  | cons r rs => simp [hrs r (by simp)]

/-- A word is taken as a whole, up to a separator. -/
theorem takeWord_word_append {word rs : List Rune} (hword : ∀ r ∈ word, sep r.char = false)
    (hrs : ∀ r ∈ rs.head?, sep r.char = true) : takeWord sep (word ++ rs) = word := by
  unfold takeWord
  rw [List.takeWhile_append_of_pos (by simpa using hword)]
  cases rs with
  | nil => simp
  | cons r rs => simp [hrs r (by simp)]

/-- A gap in front adds no word. -/
theorem wordRuns_gap_append {gap : List Rune} (hgap : ∀ r ∈ gap, sep r.char = true)
    (rs : List Rune) : wordRuns sep (gap ++ rs) = wordRuns sep rs := by
  induction gap with
  | nil => rfl
  | cons r gap ih =>
    rw [List.cons_append, wordRuns, if_pos (hgap r (by simp))]
    exact ih fun s hs => hgap s (by simp [hs])

/-- A gap at the end adds no word. -/
theorem wordRuns_append_gap {gap : List Rune} (hgap : ∀ r ∈ gap, sep r.char = true)
    (rs : List Rune) : wordRuns sep (rs ++ gap) = wordRuns sep rs := by
  induction rs with
  | nil => simpa using wordRuns_gap_append hgap []
  | cons r rs ih =>
    rw [List.cons_append, wordRuns, wordRuns, ih]
    cases rs with
    | nil => cases gap <;> simp [wordRuns]
    | cons s rs => rfl

/-- A word with a gap behind it, or at the end, is a run of its own. -/
theorem wordRuns_word_append {word rs : List Rune} (hne : word ≠ [])
    (hword : ∀ r ∈ word, sep r.char = false) (hrs : ∀ r ∈ rs.head?, sep r.char = true) :
    wordRuns sep (word ++ rs) = word :: wordRuns sep rs := by
  induction word with
  | nil => contradiction
  | cons r word ih =>
    have hr : sep r.char = false := hword r (by simp)
    cases word with
    | nil =>
      rw [List.singleton_append, wordRuns, if_neg (by simp [hr])]
      cases rs with
      | nil => rfl
      | cons s rs =>
        have hs : sep s.char = true := hrs s (by simp)
        cases wordRuns sep (s :: rs) <;> simp [hs]
    | cons s word =>
      have hs : sep s.char = false := hword s (by simp)
      have ih := ih (by simp) fun t ht => hword t (by simp [ht])
      rw [List.cons_append, wordRuns, ih, if_neg (by simp [hr])]
      simp [hs]

end Gaps

namespace IsWordSequence

variable {sep : Char → Bool} {parts : List (List Rune × List Rune)}

/-- What is made of words and gaps, a word first, does not begin with a separator. -/
theorem head_joinParts (h : IsWordSequence sep parts) :
    ∀ r ∈ (joinParts parts).head?, sep r.char = false := by
  match parts with
  | [] => simp
  | (r :: word, gap) :: parts => simpa using h.2.1 r (by simp)
  | ([], gap) :: parts => exact absurd rfl h.1

/-- Behind a word there is a gap or nothing. -/
theorem head_gap {word gap : List Rune} (h : IsWordSequence sep ((word, gap) :: parts)) :
    ∀ r ∈ (gap ++ joinParts parts).head?, sep r.char = true := by
  obtain ⟨-, -, hgap, hne, -⟩ := h
  match gap, parts with
  | [], [] => simp
  | [], _ :: _ => exact absurd rfl (hne (by simp))
  | r :: gap, _ => simpa using hgap r (by simp)

theorem wordRuns_joinParts (h : IsWordSequence sep parts) :
    wordRuns sep (joinParts parts) = parts.map Prod.fst := by
  induction parts with
  | nil => rfl
  | cons p parts ih =>
    obtain ⟨word, gap⟩ := p
    have hgap := h.head_gap
    obtain ⟨hne, hword, hsep, -, hparts⟩ := h
    rw [joinParts_cons, wordRuns_word_append hne hword hgap, wordRuns_gap_append hsep, ih hparts,
      List.map_cons]

end IsWordSequence

namespace Division

variable {sep : Char → Bool} {rs : List Rune}

/-- The characters from the first word on. -/
theorem skipSpace_eq_joinParts (d : Division sep rs) : skipSpace sep rs = joinParts d.parts := by
  obtain ⟨lead, parts, hlead, hparts, rfl⟩ := d
  exact skipSpace_gap_append hlead hparts.head_joinParts

theorem wordRuns_eq_words (d : Division sep rs) : wordRuns sep rs = d.words := by
  obtain ⟨lead, parts, hlead, hparts, rfl⟩ := d
  rw [wordRuns_gap_append hlead, hparts.wordRuns_joinParts]
  rfl

theorem afterFirstWord_eq_fromSecondWord (d : Division sep rs) :
    afterFirstWord sep rs = d.fromSecondWord := by
  rw [afterFirstWord, d.skipSpace_eq_joinParts, fromSecondWord]
  cases hparts : d.parts with
  | nil => rfl
  | cons p parts =>
    obtain ⟨word, gap⟩ := p
    have h := hparts ▸ d.isWordSequence
    rw [joinParts_cons, skipWord_word_append h.2.1 h.head_gap, List.tail_cons]
    exact skipSpace_gap_append h.2.2.1 h.2.2.2.2.head_joinParts

/-- The first word is what stands before the first separator behind the leading gap. -/
theorem takeWord_skipSpace (d : Division sep rs) :
    takeWord sep (skipSpace sep rs) = d.words.headD [] := by
  rw [d.skipSpace_eq_joinParts, words]
  cases hparts : d.parts with
  | nil => rfl
  | cons p parts =>
    obtain ⟨word, gap⟩ := p
    have h := hparts ▸ d.isWordSequence
    rw [joinParts_cons, takeWord_word_append h.2.1 h.head_gap]
    rfl

end Division

section Trim

variable {sep : Char → Bool}

/-- The characters without the gaps at their start and end. -/
def trimRunes (sep : Char → Bool) (rs : List Rune) : List Rune :=
  (skipSpace sep (skipSpace sep rs).reverse).reverse

/-- Behind the leading gap, what is trimmed is a gap at the end. -/
theorem exists_skipSpace_eq (sep : Char → Bool) (rs : List Rune) :
    ∃ tail, (∀ r ∈ tail, sep r.char = true) ∧ skipSpace sep rs = trimRunes sep rs ++ tail := by
  let p := fun r : Rune => sep r.char
  let kept := (skipSpace sep rs).reverse
  refine ⟨(kept.takeWhile p).reverse, ?_, ?_⟩
  · intro r hr
    exact List.mem_takeWhile_imp (p := p) (List.mem_reverse.mp hr)
  · have hkept : kept.takeWhile p ++ skipSpace sep kept = kept := List.takeWhile_append_dropWhile
    rw [trimRunes, ← List.reverse_append, hkept, List.reverse_reverse]

/-- What is trimmed is a gap on each side. -/
theorem exists_trimRunes_append (sep : Char → Bool) (rs : List Rune) :
    ∃ lead tail, (∀ r ∈ lead, sep r.char = true) ∧ (∀ r ∈ tail, sep r.char = true) ∧
      rs = lead ++ (trimRunes sep rs ++ tail) := by
  obtain ⟨tail, htail, hskip⟩ := exists_skipSpace_eq sep rs
  refine ⟨rs.takeWhile fun r => sep r.char, tail, ?_, htail, ?_⟩
  · intro r hr
    exact List.mem_takeWhile_imp (p := fun r : Rune => sep r.char) hr
  · rw [← hskip]
    exact List.takeWhile_append_dropWhile.symm

theorem runes_trim (sep : Char → Bool) (s : Bytes) :
    runes (s.trim sep) = trimRunes sep (runes s) := by
  obtain ⟨lead, tail, -, -, hsplit⟩ := exists_trimRunes_append sep (runes s)
  have hpiece : trimRunes sep (runes s) <:+: runes s :=
    ⟨lead, tail, by rw [List.append_assoc, ← hsplit]⟩
  exact runes_join_piece hpiece

/-- Blanks around a byte string do not change its words. -/
theorem words_trim (sep : Char → Bool) (s : Bytes) : (s.trim sep).words sep = s.words sep := by
  obtain ⟨lead, tail, hlead, htail, hsplit⟩ := exists_trimRunes_append sep (runes s)
  rw [Bytes.words, Bytes.words, runes_trim]
  conv_rhs => rw [hsplit, wordRuns_gap_append hlead, wordRuns_append_gap htail]

/-- Trimmed characters begin with a word, if there are any. -/
theorem skipSpace_trimRunes (sep : Char → Bool) (rs : List Rune) :
    skipSpace sep (trimRunes sep rs) = trimRunes sep rs := by
  obtain ⟨tail, -, hskip⟩ := exists_skipSpace_eq sep rs
  have hhead := List.head?_dropWhile_not (fun r : Rune => sep r.char) rs
  rw [show rs.dropWhile (fun r : Rune => sep r.char) = _ from hskip] at hhead
  cases htrim : trimRunes sep rs with
  | nil => rfl
  | cons r kept =>
    rw [htrim] at hhead
    have hr : sep r.char = false := by simpa using hhead
    simp [skipSpace, hr]

/-- Nothing is left of a byte string by trimming exactly if it has no words. -/
theorem trim_eq_nil_iff {s : Bytes} : s.trim sep = [] ↔ s.words sep = [] := by
  constructor
  · intro h
    rw [← words_trim, h]
    rfl
  · intro h
    rw [← words_trim, Bytes.words, runes_trim, List.map_eq_nil_iff] at h
    let d := Division.ofRunes sep (trimRunes sep (runes s))
    have hparts : d.parts = [] := by
      rw [d.wordRuns_eq_words] at h
      exact List.map_eq_nil_iff.mp h
    rw [← runes_eq_nil_iff, runes_trim, ← skipSpace_trimRunes, d.skipSpace_eq_joinParts, hparts]
    rfl

/-- The first word of a byte string is where its trimmed form begins. -/
theorem join_takeWord_trimRunes {s word : Bytes} {words : List Bytes}
    (h : s.words sep = word :: words) :
    word = Rune.join (takeWord sep (trimRunes sep (runes s))) := by
  let d := Division.ofRunes sep (trimRunes sep (runes s))
  rw [← words_trim, Bytes.words, runes_trim, d.wordRuns_eq_words, List.map_eq_cons_iff] at h
  obtain ⟨run, runs, hwords, rfl, -⟩ := h
  rw [← skipSpace_trimRunes, d.takeWord_skipSpace, hwords]
  rfl

/-- A beginning in ASCII without separators is a beginning of the first word. -/
theorem startsWith_trim {s start word : Bytes} {words : List Bytes}
    (hplain : start.all (fun b => b < 0x80 && !sep (Char.ofNat b.toNat)) = true)
    (h : s.words sep = word :: words) :
    (s.trim sep).startsWith start = word.startsWith start := by
  simp only [List.all_eq_true, Bool.and_eq_true, decide_eq_true_eq, Bool.not_eq_true'] at hplain
  have hascii : ∀ b ∈ start, b < 0x80 := fun b hb => (hplain b hb).1
  have hsep : ∀ b ∈ start, sep (Char.ofNat b.toNat) = false := fun b hb => (hplain b hb).2
  rw [Bool.eq_iff_iff, Bytes.startsWith, Bytes.startsWith, List.isPrefixOf_iff_prefix,
    List.isPrefixOf_iff_prefix, join_takeWord_trimRunes h]
  constructor
  · rintro ⟨rest, hrest⟩
    -- The beginning is read as characters that are no separators, so the first word takes them all.
    rw [← runes_trim, ← hrest, runes_ascii_append hascii, takeWord,
      List.takeWhile_append_of_pos (by simpa using hsep), Rune.join_append]
    refine ⟨_, congrArg (· ++ _) ?_⟩
    simp [Rune.join, List.flatMap_map]
  · intro hstart
    refine hstart.trans ⟨Rune.join (skipWord sep (trimRunes sep (runes s))), ?_⟩
    rw [← Rune.join_append, takeWord, skipWord, List.takeWhile_append_dropWhile]
    rfl

end Trim

end KeyScript
