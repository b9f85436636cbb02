import KeyScript.Proofs.Text.Division
import KeyScript.Text.Columns

/-!
# Columns of words

The located words of a line are the words of its division, each between the units of what stands
before it and the units of what it ends. So words are not empty, stand inside the line and come one
behind the other.

## Main definitions

- `locateParts` — words and gaps from a column on, as located words

## Main results

- `Division.locateWords_eq` — the located words of a list of characters
- `LocatedWord.bounds_of_mem_wordsAt`, `pairwise_lt_wordsAt` — where they stand
- `map_text_wordsAt` — they are the words of the line
- `exists_append_afterFirstWord` — the second word begins where the rest of the line does
-/

namespace KeyScript

section Units

theorem Rune.units_pos (r : Rune) : 0 < r.units := by
  rw [units]
  split <;> omega

@[simp] theorem unitsOf_nil : unitsOf [] = 0 := rfl

@[simp] theorem unitsOf_append (rs ts : List Rune) :
    unitsOf (rs ++ ts) = unitsOf rs + unitsOf ts := by
  induction rs with
  | nil => simp
  | cons r rs ih =>
    rw [List.cons_append, unitsOf, unitsOf, ih]
    omega

theorem unitsOf_pos {rs : List Rune} (h : rs ≠ []) : 0 < unitsOf rs := by
  obtain ⟨r, rs, rfl⟩ := List.exists_cons_of_ne_nil h
  have := r.units_pos
  rw [unitsOf]
  omega

end Units

/-- Words with the gaps behind them as located words, if the first word begins at column `col`. -/
def locateParts : (col : Nat) → List (List Rune × List Rune) → List LocatedWord
  | _, [] => []
  | col, (word, gap) :: parts =>
    ⟨word, col, col + unitsOf word⟩ :: locateParts (col + unitsOf word + unitsOf gap) parts

section Locate

variable {sep : Char → Bool} {word gap rs : List Rune} {col : Nat}

/-- A gap in front moves the words behind it. -/
theorem locateWords_gap_append (hgap : ∀ r ∈ gap, sep r.char = true) (col : Nat) (rs : List Rune) :
    locateWords sep col (gap ++ rs) = locateWords sep (col + unitsOf gap) rs := by
  induction gap generalizing col with
  | nil => rfl
  | cons r gap ih =>
    have hlater : ∀ s ∈ gap, sep s.char = true := fun s hs => hgap s (List.mem_cons_of_mem _ hs)
    have hcol : col + r.units + unitsOf gap = col + unitsOf (r :: gap) := by
      rw [unitsOf]
      omega
    rw [List.cons_append, locateWords, if_pos (hgap r List.mem_cons_self), ih hlater, hcol]

/-- A word with a gap behind it, or at the end, is a located word of its own. -/
theorem locateWords_word_append (hne : word ≠ []) (hword : ∀ r ∈ word, sep r.char = false)
    (hrs : ∀ r ∈ rs.head?, sep r.char = true) (col : Nat) :
    locateWords sep col (word ++ rs) =
      ⟨word, col, col + unitsOf word⟩ :: locateWords sep (col + unitsOf word) rs := by
  induction word generalizing col with
  | nil => contradiction
  | cons r word ih =>
    have hr : sep r.char = false := hword r List.mem_cons_self
    cases word with
    | nil =>
      have hunits : unitsOf [r] = r.units := by rw [unitsOf, unitsOf_nil, Nat.add_zero]
      rw [List.singleton_append, locateWords, if_neg (by simp [hr]), hunits]
      cases rs with
      | nil => rfl
      | cons s rs =>
        have hs : sep s.char = true := hrs s (by simp)
        cases locateWords sep (col + r.units) (s :: rs) <;> simp [hs]
    | cons s word =>
      have hs : sep s.char = false := hword s (by simp)
      have ih := ih (by simp) (fun t ht => hword t (List.mem_cons_of_mem _ ht)) (col + r.units)
      have hcol : col + r.units + unitsOf (s :: word) = col + unitsOf (r :: s :: word) := by
        rw [unitsOf.eq_2 r]
        omega
      rw [List.cons_append, locateWords, ih, if_neg (by simp [hr]), hcol]
      simp [hs]

theorem IsWordSequence.locateWords_joinParts {parts : List (List Rune × List Rune)}
    (h : IsWordSequence sep parts) (col : Nat) :
    locateWords sep col (joinParts parts) = locateParts col parts := by
  induction parts generalizing col with
  | nil => rfl
  | cons p parts ih =>
    obtain ⟨word, gap⟩ := p
    have hgap := h.head_gap
    obtain ⟨hne, hword, hsep, -, hparts⟩ := h
    rw [joinParts_cons, locateWords_word_append hne hword hgap, locateWords_gap_append hsep,
      ih hparts, locateParts]

/-- The located words of a list of characters are those of its division. -/
theorem Division.locateWords_eq (d : Division sep rs) (col : Nat) :
    locateWords sep col rs = locateParts (col + unitsOf d.lead) d.parts := by
  obtain ⟨lead, parts, hlead, hparts, rfl⟩ := d
  rw [locateWords_gap_append hlead, hparts.locateWords_joinParts]

/-- Behind the first word and its gap there are the other words, and they are located from there. -/
theorem exists_parts_of_locateWords {w : LocatedWord} {ws : List LocatedWord}
    (h : locateWords sep 0 rs = w :: ws) :
    ∃ before parts, rs = before ++ joinParts parts ∧ IsWordSequence sep parts ∧
      afterFirstWord sep rs = joinParts parts ∧ ws = locateParts (unitsOf before) parts := by
  let d := Division.ofRunes sep rs
  have hafter := d.afterFirstWord_eq_fromSecondWord
  have hsplit := d.lead_append
  have hsequence := d.isWordSequence
  rw [d.locateWords_eq, Nat.zero_add] at h
  rw [Division.fromSecondWord] at hafter
  cases hparts : d.parts with
  | nil =>
    rw [hparts] at h
    cases h
  | cons p parts =>
    obtain ⟨word, gap⟩ := p
    rw [hparts, locateParts, List.cons.injEq] at h
    rw [hparts] at hsequence hafter
    rw [hparts, joinParts_cons, ← List.append_assoc, ← List.append_assoc] at hsplit
    refine ⟨d.lead ++ word ++ gap, parts, hsplit.symm, hsequence.2.2.2.2, hafter, ?_⟩
    rw [unitsOf_append, unitsOf_append]
    exact h.2.symm

theorem map_run_locateParts (col : Nat) (parts : List (List Rune × List Rune)) :
    (locateParts col parts).map LocatedWord.run = parts.map Prod.fst := by
  induction parts generalizing col with
  | nil => rfl
  | cons p parts ih =>
    rw [locateParts, List.map_cons, List.map_cons, ih]

/-- The located words without their columns are the words. -/
theorem map_run_locateWords (sep : Char → Bool) (col : Nat) (rs : List Rune) :
    (locateWords sep col rs).map LocatedWord.run = wordRuns sep rs := by
  let d := Division.ofRunes sep rs
  rw [d.locateWords_eq, map_run_locateParts, d.wordRuns_eq_words]
  rfl

/-- Words stand where their parts do, and none of them is empty. -/
theorem IsWordSequence.bounds_of_mem_locateParts {parts : List (List Rune × List Rune)}
    (h : IsWordSequence sep parts) {col : Nat} {w : LocatedWord} (hw : w ∈ locateParts col parts) :
    col ≤ w.start ∧ w.start < w.finish ∧ w.finish ≤ col + unitsOf (joinParts parts) := by
  induction parts generalizing col with
  | nil => cases hw
  | cons p parts ih =>
    obtain ⟨word, gap⟩ := p
    obtain ⟨hne, -, -, -, hparts⟩ := h
    rw [joinParts_cons, unitsOf_append, unitsOf_append]
    rcases List.mem_cons.mp hw with rfl | hw
    · have := unitsOf_pos hne
      simp only
      omega
    · have := ih hparts hw
      omega

theorem bounds_of_mem_locateWords {rs : List Rune} {col : Nat} {w : LocatedWord}
    (hw : w ∈ locateWords sep col rs) : w.start < w.finish ∧ w.finish ≤ col + unitsOf rs := by
  obtain ⟨lead, parts, hlead, hparts, rfl⟩ := Division.ofRunes sep rs
  rw [locateWords_gap_append hlead, hparts.locateWords_joinParts] at hw
  have hbounds := hparts.bounds_of_mem_locateParts hw
  rw [unitsOf_append]
  omega

/-- Words come one behind the other, with something between them. -/
theorem IsWordSequence.pairwise_locateParts {parts : List (List Rune × List Rune)}
    (h : IsWordSequence sep parts) (col : Nat) :
    (locateParts col parts).Pairwise fun v w => v.finish < w.start := by
  induction parts generalizing col with
  | nil => exact .nil
  | cons p parts ih =>
    obtain ⟨word, gap⟩ := p
    obtain ⟨-, -, -, hgap, hparts⟩ := h
    refine .cons (fun w hw => ?_) (ih hparts _)
    have hmore : parts ≠ [] := by
      rintro rfl
      cases hw
    have hstart := (hparts.bounds_of_mem_locateParts hw).1
    have hwide := unitsOf_pos (hgap hmore)
    simp only
    omega

end Locate

section WordsAt

variable {sep : Char → Bool} {line : Bytes}

theorem map_text_wordsAt (sep : Char → Bool) (line : Bytes) :
    (line.wordsAt sep).map LocatedWord.text = line.words sep := by
  rw [Bytes.words, ← map_run_locateWords sep 0, List.map_map]
  rfl

/-- A word is not empty and stands inside its line. -/
theorem LocatedWord.bounds_of_mem_wordsAt {w : LocatedWord} (hw : w ∈ line.wordsAt sep) :
    w.start < w.finish ∧ w.finish ≤ line.units := by
  have hbounds := bounds_of_mem_locateWords hw
  rwa [Nat.zero_add] at hbounds

/-- Between two words there is at least one unit. -/
theorem pairwise_lt_wordsAt (sep : Char → Bool) (line : Bytes) :
    (line.wordsAt sep).Pairwise fun v w => v.finish < w.start := by
  let d := Division.ofRunes sep (runes line)
  rw [Bytes.wordsAt, d.locateWords_eq]
  exact d.isWordSequence.pairwise_locateParts _

/-- Words come one behind the other. -/
theorem pairwise_wordsAt (sep : Char → Bool) (line : Bytes) :
    (line.wordsAt sep).Pairwise fun v w => v.finish ≤ w.start :=
  (pairwise_lt_wordsAt sep line).imp Nat.le_of_lt

/-- A line with a word ends with what follows the first word and the gap behind it. The second word
begins there; if there is none, nothing follows. -/
theorem exists_append_afterFirstWord {w : LocatedWord} {ws : List LocatedWord}
    (hwords : line.wordsAt sep = w :: ws) {rest : Bytes}
    (hrest : rest = Rune.join (afterFirstWord sep (runes line))) :
    ∃ before : Bytes, line = before ++ rest ∧ line.units = before.units + rest.units ∧
      (ws = [] ↔ rest = []) ∧ ∀ v ∈ ws.head?, v.start = before.units := by
  obtain ⟨before, parts, hsplit, hparts, hafter, rfl⟩ := exists_parts_of_locateWords hwords
  rw [hafter] at hrest
  -- The line is cut between characters, so both pieces keep theirs.
  have hbefore : runes (Rune.join before) = before := runes_join_left hsplit
  have hruns : runes rest = joinParts parts := hrest ▸ runes_join_right hsplit
  refine ⟨Rune.join before, ?_, ?_, ?_, ?_⟩
  · rw [hrest, ← Rune.join_append, ← hsplit, join_runes]
  · rw [Bytes.units, Bytes.units, Bytes.units, hbefore, hruns, hsplit, unitsOf_append]
  · rw [← runes_eq_nil_iff, hruns]
    cases parts with
    | nil => simp [locateParts]
    | cons p parts =>
      have hne : p.1 ≠ [] := hparts.1
      simp [locateParts, joinParts, hne]
  · intro v hv
    cases parts with
    | nil => cases hv
    | cons p parts =>
      cases hv
      rw [Bytes.units, hbefore]

end WordsAt

end KeyScript
