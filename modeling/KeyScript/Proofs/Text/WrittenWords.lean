import KeyScript.Proofs.Text.Case
import KeyScript.Proofs.Text.Division

/-!
# Written words

A written word is the UTF-8 form of one or more characters that are not blank. Written words with
spaces between them are read back as these words. Upper case turns every word of a line into a
written word, also a word with bytes outside UTF-8.

## Main definitions

- `IsWrittenWord` — a word as it is written

## Main results

- `words_joinWith_space` — written words are read back
- `isWrittenWord_upper_of_mem_words` — the words of a line in upper case are written words
- `IsWrittenWord.notMem_of_isBlank` — a written word holds no blank in ASCII
-/

namespace KeyScript

/-- The UTF-8 form of one or more characters that are not blank. -/
def IsWrittenWord (word : Bytes) : Prop :=
  ∃ cs : List Char, cs ≠ [] ∧ (∀ c ∈ cs, isBlank c = false) ∧ word = Bytes.ofChars cs

/-- The words of a byte string are cut out of its characters. -/
theorem exists_run_of_mem_words {sep : Char → Bool} {s word : Bytes} (h : word ∈ s.words sep) :
    ∃ run, run <:+: runes s ∧ run ≠ [] ∧ (∀ r ∈ run, sep r.char = false) ∧
      word = Rune.join run := by
  rw [Bytes.words, List.mem_map] at h
  obtain ⟨run, hrun, rfl⟩ := h
  obtain ⟨lead, parts, hlead, hparts, hsplit⟩ := Division.ofRunes sep (runes s)
  rw [← hsplit, wordRuns_gap_append hlead, hparts.wordRuns_joinParts] at hrun
  suffices ∃ pre post, joinParts parts = pre ++ (run ++ post) ∧ run ≠ [] ∧
      ∀ r ∈ run, sep r.char = false by
    obtain ⟨pre, post, hjoin, hne, hword⟩ := this
    refine ⟨run, ⟨lead ++ pre, post, ?_⟩, hne, hword, rfl⟩
    rw [← hsplit, hjoin]
    simp only [List.append_assoc]
  clear hsplit hlead
  -- The word is found by going along the parts.
  induction parts with
  | nil => simp at hrun
  | cons part parts ih =>
    obtain ⟨word, gap⟩ := part
    obtain ⟨hne, hword, -, -, hrest⟩ := hparts
    rw [List.map_cons, List.mem_cons] at hrun
    rcases hrun with rfl | hrun
    · exact ⟨[], gap ++ joinParts parts, by simp, hne, hword⟩
    · obtain ⟨pre, post, hjoin, hfound⟩ := ih hrun hrest
      exact ⟨word ++ (gap ++ pre), post, by simp [hjoin], hfound⟩

/-- The words of a line in upper case are written words. -/
theorem isWrittenWord_upper_of_mem_words {line word : Bytes} (h : word ∈ line.words isBlank) :
    IsWrittenWord word.upper := by
  obtain ⟨run, hpiece, hne, hword, rfl⟩ := exists_run_of_mem_words h
  refine ⟨(Rune.join run).chars.map upper, ?_, ?_, Bytes.upper_eq_ofChars _⟩
  · rw [Bytes.chars, runes_join_piece hpiece]
    simpa using hne
  · rw [Bytes.chars, runes_join_piece hpiece, List.map_map]
    intro c hc
    obtain ⟨r, hr, rfl⟩ := List.mem_map.mp hc
    exact isBlank_upper (hword r hr)

/-- Bytes in ASCII that are not blank are a written word. -/
theorem isWrittenWord_of_ascii {s : Bytes} (hne : s ≠ [])
    (hplain : s.all (fun b => b < 0x80 && !isBlank (Char.ofNat b.toNat)) = true) :
    IsWrittenWord s := by
  simp only [List.all_eq_true, Bool.and_eq_true, decide_eq_true_eq, Bool.not_eq_true'] at hplain
  refine ⟨s.map fun b => Char.ofNat b.toNat, by simpa using hne, ?_, ?_⟩
  · intro c hc
    obtain ⟨b, hb, rfl⟩ := List.mem_map.mp hc
    exact (hplain b hb).2
  · have hencode : ∀ b ∈ s, encode (Char.ofNat b.toNat) = [b] := by
      intro b hb
      exact encode_ascii (hplain b hb).1
    rw [Bytes.ofChars, List.flatMap_map, List.flatMap, List.map_congr_left hencode]
    exact (List.flatMap_singleton' s).symm

namespace IsWrittenWord

variable {word : Bytes}

theorem isBlank_of_mem_runes (h : IsWrittenWord word) :
    ∀ r ∈ runes word, isBlank r.char = false := by
  obtain ⟨cs, -, hword, rfl⟩ := h
  intro r hr
  rw [runes_ofChars] at hr
  obtain ⟨c, hc, rfl⟩ := List.mem_map.mp hr
  exact hword c hc

theorem ne_nil (h : IsWrittenWord word) : word ≠ [] := by
  obtain ⟨cs, hne, -, rfl⟩ := h
  intro hempty
  have hrunes := runes_ofChars cs
  rw [hempty, runes_nil] at hrunes
  exact hne (List.map_eq_nil_iff.mp hrunes.symm)

/-- A written word holds no blank in ASCII. -/
theorem notMem_of_isBlank (h : IsWrittenWord word) {b : UInt8} (hascii : b < 0x80)
    (hblank : isBlank (Char.ofNat b.toNat) = true) : b ∉ word := by
  obtain ⟨cs, -, hword, rfl⟩ := h
  intro hb
  obtain ⟨c, hc, hbyte⟩ := List.mem_flatMap.mp hb
  have hnumber := toNat_eq_of_mem_encode hbyte hascii
  have hchar : Char.ofNat b.toNat = c := by rw [← hnumber, Char.ofNat_toNat]
  have hfalse := hword c hc
  rw [← hchar, hblank] at hfalse
  contradiction

/-- A written word at the end of a byte string is its only word. -/
theorem words_eq (h : IsWrittenWord word) : word.words isBlank = [word] := by
  obtain ⟨cs, hne, hword, rfl⟩ := h
  have hrun : wordRuns isBlank (cs.map Rune.ofChar ++ []) = [cs.map Rune.ofChar] :=
    wordRuns_word_append (by simpa using hne) (by simpa [Rune.ofChar] using hword) (by simp)
  rw [List.append_nil] at hrun
  rw [Bytes.words, runes_ofChars, hrun, List.map_singleton, join_map_ofChar]

/-- A written word with a space behind it is the first word. -/
theorem words_append_space (h : IsWrittenWord word) (rest : Bytes) :
    (word ++ " " ++ rest).words isBlank = word :: rest.words isBlank := by
  obtain ⟨cs, hne, hword, rfl⟩ := h
  have hspace : runes ((" " : Bytes) ++ rest) = ⟨' ', [32]⟩ :: runes rest :=
    runes_cons_ascii (by decide) rest
  have hblank : ∀ r ∈ [(⟨' ', [32]⟩ : Rune)], isBlank r.char = true := by decide
  have hgap : wordRuns isBlank (⟨' ', [32]⟩ :: runes rest) = wordRuns isBlank (runes rest) :=
    wordRuns_gap_append hblank (runes rest)
  rw [Bytes.words, List.append_assoc, runes_ofChars_append, hspace,
    wordRuns_word_append (by simpa using hne) (by simpa [Rune.ofChar] using hword)
      (by simpa using hblank), hgap, List.map_cons, join_map_ofChar]
  rfl

end IsWrittenWord

/-- Written words with spaces between them are read back. -/
theorem words_joinWith_space {words : List Bytes} (h : ∀ word ∈ words, IsWrittenWord word) :
    (Bytes.joinWith " " words).words isBlank = words := by
  match words with
  | [] => rfl
  | [word] => exact (h word (by simp)).words_eq
  | word :: next :: rest =>
    rw [Bytes.joinWith, (h word (by simp)).words_append_space,
      words_joinWith_space fun w hw => h w (List.mem_cons_of_mem _ hw)]

/-- Written words with spaces between them hold no ASCII character but their own and spaces. -/
theorem notMem_joinWith_space {words : List Bytes} {b : UInt8} (hspace : b ≠ 32)
    (h : ∀ word ∈ words, b ∉ word) : b ∉ Bytes.joinWith " " words := by
  match words with
  | [] => simp [Bytes.joinWith]
  | [word] => exact h word (by simp)
  | word :: next :: rest =>
    have hrest : b ∉ Bytes.joinWith " " (next :: rest) :=
      notMem_joinWith_space hspace fun w hw => h w (List.mem_cons_of_mem _ hw)
    have hword := h word (by simp)
    rw [Bytes.joinWith, List.mem_append, List.mem_append]
    rintro ((hb | hb) | hb)
    · exact hword hb
    · exact hspace (List.mem_singleton.mp hb)
    · exact hrest hb

end KeyScript
