import KeyScript.Proofs.Script.Accounting
import KeyScript.Proofs.Script.Calls

/-!
# What lines say

A line without words and a comment say nothing. Any other line says what its first word stands for,
or is a chord or a key, or is rejected. The cases are put together here, so that other proofs need
not go through the vocabulary again.

## Main results

- `Reading.ofLine_cases` — what a line can say that has a word and is no comment
- `Reading.ofLine_eq_nothing_iff` — when a line says nothing
- `Reading.eq_stringText_of_string`, `Reading.mem_causes_of_rejected` — texts and rejections
- `Reading.isRepetition_of_again`, `Reading.not_isRepetition_of_command` — what a repetition says
-/

namespace KeyScript

namespace Reading

/-- The reasons for which a line is rejected by itself. -/
def causes : List Cause := [.delayNumber, .repeatNumber, .unknownCommand]

theorem ofDelay_cases (token number : Bytes) :
    (∃ ms, ofDelay token number = command .delay [ms]) ∨
      ofDelay token number = rejected token .delayNumber := by
  rw [ofDelay]
  cases Numeral.leadingText? number with
  | none => exact .inr rfl
  | some ms => exact .inl ⟨ms, rfl⟩

theorem ofRepeat_cases (token number : Bytes) :
    (∃ count, ofRepeat token number = again token count) ∨
      ofRepeat token number = rejected token .repeatNumber := by
  rw [ofRepeat]
  cases Numeral.leadingText? number with
  | none => exact .inr rfl
  | some digits =>
    simp only
    split
    · exact .inr rfl
    · exact .inl ⟨_, rfl⟩

/-- A line without a statement name is a command only if one of its words is a modifier or a key. -/
theorem ofKeys_cases (token : Bytes) (words : List Bytes) :
    (∃ kind args, ofKeys token words = command kind args ∧ kind ≠ .string ∧
        ∃ w ∈ words, isModifier w = true ∨ (Key.ofName? w).isSome = true) ∨
      ofKeys token words = rejected token .unknownCommand := by
  have hchordWords : ∀ w ∈ chordWords, isModifier w = true := by decide
  rw [ofKeys]
  by_cases hgui : words.contains "GUI" = true
  · rw [if_pos hgui]
    have hmem := List.contains_iff_mem.mp hgui
    exact .inl ⟨_, _, rfl, by simp, _, hmem, .inl (by decide)⟩
  by_cases hwindows : words.contains "WINDOWS" = true
  · rw [if_neg hgui, if_pos hwindows]
    have hmem := List.contains_iff_mem.mp hwindows
    exact .inl ⟨_, _, rfl, by simp, _, hmem, .inl (by decide)⟩
  by_cases hchord : words.any chordWords.contains = true
  · rw [if_neg hgui, if_neg hwindows, if_pos hchord]
    obtain ⟨w, hw, hcontains⟩ := List.any_eq_true.mp hchord
    have hmodifier := hchordWords w (List.contains_iff_mem.mp hcontains)
    exact .inl ⟨_, _, rfl, by simp, w, hw, .inl hmodifier⟩
  rw [if_neg hgui, if_neg hwindows, if_neg hchord]
  cases hkey : words.head?.bind Key.ofName? with
  | none => exact .inr rfl
  | some k =>
    obtain ⟨w, hw, hk⟩ := Option.bind_eq_some_iff.mp hkey
    exact .inl ⟨_, _, rfl, by simp, w, List.mem_of_mem_head? hw, .inr (by simp [hk])⟩

/-- What a line can say that has a word and is no comment. -/
theorem ofLine_cases {line first : Bytes} {rest : List Bytes}
    (hwords : line.words isBlank = first :: rest) (hrem : ¬first.startsWith "REM" = true) :
    (first.upper = "STRING" ∧ ofLine line = command .string [stringText line]) ∨
      (first.upper = "DELAY" ∧ ∃ ms, ofLine line = command .delay [ms]) ∨
      (first.upper = "REPEAT" ∧ ∃ count, ofLine line = again first count) ∨
      ((first.upper ≠ "STRING" ∧ first.upper ≠ "DELAY" ∧ first.upper ≠ "REPEAT") ∧
        ∃ kind args, ofLine line = command kind args ∧ kind ≠ .string ∧
          ∃ w ∈ line.words isBlank,
            isModifier w.upper = true ∨ (Key.ofName? w.upper).isSome = true) ∨
      ∃ cause ∈ causes, ofLine line = rejected first cause := by
  have hline := ofLine_eq line
  simp only [hwords, if_neg hrem] at hline
  -- The names are tried in this order; a word that is none of them may still be a modifier or a
  -- key.
  by_cases hstring : first.upper = "STRING"
  · rw [if_pos hstring] at hline
    exact .inl ⟨hstring, hline⟩
  by_cases hdelay : first.upper = "DELAY"
  · rw [if_neg hstring, if_pos hdelay] at hline
    rcases ofDelay_cases first (rest.headD []) with ⟨ms, hcase⟩ | hcase
    · exact .inr (.inl ⟨hdelay, ms, hline.trans hcase⟩)
    · exact .inr (.inr (.inr (.inr ⟨_, by decide, hline.trans hcase⟩)))
  by_cases hrepeat : first.upper = "REPEAT"
  · rw [if_neg hstring, if_neg hdelay, if_pos hrepeat] at hline
    rcases ofRepeat_cases first (rest.headD []) with ⟨count, hcase⟩ | hcase
    · exact .inr (.inr (.inl ⟨hrepeat, count, hline.trans hcase⟩))
    · exact .inr (.inr (.inr (.inr ⟨_, by decide, hline.trans hcase⟩)))
  rw [if_neg hstring, if_neg hdelay, if_neg hrepeat] at hline
  rcases ofKeys_cases first ((first :: rest).map Bytes.upper) with
    ⟨kind, args, hcase, hkind, word, hword, hnamed⟩ | hcase
  · obtain ⟨w, hw, rfl⟩ := List.mem_map.mp hword
    rw [hwords]
    exact .inr (.inr (.inr (.inl ⟨⟨hstring, hdelay, hrepeat⟩, kind, args, hline.trans hcase, hkind,
      w, hw, hnamed⟩)))
  · exact .inr (.inr (.inr (.inr ⟨_, by decide, hline.trans hcase⟩)))

/-- A comment is known by its first word. -/
theorem startsWith_rem_trim {line first : Bytes} {rest : List Bytes}
    (hwords : line.words isBlank = first :: rest) :
    (line.trim isBlank).startsWith "REM" = first.startsWith "REM" :=
  startsWith_trim (by decide) hwords

/-- A line says nothing exactly if it has no words or is a comment. -/
theorem ofLine_eq_nothing_iff (line : Bytes) :
    ofLine line = nothing ↔
      line.words isBlank = [] ∨ (line.trim isBlank).startsWith "REM" = true := by
  cases hwords : line.words isBlank with
  | nil => simp [ofLine_eq, hwords]
  | cons first rest =>
    rw [startsWith_rem_trim hwords]
    by_cases hrem : first.startsWith "REM" = true
    · simp [ofLine_eq, hwords, hrem]
    · rcases ofLine_cases hwords hrem with
        ⟨-, h⟩ | ⟨-, _, h⟩ | ⟨-, _, h⟩ | ⟨-, _, _, h, -⟩ | ⟨_, -, h⟩ <;> simp [h, hrem]

theorem exists_words_of_ne_nothing {line : Bytes} (h : ofLine line ≠ nothing) :
    ∃ first rest, line.words isBlank = first :: rest ∧ ¬first.startsWith "REM" = true := by
  rw [Ne, ofLine_eq_nothing_iff, not_or] at h
  obtain ⟨hne, hrem⟩ := h
  obtain ⟨first, rest, hwords⟩ := List.exists_cons_of_ne_nil hne
  rw [startsWith_rem_trim hwords] at hrem
  exact ⟨first, rest, hwords, hrem⟩

/-- The one argument of a `STRING` is the text of its line. -/
theorem eq_stringText_of_string {line : Bytes} {args : List Bytes}
    (h : ofLine line = command .string args) : args = [stringText line] := by
  have hsaid : ofLine line ≠ nothing := by simp [h]
  obtain ⟨first, rest, hwords, hrem⟩ := exists_words_of_ne_nothing hsaid
  rcases ofLine_cases hwords hrem with
    ⟨-, hcase⟩ | ⟨-, _, hcase⟩ | ⟨-, _, hcase⟩ | ⟨-, _, _, hcase, hkind, -⟩ | ⟨_, -, hcase⟩
  · exact (Reading.command.inj (h.symm.trans hcase)).2
  · simp [h] at hcase
  · simp [h] at hcase
  · exact absurd (Reading.command.inj (h.symm.trans hcase)).1.symm hkind
  · simp [h] at hcase

/-- A line that is rejected by itself is rejected under its first word, for one of the reasons. -/
theorem mem_causes_of_rejected {line token : Bytes} {cause : Cause}
    (h : ofLine line = rejected token cause) : cause ∈ causes := by
  have hsaid : ofLine line ≠ nothing := by simp [h]
  obtain ⟨first, rest, hwords, hrem⟩ := exists_words_of_ne_nothing hsaid
  rcases ofLine_cases hwords hrem with
    ⟨-, hcase⟩ | ⟨-, _, hcase⟩ | ⟨-, _, hcase⟩ | ⟨-, _, _, hcase, -⟩ | ⟨_, hmem, hcase⟩
  · simp [h] at hcase
  · simp [h] at hcase
  · simp [h] at hcase
  · simp [h] at hcase
  · exact (Reading.rejected.inj (h.symm.trans hcase)).2 ▸ hmem

/-- Only a repetition asks for copies. -/
theorem isRepetition_of_again {line token : Bytes} {count : Nat}
    (h : ofLine line = again token count) : LineByLine.IsRepetition line := by
  have hsaid : ofLine line ≠ nothing := by simp [h]
  obtain ⟨first, rest, hwords, hrem⟩ := exists_words_of_ne_nothing hsaid
  rcases ofLine_cases hwords hrem with
    ⟨-, hcase⟩ | ⟨-, _, hcase⟩ | ⟨hname, -⟩ | ⟨-, _, _, hcase, -⟩ | ⟨_, -, hcase⟩
  · simp [h] at hcase
  · simp [h] at hcase
  · exact ⟨first, rest, (LineByLine.words_eq line).trans hwords, hname⟩
  · simp [h] at hcase
  · simp [h] at hcase

/-- A repetition says no command of its own. -/
theorem not_isRepetition_of_command {line : Bytes} {kind : Kind} {args : List Bytes}
    (h : ofLine line = command kind args) : ¬LineByLine.IsRepetition line := by
  rintro ⟨first, rest, hwords, hname⟩
  rw [LineByLine.words_eq] at hwords
  have hrem : ¬first.startsWith "REM" = true := by
    intro hrem
    have hcomment := (startsWith_rem_trim hwords).trans hrem
    have hnothing := (ofLine_eq_nothing_iff line).mpr (.inr hcomment)
    simp [h] at hnothing
  rcases ofLine_cases hwords hrem with
    ⟨hstring, -⟩ | ⟨hdelay, -⟩ | ⟨-, _, hcase⟩ | ⟨⟨-, -, hother⟩, -⟩ | ⟨_, -, hcase⟩
  · exact absurd (hname.symm.trans hstring) (by decide)
  · exact absurd (hname.symm.trans hdelay) (by decide)
  · simp [h] at hcase
  · exact hother hname
  · simp [h] at hcase

theorem words_ne_nil_of_rem {line : Bytes} (h : (line.trim isBlank).startsWith "REM" = true) :
    line.words isBlank ≠ [] := by
  intro hwords
  rw [trim_eq_nil_iff.mpr hwords] at h
  exact absurd h (by decide)

end Reading

/-- The lines that leave no trace are those that say nothing. -/
theorem LineByLine.isSilent_iff (line : Bytes) :
    IsSilent line ↔ Reading.ofLine line = .nothing := by
  rw [Reading.ofLine_eq_nothing_iff, IsSilent, words_eq]
  cases hwords : line.words isBlank with
  | nil => simp
  | cons first rest => simp [Reading.startsWith_rem_trim hwords]

end KeyScript
