import Mathlib.Data.List.DropRight
import KeyScript.Editor.Completion
import KeyScript.Proofs.Script.Unknown
import KeyScript.Proofs.Text.Case

/-!
# Completed lines are known

A completion is offered for the word that touches the place of the cursor. If the word is put there,
the line up to its end is one that the parser knows, with one exception: behind `WIN` the words of a
chord are offered, but `WIN` does not make a line a chord.

## Main definitions

- `Bytes.withoutLastWord` — a text without the word that touches its end

## Main results

- `cursorWords_fst` — the words that decide what is offered
- `Document.rejectsAsUnknown_complete_iff` — when a completed line is unknown
-/

namespace KeyScript

/-- A text without the characters at its end that are no separators. -/
def Bytes.withoutLastWord (sep : Char → Bool) (s : Bytes) : Bytes :=
  Rune.join ((runes s).rdropWhile fun r => !sep r.char)

section LastWord

variable {sep : Char → Bool} {col : Nat} {rs : List Rune} {w : LocatedWord}

theorem getLast_rdropWhile (sep : Char → Bool) (rs : List Rune) :
    ∀ r ∈ (rs.rdropWhile fun r => !sep r.char).getLast?, sep r.char = true := by
  intro r hr
  obtain ⟨hne, rfl⟩ := List.mem_getLast?_eq_getLast hr
  simpa using List.rdropWhile_last_not _ rs hne

theorem exists_append_rdropWhile (sep : Char → Bool) (rs : List Rune) :
    ∃ word, rs = (rs.rdropWhile fun r => !sep r.char) ++ word ∧ ∀ r ∈ word, sep r.char = false := by
  refine ⟨rs.rtakeWhile fun r => !sep r.char, List.rdropWhile_append_rtakeWhile.symm, ?_⟩
  intro r hr
  simpa using List.mem_rtakeWhile_imp hr

theorem runes_withoutLastWord (sep : Char → Bool) (s : Bytes) :
    runes (s.withoutLastWord sep) = (runes s).rdropWhile fun r => !sep r.char := by
  obtain ⟨word, hsplit, -⟩ := exists_append_rdropWhile sep (runes s)
  exact runes_join_left hsplit

/-- Words end before a gap that stands at the end. -/
theorem finish_lt_of_getLast (hrs : ∀ r ∈ rs.getLast?, sep r.char = true)
    (hw : w ∈ locateWords sep col rs) : w.finish < col + unitsOf rs := by
  rcases List.eq_nil_or_concat' rs with rfl | ⟨front, r, rfl⟩
  · cases hw
  · have hgap : ∀ s ∈ [r], sep s.char = true := by simpa using hrs
    rw [locateWords_append_gap hgap] at hw
    have hbounds := bounds_of_mem_locateWords hw
    have hwide : 0 < unitsOf [r] := unitsOf_pos (List.cons_ne_nil r [])
    rw [unitsOf_append]
    omega

/-- What is offered at a place depends on the words of the text without the word that touches the
place. -/
theorem cursorWords_fst (before : Bytes) :
    (cursorWords before).1 = (before.withoutLastWord isBlank).wordsAt isBlank := by
  rw [Bytes.wordsAt, runes_withoutLastWord]
  have hlast := getLast_rdropWhile isBlank (runes before)
  obtain ⟨word, hsplit, hword⟩ := exists_append_rdropWhile isBlank (runes before)
  generalize (runes before).rdropWhile (fun r => !isBlank r.char) = base at *
  have hunits : before.units = unitsOf base + unitsOf word := by
    rw [Bytes.units, hsplit, unitsOf_append]
  have hwords := locateWords_append_of_getLast hlast 0 word
  rw [← hsplit, Nat.zero_add] at hwords
  rw [cursorWords, Bytes.wordsAt, hwords, hunits]
  by_cases hne : word = []
  · -- No word touches the end, since what is there is a gap or nothing.
    subst hne
    simp only [locateWords, List.append_nil, unitsOf_nil, Nat.add_zero]
    split
    next w hw =>
      have hlt := finish_lt_of_getLast hlast (List.mem_of_getLast? hw)
      rw [if_neg (by omega)]
    · rfl
  · have hone : locateWords isBlank (unitsOf base) (word ++ []) =
        ⟨word, unitsOf base, unitsOf base + unitsOf word⟩ :: [] :=
      locateWords_word_append hne hword (by simp) (unitsOf base)
    rw [List.append_nil] at hone
    simp [hone]

end LastWord

section Offers

variable {line base : Bytes} {rest : List Bytes}

/-- What is offered at a place starts a line or follows a modifier. -/
theorem Document.mem_of_mem_complete {d : Document} {line column : Int} {item : Completion}
    (h : item ∈ d.complete line column) :
    ∃ text, d.line? line = some text ∧
      match ((text.takeUnits column).withoutLastWord isBlank).words isBlank with
      | [] => item.label ∈ startWords
      | first :: _ => isModifier first.upper = true ∧ item.label ∈ followWords := by
  rw [complete] at h
  cases htext : d.line? line with
  | none => simp [htext] at h
  | some text =>
    refine ⟨text, rfl, ?_⟩
    simp only [htext, List.mem_map, List.mem_filter, cursorWords_fst] at h
    obtain ⟨label, ⟨hlabel, -⟩, rfl⟩ := h
    rw [← map_text_wordsAt]
    cases hwords : ((text.takeUnits column).withoutLastWord isBlank).wordsAt isBlank with
    | nil => simpa [hwords, wordsBehind] using hlabel
    | cons w ws =>
      rw [hwords, wordsBehind] at hlabel
      by_cases hmodifier : isModifier w.text.upper = true
      · exact ⟨hmodifier, by simpa [hmodifier] using hlabel⟩
      · simp [hmodifier] at hlabel

/-- A word of the vocabulary becomes the last word. -/
theorem words_withoutLastWord_append {s label : Bytes}
    (hlabel : label ∈ startWords ++ followWords) :
    (s.withoutLastWord isBlank ++ label).words isBlank =
      (s.withoutLastWord isBlank).words isBlank ++ [label] := by
  have hbase : ∀ r ∈ (runes (s.withoutLastWord isBlank)).getLast?, isBlank r.char = true := by
    rw [runes_withoutLastWord]
    exact getLast_rdropWhile isBlank (runes s)
  have hnil : ∀ r ∈ (runes []).head?, isBlank r.char = true := by
    intro r hr
    cases hr
  have hwords := words_append_vocabulary hlabel hbase hnil
  rw [List.append_nil] at hwords
  exact hwords

theorem mem_chordNames_or_eq_win {word : Bytes} (h : isModifier word = true) :
    word ∈ chordNames ∨ word = "WIN" := by
  have hwords : modifierWords.all (fun w => chordNames.contains w || w == "WIN") = true := by decide
  have hword := List.all_eq_true.mp hwords word (by simpa [isModifier] using h)
  simpa using hword

/-- A line that begins with `WIN` is unknown unless it is a chord by another word. -/
theorem Decoder.rejectsAsUnknown_iff_of_win (d : Decoder) {first : Bytes}
    (hwords : line.words isBlank = first :: rest) (hwin : first.upper = "WIN") :
    d.RejectsAsUnknown line ↔ ∀ w ∈ line.words isBlank, w.upper ∉ chordNames := by
  have hrem : ¬first.startsWith "REM" = true := by
    intro h
    have hupper := Bytes.startsWith_upper (by decide) (by decide +kernel) h
    rw [hwin] at hupper
    exact absurd hupper (by decide)
  have hname : first.upper ∉ statementNames := by
    rw [hwin]
    decide
  have hkey : Key.ofName? first.upper = none := by
    rw [hwin]
    decide
  rw [d.rejectsAsUnknown_iff hwords]
  exact ⟨fun h => h.2.2.2, fun h => ⟨hrem, hname, hkey, h⟩⟩

end Offers

/-- Let `base` be a line up to a place, without the word that touches the place. A word that is
offered there, put behind `base`, gives a line that no decoder rejects as an unknown command, unless
`base` begins with `WIN` and none of the words of the line makes it a chord; then every decoder
rejects it. -/
theorem Document.rejectsAsUnknown_complete_iff {d : Document} {line column : Int}
    {item : Completion} (h : item ∈ d.complete line column) (decoder : Decoder) :
    ∃ text base : Bytes, d.line? line = some text ∧
      base = (text.takeUnits column).withoutLastWord isBlank ∧
      (decoder.RejectsAsUnknown (base ++ item.label) ↔
        (base.words isBlank).head?.map Bytes.upper = some ("WIN" : Bytes) ∧
          ∀ w ∈ (base ++ item.label).words isBlank, w.upper ∉ chordNames) := by
  obtain ⟨text, htext, hitem⟩ := mem_of_mem_complete h
  refine ⟨text, _, htext, rfl, ?_⟩
  have happend := @words_withoutLastWord_append (text.takeUnits column) item.label
  generalize (text.takeUnits column).withoutLastWord isBlank = base at *
  cases hwords : base.words isBlank with
  | nil =>
    rw [hwords] at hitem
    have hline := happend (List.mem_append_left followWords hitem)
    rw [hwords, List.nil_append] at hline
    simp [decoder.not_rejectsAsUnknown hline hitem]
  | cons first rest =>
    rw [hwords] at hitem
    obtain ⟨hmodifier, hlabel⟩ := hitem
    have hline := happend (List.mem_append_right startWords hlabel)
    rw [hwords, List.cons_append] at hline
    have hmem : first ∈ (base ++ item.label).words isBlank := by
      rw [hline]
      exact List.mem_cons_self
    rcases mem_chordNames_or_eq_win hmodifier with hchord | hwin
    · -- The first word makes the line a chord, so neither side holds.
      have hknown : ¬∀ w ∈ (base ++ item.label).words isBlank, w.upper ∉ chordNames :=
        fun hnone => hnone first hmem hchord
      rw [decoder.rejectsAsUnknown_iff hline]
      exact ⟨fun h => absurd h.2.2.2 hknown, fun h => absurd h.2 hknown⟩
    · rw [decoder.rejectsAsUnknown_iff_of_win hline hwin, List.head?_cons, Option.map_some, hwin]
      simp

/-- Behind `win`, the word `ENTER` is offered for `en`, and the line is rejected. -/
theorem Document.rejectsAsUnknown_complete_win :
    let d := ofText "" "\uFEFFwin en"
    ⟨"ENTER", .constant⟩ ∈ d.complete 0 7 ∧
      ∀ decoder : Decoder, decoder.RejectsAsUnknown "\uFEFFwin ENTER" := by
  intro d
  have hitem : ⟨"ENTER", .constant⟩ ∈ d.complete 0 7 := by decide +kernel
  refine ⟨hitem, fun decoder => ?_⟩
  obtain ⟨text, base, htext, rfl, hiff⟩ := rejectsAsUnknown_complete_iff hitem decoder
  have hline : d.line? 0 = some "\uFEFFwin en" := by decide +kernel
  rw [hline] at htext
  cases htext
  exact hiff.mpr (by decide +kernel)

end KeyScript
