import KeyScript.Proofs.Editor.Indexes
import KeyScript.Proofs.Editor.Tokens

/-!
# Highlighting and parsing agree

The tokens of a line are found without parsing it: from its words as they stand in the line, and
from whether the line was rejected. This module compares them with what the line says and with what
is made of it in the result of the whole text.

## Main definitions

- `Document.highlightsOn` — the tokens of one line
- `Shown` — the tokens of a line, by what the line says
- `TokensAgree` — the tokens of a line agree with a result

## Main results

- `shown_lineHighlights` — what is shown of a line
- `Document.highlightsOn_eq` — the tokens of one line are found from this line
- `tokensAgree_highlightsOn` — the tokens of a document agree with the result of its text
-/

namespace KeyScript

/-! ## What is shown of a line -/

/-- The tokens of the line with index `i`, by what the line says and by whether it was rejected. -/
inductive Shown (i : Nat) (line : Bytes) : Reading → Bool → List Highlight → Prop where
  | blank (h : line.words isBlank = []) (rejected : Bool) : Shown i line .nothing rejected []
  | comment (h : (line.trim isBlank).startsWith "REM" = true) (rejected : Bool) {t : Highlight}
      (ht : t.kind = .comment) : Shown i line .nothing rejected [t]
  | rejected {reading : Reading} (h : reading ≠ .nothing) : Shown i line reading true []
  | string {before text : Bytes} (hline : line = before ++ text)
      (hunits : line.units = before.units + text.units) {t : Highlight} (ht : t.kind = .keyword) :
      Shown i line (.command .string [text]) false
        (t :: if text = [] then [] else [⟨i, before.units, text.units, .text⟩])
  | other {reading : Reading} (h : reading ≠ .nothing)
      (hstring : ∀ args, reading ≠ .command .string args) {tokens : List Highlight}
      (hne : tokens ≠ []) (hkind : ∀ t ∈ tokens, t.kind ≠ .comment ∧ t.kind ≠ .text) :
      Shown i line reading false tokens

theorem isSome_chordKind? {word : Bytes}
    (h : isModifier word = true ∨ (Key.ofName? word).isSome = true) :
    (chordKind? word).isSome = true := by
  rw [chordKind?]
  by_cases hmodifier : isModifier word = true
  · simp [hmodifier]
  · simp [hmodifier, h.resolve_left hmodifier]

theorem chordKind?_ne {word : Bytes} {kind : HighlightKind} (h : chordKind? word = some kind) :
    kind ≠ .comment ∧ kind ≠ .text := by
  rw [chordKind?] at h
  split at h
  · cases h
    decide
  split at h
  · cases h
    decide
  · cases h

section Line

variable {i : Nat} {line : Bytes} {w : LocatedWord} {ws : List LocatedWord}

/-- A `STRING` line is shown as its name and, if there is a second word, the text from there on. -/
theorem shown_string (hwords : line.wordsAt isBlank = w :: ws) :
    Shown i line (.command .string [Reading.stringText line]) false
      (w.highlight i .keyword :: (ws.head?.map fun v => v.highlightRest i line .text).toList) := by
  have hrest : Reading.stringText line = Rune.join (afterFirstWord isBlank (runes line)) := rfl
  obtain ⟨before, hline, hunits, hnone, hstart⟩ := exists_append_afterFirstWord hwords hrest
  have htext : (ws.head?.map fun v => v.highlightRest i line .text).toList =
      if Reading.stringText line = [] then []
      else [⟨i, before.units, (Reading.stringText line).units, .text⟩] := by
    cases ws with
    | nil => rw [if_pos (hnone.mp rfl)]; rfl
    | cons v ws =>
      have hv : v.start = before.units := hstart v rfl
      have hlength : line.units - v.start = (Reading.stringText line).units := by omega
      rw [if_neg (by simp [← hnone]), ← hv, ← hlength]
      rfl
  rw [htext]
  exact .string hline hunits rfl

theorem kind_ne_of_mem_cons_head? {t : Highlight}
    (ht : t ∈ w.highlight i .keyword :: (ws.head?.map fun v => v.highlight i .number).toList) :
    t.kind ≠ .comment ∧ t.kind ≠ .text := by
  rcases List.mem_cons.mp ht with rfl | ht
  · simp [LocatedWord.highlight]
  · obtain ⟨v, -, rfl⟩ := Option.map_eq_some_iff.mp (Option.mem_toList.mp ht)
    simp [LocatedWord.highlight]

theorem kind_ne_of_mem_filterMap {t : Highlight}
    (ht : t ∈ ws.filterMap fun v => (chordKind? v.text.upper).map (v.highlight i)) :
    t.kind ≠ .comment ∧ t.kind ≠ .text := by
  obtain ⟨v, -, hv⟩ := List.mem_filterMap.mp ht
  obtain ⟨kind, hkind, rfl⟩ := Option.map_eq_some_iff.mp hv
  exact chordKind?_ne hkind

theorem filterMap_chordKind?_ne_nil (hw : w ∈ ws) (h : (chordKind? w.text.upper).isSome = true) :
    (ws.filterMap fun v => (chordKind? v.text.upper).map (v.highlight i)) ≠ [] := by
  obtain ⟨kind, hkind⟩ := Option.isSome_iff_exists.mp h
  refine List.ne_nil_of_mem (a := w.highlight i kind) (List.mem_filterMap.mpr ⟨w, hw, ?_⟩)
  rw [hkind, Option.map_some]

/-- A line that is not rejected is shown as what it says; a comment is shown in any case. -/
theorem shown_lineHighlights (i : Nat) (line : Bytes) {rejected : Bool}
    (h : rejected = false → ∀ token cause, Reading.ofLine line ≠ .rejected token cause) :
    Shown i line (Reading.ofLine line) rejected (lineHighlights rejected i line) := by
  have hnothing := Reading.ofLine_eq_nothing_iff line
  have hmap := map_text_wordsAt isBlank line
  rw [lineHighlights]
  cases hwords : line.wordsAt isBlank with
  | nil =>
    rw [hwords] at hmap
    rw [hnothing.mpr (.inl hmap.symm)]
    exact .blank hmap.symm rejected
  | cons w ws =>
    rw [hwords, List.map_cons] at hmap
    have hstarts := Reading.startsWith_rem_trim hmap.symm
    by_cases hrem : w.text.startsWith "REM" = true
    · simp only [if_pos hrem, hnothing.mpr (.inr (hstarts.trans hrem))]
      exact .comment (hstarts.trans hrem) rejected rfl
    have hsaid : Reading.ofLine line ≠ .nothing := by simp [hnothing, ← hmap, hstarts, hrem]
    cases rejected with
    | true =>
      simp only [if_neg hrem, if_true]
      exact .rejected hsaid
    | false =>
      simp only [if_neg hrem, Bool.false_eq_true, if_false]
      -- From here on both sides go by the first word, so there is one goal for each reading.
      rcases Reading.ofLine_cases hmap.symm hrem with
        ⟨hname, hcase⟩ | ⟨hname, ms, hcase⟩ | ⟨hname, count, hcase⟩ |
          ⟨⟨hstring, hdelay, hrepeat⟩, kind, args, hcase, hkind, word, hword, hnamed⟩ |
          ⟨cause, -, hcase⟩
      · rw [hcase, if_pos hname]
        exact shown_string hwords
      · rw [if_neg (by rw [hname]; decide), if_pos (by simp [hname])]
        exact .other hsaid (by simp [hcase]) (by simp) fun t => kind_ne_of_mem_cons_head?
      · rw [if_neg (by rw [hname]; decide), if_pos (by simp [hname])]
        exact .other hsaid (by simp [hcase]) (by simp) fun t => kind_ne_of_mem_cons_head?
      · rw [if_neg hstring, if_neg (by simp [hdelay, hrepeat]), ← hwords]
        rw [← map_text_wordsAt] at hword
        obtain ⟨v, hv, rfl⟩ := List.mem_map.mp hword
        refine .other hsaid (by simp [hcase, hkind]) ?_ fun t => kind_ne_of_mem_filterMap
        exact filterMap_chordKind?_ne_nil hv (isSome_chordKind? hnamed)
      · exact absurd hcase (h rfl _ cause)

end Line

namespace Shown

variable {i : Nat} {line : Bytes} {reading : Reading} {rejected : Bool} {tokens : List Highlight}

theorem ne_nil_iff (h : Shown i line reading rejected tokens)
    (hreading : Reading.ofLine line = reading) :
    tokens ≠ [] ↔ line.words isBlank ≠ [] ∧ (rejected = false ∨ reading = .nothing) := by
  have hwords : reading ≠ .nothing → line.words isBlank ≠ [] := by
    intro hsaid hwords
    exact hsaid (hreading ▸ (Reading.ofLine_eq_nothing_iff line).mpr (.inl hwords))
  cases h with
  | blank h => simp [h]
  | comment h => simp [Reading.words_ne_nil_of_rem h]
  | rejected h => simp [h]
  | string => simpa using hwords (by simp)
  | other h _ hne _ => simpa [hne] using hwords h

theorem comment_iff (h : Shown i line reading rejected tokens)
    (hreading : Reading.ofLine line = reading) :
    (∃ t ∈ tokens.head?, t.kind = .comment) ↔ (line.trim isBlank).startsWith "REM" = true := by
  have hrem : reading ≠ .nothing → ¬(line.trim isBlank).startsWith "REM" = true := by
    intro hsaid hrem
    exact hsaid (hreading ▸ (Reading.ofLine_eq_nothing_iff line).mpr (.inr hrem))
  cases h with
  | blank h =>
    have hrem : ¬(line.trim isBlank).startsWith "REM" = true :=
      fun hrem => Reading.words_ne_nil_of_rem hrem h
    simp [hrem]
  | comment h _ ht => simp [h, ht]
  | rejected h => simp [hrem h]
  | string _ _ ht => simp [hrem (by simp), ht]
  | other h _ _ hkind =>
    refine iff_of_false ?_ (hrem h)
    rintro ⟨t, ht, hcomment⟩
    exact (hkind t (List.mem_of_mem_head? ht)).1 hcomment

/-- The text of a `STRING` is the end of its line, and the one token for a text covers it. -/
theorem exists_before (h : Shown i line reading false tokens) {args : List Bytes}
    (hreading : reading = .command .string args) :
    ∃ before text, args = [text] ∧ line = before ++ text ∧
      line.units = before.units + text.units ∧
      tokens.filter (fun t => t.kind = .text) =
        if text = [] then [] else [⟨i, before.units, text.units, .text⟩] := by
  cases h with
  | blank => cases hreading
  | comment => cases hreading
  | @string before text hline hunits t ht =>
    cases hreading
    refine ⟨before, text, rfl, hline, hunits, ?_⟩
    split <;> simp [ht]
  | other _ hstring => exact absurd hreading (hstring args)

theorem exists_text (h : Shown i line reading rejected tokens) {t : Highlight} (ht : t ∈ tokens)
    (hkind : t.kind = .text) : ∃ text, text ≠ [] ∧ reading = .command .string [text] := by
  cases h with
  | blank => cases ht
  | comment _ _ hcomment =>
    rw [List.mem_singleton.mp ht, hcomment] at hkind
    cases hkind
  | rejected => cases ht
  | @string before text _ _ keyword hkeyword =>
    refine ⟨text, fun htext => ?_, rfl⟩
    rw [if_pos htext, List.mem_singleton] at ht
    rw [ht, hkeyword] at hkind
    cases hkind
  | other _ _ _ hkinds => exact absurd hkind (hkinds t ht).2

end Shown

/-! ## The tokens of a line in a document -/

namespace Document

/-- The tokens of the line with index `i`. -/
def highlightsOn (d : Document) (i : Nat) : List Highlight :=
  d.highlights.filter fun h => h.line == i

theorem highlightsOn_eq {d : Document} {i : Nat} {line : Bytes} (hline : d.lines[i]? = some line) :
    d.highlightsOn i = lineHighlights (d.isRejected i) i line := by
  let pieces := d.lines.zipIdx.map fun p => lineHighlights (d.isRejected p.2) p.2 p.1
  have hpieces : ∀ j : Nat, pieces[j]? = d.lines[j]?.map (lineHighlights (d.isRejected j) j) := by
    intro j
    rw [List.getElem?_map, List.getElem?_zipIdx, Nat.zero_add, Option.map_map]
    rfl
  have hseparates : Separates (fun j (h : Highlight) => h.line == j) pieces := by
    -- A token carries the index of the line from which it was found.
    intro j piece hpiece h hh k
    rw [hpieces] at hpiece
    obtain ⟨text, -, rfl⟩ := Option.map_eq_some_iff.mp hpiece
    have hj : h.line = j := ((areTokensOn_lineHighlights _ _ _).isOn h hh).line_eq
    rw [← hj]
    rfl
  have hfilter := hseparates.filter_flatten i
  rw [hpieces, hline] at hfilter
  exact hfilter

end Document

/-- The tokens of the line with index `i` agree with a result. -/
structure TokensAgree (r : Result) (i : Nat) (line : Bytes) (tokens : List Highlight) : Prop where
  /-- There are tokens exactly if the line has a word and no diagnostic. -/
  ne_nil_iff : tokens ≠ [] ↔ line.words isBlank ≠ [] ∧ r.errorCount (i + 1) = 0
  /-- The first token is a comment exactly if the line is one. -/
  comment_iff : (∃ t ∈ tokens.head?, t.kind = .comment) ↔
    (line.trim isBlank).startsWith "REM" = true
  /-- Of the lines with words, the comments are those that leave no trace. -/
  skipped_iff : (line.trim isBlank).startsWith "REM" = true ↔
    line.words isBlank ≠ [] ∧ r.commandCount (i + 1) = 0 ∧ r.errorCount (i + 1) = 0
  /-- The text of a `STRING` is the end of its line. If it is not empty, the one token for a text
  covers it; if it is empty, there is none. A repetition has copies of commands of other lines. -/
  string : ∀ c ∈ r.commands, c.line = i + 1 → c.kind = .string → ¬LineByLine.IsRepetition line →
    ∃ before text, c.args = [text] ∧ line = before ++ text ∧
      line.units = before.units + text.units ∧
      tokens.filter (fun t => t.kind = .text) =
        if text = [] then [] else [⟨i, before.units, text.units, .text⟩]
  /-- No other line has a token for a text, so no repetition does. -/
  exists_string : ∀ t ∈ tokens, t.kind = .text → ¬LineByLine.IsRepetition line ∧
    ∃ c ∈ r.commands, c.line = i + 1 ∧ c.kind = .string ∧ c.args ≠ [[]]

/-- On each line of a text the tokens of the document agree with the result of the text: which lines
have any, which lines are shown as comments, and what is shown as the text of a `STRING`. -/
theorem tokensAgree_highlightsOn (uri text : Bytes) (i : Nat) (line : Bytes)
    (hline : (splitLines text)[i]? = some line) :
    TokensAgree (parse text) i line ((Document.ofText uri text).highlightsOn i) := by
  have hrejected := Document.isRejected_ofText uri text i
  have hshown : Shown i line (Reading.ofLine line) ((Document.ofText uri text).isRejected i)
      ((Document.ofText uri text).highlightsOn i) := by
    rw [Document.highlightsOn_eq hline]
    refine shown_lineHighlights i line fun hkept token cause hreading => ?_
    exact errorCount_ne_zero_of_rejected hline hreading (hrejected.mp hkept)
  have hcounts := ofLine_eq_nothing_iff_counts hline
  refine ⟨?_, hshown.comment_iff rfl, ?_, ?_, ?_⟩
  · rw [hshown.ne_nil_iff rfl, hrejected, hcounts]
    constructor
    · rintro ⟨hwords, hnone | ⟨-, hnone⟩⟩
      · exact ⟨hwords, hnone⟩
      · exact ⟨hwords, hnone⟩
    · exact fun ⟨hwords, hnone⟩ => ⟨hwords, .inl hnone⟩
  · rw [← hcounts, Reading.ofLine_eq_nothing_iff]
    constructor
    · exact fun hrem => ⟨Reading.words_ne_nil_of_rem hrem, .inr hrem⟩
    · exact fun ⟨hwords, hsilent⟩ => hsilent.resolve_left hwords
  · intro c hc hnumber hkind hrepetition
    -- The line is no repetition, so the command is what the line says.
    have hreading := isReadFrom_of_mem_commands hline hrepetition hc hnumber
    rw [Command.IsReadFrom, hkind] at hreading
    have hkept := hrejected.mpr (mem_commands_of_command hline hreading).2
    rw [hkept] at hshown
    exact hshown.exists_before hreading
  · intro t ht hkind
    obtain ⟨arg, hne, hreading⟩ := hshown.exists_text ht hkind
    exact ⟨Reading.not_isRepetition_of_command hreading, _,
      (mem_commands_of_command hline hreading).1, rfl, rfl, by simpa using hne⟩

/-- A repetition of a `STRING` has the command of the line before it, with its text, and no token
for a text. -/
theorem copied_string_without_token :
    (⟨.string, ["a"], 2⟩ : Command) ∈ (parse "STRING a\nREPEAT 1").commands ∧
      (Document.ofText [] "STRING a\nREPEAT 1").highlightsOn 1 =
        [⟨1, 0, 6, .keyword⟩, ⟨1, 7, 1, .number⟩] := by
  constructor
  · rw [parse_eq_ofOutcomes]
    decide +kernel
  · rw [Document.ofText, Document.setText, parseMaxRepeat_eq_result]
    decide +kernel

/-- A `STRING` with blanks around it and a character of two units, and a repetition of it. -/
def repeatedString : Bytes := " string  🦆 x \nREPEAT 2"

/-- A repetition of a `STRING` has a token for its number and none for the text. -/
theorem tokensAgree_highlightsOn_repeatedString :
    (TokensAgree (parse repeatedString) 0 " string  🦆 x "
        ((Document.ofText [] repeatedString).highlightsOn 0) ∧
      (Document.ofText [] repeatedString).highlightsOn 0 =
        [⟨0, 1, 6, .keyword⟩, ⟨0, 9, 5, .text⟩]) ∧
      TokensAgree (parse repeatedString) 1 "REPEAT 2"
        ((Document.ofText [] repeatedString).highlightsOn 1) ∧
      (Document.ofText [] repeatedString).highlightsOn 1 =
        [⟨1, 0, 6, .keyword⟩, ⟨1, 7, 1, .number⟩] := by
  have hfirst : (splitLines repeatedString)[0]? = some (" string  🦆 x " : Bytes) := by
    decide +kernel
  have hsecond : (splitLines repeatedString)[1]? = some ("REPEAT 2" : Bytes) := by
    decide +kernel
  refine ⟨⟨tokensAgree_highlightsOn [] _ 0 _ hfirst, ?_⟩,
    tokensAgree_highlightsOn [] _ 1 _ hsecond, ?_⟩
  · rw [Document.ofText, Document.setText, parseMaxRepeat_eq_result]
    decide +kernel
  · rw [Document.ofText, Document.setText, parseMaxRepeat_eq_result]
    decide +kernel

end KeyScript
