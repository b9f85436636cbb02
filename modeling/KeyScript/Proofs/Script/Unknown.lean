import KeyScript.Proofs.Script.ByLine
import KeyScript.Proofs.Text.Cuts
import KeyScript.Script.Vocabulary

/-!
# Unknown commands

A line is rejected as an unknown command exactly if its first word is no comment, no statement and
no key, and none of its words is a modifier. The parser finds this out last, after it has tried all
else in order; here it is one condition on the words of the line. It does not depend on what was
decoded before the line.

## Main definitions

- `chordNames` — the words that make a line a chord
- `Decoder.RejectsAsUnknown` — a decoder rejects a line as an unknown command

## Main results

- `Decoder.rejectsAsUnknown_iff` — when a line is rejected as an unknown command
- `words_append_vocabulary` — words of the vocabulary between gaps
- `Decoder.not_rejectsAsUnknown` — words of the vocabulary are known
- `exists_line_of_mem_errors` — the line that a diagnostic comes from
-/

namespace KeyScript

/-- The words that make a line a chord, wherever they stand in it. -/
def chordNames : List Bytes := ["CTRL", "CONTROL", "ALT", "SHIFT", "GUI", "WINDOWS"]

/-- The words that are tried as the first word of a line before keys are. -/
def statementNames : List Bytes := ["STRING", "DELAY", "REPEAT"]

theorem Cause.errorClass_eq_unknownCommand_iff {cause : Cause} :
    cause.errorClass = .unknownCommand ↔ cause = .unknownCommand := by
  cases cause <;> simp [errorClass]

namespace Reading

theorem mem_chordNames_iff {word : Bytes} :
    word ∈ chordNames ↔ word ∈ chordWords ∨ word = "GUI" ∨ word = "WINDOWS" := by
  simp only [chordNames, chordWords, List.mem_cons, List.not_mem_nil, or_false, or_assoc]

theorem ofDelay_ne_unknown {token token' number : Bytes} :
    ofDelay token number ≠ rejected token' .unknownCommand := by
  rw [ofDelay]
  split <;> simp

theorem ofRepeat_ne_unknown {token token' number : Bytes} :
    ofRepeat token number ≠ rejected token' .unknownCommand := by
  rw [ofRepeat]
  split
  · split <;> simp
  · simp

theorem ofKeys_eq_unknown_iff {token token' : Bytes} {words : List Bytes} :
    ofKeys token words = rejected token' .unknownCommand ↔
      token = token' ∧ words.head?.bind Key.ofName? = none ∧ ∀ w ∈ words, w ∉ chordNames := by
  have hnone : (∀ w ∈ words, w ∉ chordNames) ↔
      words.contains "GUI" = false ∧ words.contains "WINDOWS" = false ∧
        words.any chordWords.contains = false := by
    simp only [mem_chordNames_iff, List.contains_eq_mem, decide_eq_false_iff_not, List.any_eq_false,
      decide_eq_true_eq]
    constructor
    · intro h
      refine ⟨?_, ?_, ?_⟩
      · intro hmem
        exact h _ hmem (.inr (.inl rfl))
      · intro hmem
        exact h _ hmem (.inr (.inr rfl))
      · intro w hw hchord
        exact h w hw (.inl hchord)
    · rintro ⟨hgui, hwindows, hchord⟩ w hw (h | rfl | rfl)
      · exact hchord w hw h
      · exact hgui hw
      · exact hwindows hw
  rw [hnone, ofKeys]
  cases hgui : words.contains ("GUI" : Bytes) with
  | true => simp
  | false =>
    cases hwindows : words.contains ("WINDOWS" : Bytes) with
    | true => simp
    | false =>
      cases hchord : words.any chordWords.contains with
      | true => simp
      | false =>
        cases words.head?.bind Key.ofName? with
        | none => simp
        | some k => simp

/-- A line is unknown exactly if its first word is no comment, no statement and no key, and none of
its words is a modifier. -/
theorem ofLine_eq_unknown_iff {line token : Bytes} :
    ofLine line = rejected token .unknownCommand ↔
      ∃ rest, line.words isBlank = token :: rest ∧ ¬token.startsWith "REM" = true ∧
        token.upper ∉ statementNames ∧ Key.ofName? token.upper = none ∧
        ∀ w ∈ line.words isBlank, w.upper ∉ chordNames := by
  have hline := ofLine_eq line
  cases hwords : line.words isBlank with
  | nil =>
    rw [hwords] at hline
    simp [hline]
  | cons first rest =>
    simp only [hwords] at hline
    by_cases hrem : first.startsWith "REM" = true
    · rw [if_pos hrem] at hline
      simp only [hline, reduceCtorEq, List.cons.injEq, false_iff]
      rintro ⟨rest', ⟨rfl, -⟩, hplain, -⟩
      exact hplain hrem
    rw [if_neg hrem] at hline
    by_cases hname : first.upper ∈ statementNames
    · have hother : ofLine line ≠ rejected token .unknownCommand := by
        simp only [statementNames, List.mem_cons, List.not_mem_nil, or_false] at hname
        rcases hname with hname | hname | hname
        · rw [hline, if_pos hname]
          simp
        · rw [hline, if_neg (by rw [hname]; decide), if_pos hname]
          exact ofDelay_ne_unknown
        · rw [hline, if_neg (by rw [hname]; decide), if_neg (by rw [hname]; decide), if_pos hname]
          exact ofRepeat_ne_unknown
      simp only [hother, List.cons.injEq, false_iff]
      rintro ⟨rest', ⟨rfl, -⟩, -, hunnamed, -⟩
      exact hunnamed hname
    · have hnames := hname
      simp only [statementNames, List.mem_cons, List.not_mem_nil, or_false, not_or] at hnames
      rw [if_neg hnames.1, if_neg hnames.2.1, if_neg hnames.2.2] at hline
      rw [hline, ofKeys_eq_unknown_iff]
      simp only [List.map_cons, List.head?_cons, Option.bind_some, List.cons.injEq]
      constructor
      · rintro ⟨rfl, hkey, hchord⟩
        refine ⟨rest, ⟨rfl, rfl⟩, hrem, hname, hkey, ?_⟩
        intro w hw
        exact hchord w.upper (List.mem_map_of_mem hw)
      · rintro ⟨rest', ⟨rfl, rfl⟩, -, -, hkey, hchord⟩
        refine ⟨rfl, hkey, ?_⟩
        intro w hw
        rw [← List.map_cons] at hw
        obtain ⟨v, hv, rfl⟩ := List.mem_map.mp hw
        exact hchord v hv

end Reading

section Vocabulary

/-- Words of the vocabulary are not empty and consist of characters in ASCII that are no blanks. -/
theorem plain_vocabulary : (startWords ++ followWords).all (fun w => !w.isEmpty &&
    w.all fun b => b < 0x80 && !isBlank (Char.ofNat b.toNat)) = true := by decide +kernel

/-- A word of the vocabulary stays one word where there are gaps around it. -/
theorem words_append_vocabulary {before word behind : Bytes}
    (hword : word ∈ startWords ++ followWords)
    (hbefore : ∀ r ∈ (runes before).getLast?, isBlank r.char = true)
    (hbehind : ∀ r ∈ (runes behind).head?, isBlank r.char = true) :
    (before ++ (word ++ behind)).words isBlank =
      before.words isBlank ++ word :: behind.words isBlank := by
  have hplain := List.all_eq_true.mp plain_vocabulary word hword
  simp only [Bool.and_eq_true, Bool.not_eq_true', List.isEmpty_eq_false_iff] at hplain
  exact words_append_ascii hplain.1 hplain.2 hbefore hbehind

end Vocabulary

namespace Decoder

/-- A decoder that has read a line rejects it as an unknown command. -/
def RejectsAsUnknown (d : Decoder) (line : Bytes) : Prop :=
  ∃ e, (d.apply (.ofLine line)).1 = some (.rejected e) ∧ e.cause.errorClass = .unknownCommand

variable {line first : Bytes} {rest : List Bytes}

/-- What was decoded before a line does not make it unknown. -/
theorem rejectsAsUnknown_iff_ofLine (d : Decoder) (line : Bytes) :
    d.RejectsAsUnknown line ↔ ∃ token, Reading.ofLine line = .rejected token .unknownCommand := by
  constructor
  · rintro ⟨e, he, hclass⟩
    have hcause := Cause.errorClass_eq_unknownCommand_iff.mp hclass
    cases hreading : Reading.ofLine line with
    | nothing => simp [hreading, apply] at he
    | command kind args => simp [hreading, apply] at he
    | rejected token cause =>
      rw [hreading] at he
      cases he
      rw [show cause = .unknownCommand from hcause]
      exact ⟨token, rfl⟩
    | again token count =>
      cases hlast : d.last with
      | some c => simp [hreading, apply, hlast] at he
      | none =>
        simp only [hreading, apply, hlast, Option.some.injEq, Outcome.rejected.injEq] at he
        rw [← he] at hcause
        cases hcause
  · rintro ⟨token, hreading⟩
    refine ⟨⟨d.line, token, .unknownCommand⟩, ?_, rfl⟩
    rw [hreading]
    rfl

theorem rejectsAsUnknown_iff (d : Decoder) (hwords : line.words isBlank = first :: rest) :
    d.RejectsAsUnknown line ↔
      ¬first.startsWith "REM" = true ∧ first.upper ∉ statementNames ∧
        Key.ofName? first.upper = none ∧ ∀ w ∈ line.words isBlank, w.upper ∉ chordNames := by
  simp only [rejectsAsUnknown_iff_ofLine, Reading.ofLine_eq_unknown_iff, hwords, List.cons.injEq]
  constructor
  · rintro ⟨token, rest', ⟨rfl, rfl⟩, h⟩
    exact h
  · intro h
    exact ⟨first, rest, ⟨rfl, rfl⟩, h⟩

/-- Each word that may start a line is a comment, a statement, a key or a modifier. -/
theorem known_startWords : startWords.all (fun w => w.startsWith "REM" ||
    statementNames.contains w.upper || (Key.ofName? w.upper).isSome ||
    chordNames.contains w.upper) = true := by decide +kernel

/-- A line whose first word is in the vocabulary is known. -/
theorem not_rejectsAsUnknown (d : Decoder) (hwords : line.words isBlank = first :: rest)
    (hfirst : first ∈ startWords) : ¬d.RejectsAsUnknown line := by
  have hknown := List.all_eq_true.mp known_startWords first hfirst
  simp only [Bool.or_eq_true, List.contains_iff_mem] at hknown
  rw [rejectsAsUnknown_iff d hwords]
  rintro ⟨hrem, hname, hkey, hchord⟩
  rcases hknown with ((h | h) | h) | h
  · exact hrem h
  · exact hname h
  · rw [hkey] at h
    cases h
  · exact hchord first (by simp [hwords]) h

end Decoder

/-- A diagnostic comes from a line of the text and names its first word: the line says by itself
that it is rejected, or it asks for copies where there is nothing to copy. -/
theorem exists_line_of_mem_errors {text : Bytes} {cap : Int} {e : Diagnostic}
    (he : e ∈ (parseMaxRepeat text cap).errors) :
    ∃ (i : Nat) (line : Bytes), (splitLines text)[i]? = some line ∧ e.line = i + 1 ∧
      (Reading.ofLine line = .rejected e.token e.cause ∨
        e.cause = .nothingToRepeat ∧ ∃ count, Reading.ofLine line = .again e.token count) := by
  have hbounds := (accounts_parseMaxRepeat text cap).error_line e he
  obtain ⟨i, hi⟩ : ∃ i : Nat, e.line = i + 1 := ⟨(e.line - 1).toNat, by omega⟩
  have hlt : i < (splitLines text).length := by omega
  have hline := List.getElem?_eq_getElem hlt
  refine ⟨i, _, hline, hi, ?_⟩
  obtain ⟨last, -, herrors⟩ := exists_filter_line_eq text cap hline
  have hmem : e ∈ (parseMaxRepeat text cap).errors.filter fun e => e.line == (i + 1 : Int) :=
    List.mem_filter.mpr ⟨he, by simp [hi]⟩
  rw [herrors, ← Reading.outcomes_ofLine] at hmem
  cases hreading : Reading.ofLine (splitLines text)[i] with
  | nothing | command =>
    rw [hreading] at hmem
    cases hmem
  | rejected token cause =>
    rw [hreading] at hmem
    cases List.mem_singleton.mp hmem
    exact .inl rfl
  | again token count =>
    cases last with
    | some c => simp [hreading, Reading.outcomes] at hmem
    | none =>
      rw [hreading] at hmem
      cases List.mem_singleton.mp hmem
      exact .inr ⟨rfl, count, rfl⟩

end KeyScript
