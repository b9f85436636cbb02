import KeyScript.Proofs.Script.Readings
import KeyScript.Proofs.Text.Encoding

/-!
# Indented scripts

Blanks at the start of lines have no influence on what a script says, not even on the text that a
line types. A blank may be any white space or a byte order mark, and each line may have its own. One
blank needs care: a carriage return that is put on an empty line stands before a line feed then and
belongs to the end of the line.

## Main definitions

- `padLines` — a script with characters put in front of its lines

## Main results

- `Reading.ofLine_blanks_append` — blanks in front of a line
- `LineByLine.run_congr` — lines count only by what they say
- `parse_padLines` — the result of an indented script
-/

namespace KeyScript

open Bytes (lineFeed carriageReturn)

/-- A script with characters put in front of each of its lines, `pad i` in front of the line that
stands behind `i` others. -/
def padLines (pad : Nat → List Char) (text : Bytes) : Bytes :=
  Bytes.joinWith [lineFeed]
    ((text.splitAt lineFeed).mapIdx fun i line => Bytes.ofChars (pad i) ++ line)

section Blanks

variable {cs : List Char}

theorem isBlank_of_mem_map_ofChar (h : ∀ c ∈ cs, isBlank c = true) :
    ∀ r ∈ cs.map Rune.ofChar, isBlank r.char = true := by
  intro r hr
  obtain ⟨c, hc, rfl⟩ := List.mem_map.mp hr
  exact h c hc

theorem words_blanks_append (h : ∀ c ∈ cs, isBlank c = true) (line : Bytes) :
    (Bytes.ofChars cs ++ line).words isBlank = line.words isBlank := by
  rw [Bytes.words, runes_ofChars_append, wordRuns_gap_append (isBlank_of_mem_map_ofChar h)]
  rfl

namespace Reading

theorem stringText_blanks_append (h : ∀ c ∈ cs, isBlank c = true) (line : Bytes) :
    stringText (Bytes.ofChars cs ++ line) = stringText line := by
  have hskip : skipSpace isBlank (runes (Bytes.ofChars cs ++ line)) =
      skipSpace isBlank (runes line) := by
    rw [runes_ofChars_append]
    exact List.dropWhile_append_of_pos (isBlank_of_mem_map_ofChar h)
  rw [stringText, stringText, afterFirstWord, afterFirstWord, hskip]

/-- Blanks in front of a line change nothing that it says. -/
theorem ofLine_blanks_append (h : ∀ c ∈ cs, isBlank c = true) (line : Bytes) :
    ofLine (Bytes.ofChars cs ++ line) = ofLine line := by
  rw [ofLine_eq, ofLine_eq, words_blanks_append h, stringText_blanks_append h]

theorem ofLine_of_isBlank {line : Bytes} (h : ∀ r ∈ runes line, isBlank r.char = true) :
    ofLine line = nothing := by
  have hwords : line.words isBlank = [] := by
    have hruns := wordRuns_gap_append h []
    rw [List.append_nil] at hruns
    rw [Bytes.words, hruns]
    rfl
  rw [ofLine_eq, hwords]

/-- The same for a line that is followed by a line feed. -/
theorem ofLine_dropEnd_blanks_append (h : ∀ c ∈ cs, isBlank c = true) (line : Bytes) :
    ofLine ((Bytes.ofChars cs ++ line).dropEnd [carriageReturn]) =
      ofLine (line.dropEnd [carriageReturn]) := by
  by_cases hline : line = []
  · -- The line feed may take a carriage return from the blanks, and blanks are left.
    subst hline
    have hblank : ∀ r ∈ runes (Bytes.ofChars cs), isBlank r.char = true := by
      rw [runes_ofChars]
      exact isBlank_of_mem_map_ofChar h
    rw [List.append_nil, Bytes.dropEnd_singleton]
    split
    · next hlast =>
      obtain ⟨rest, hrest⟩ := List.getLast?_eq_some_iff.mp hlast
      rw [hrest, runes_append_ascii (by decide)] at hblank
      rw [hrest, List.dropLast_concat]
      apply ofLine_of_isBlank
      intro r hr
      exact hblank r (List.mem_append_left _ hr)
    · exact ofLine_of_isBlank hblank
  · rw [Bytes.dropEnd_append hline, ofLine_blanks_append h]

end Reading

end Blanks

/-- Lines count only by what they say. -/
theorem LineByLine.run_congr {lines lines' : List Bytes}
    (h : List.Forall₂ (fun line line' => Reading.ofLine line = Reading.ofLine line') lines lines')
    (cap : Int) (last : Option Command) (n : Nat) :
    run cap last n lines = run cap last n lines' := by
  induction h generalizing last n with
  | nil => rfl
  | cons hline _ ih =>
    rw [run, run, ← Reading.outcomes_ofLine, ← Reading.outcomes_ofLine, hline, ih]

theorem lineFeed_notMem_ofChars {cs : List Char} (h : ∀ c ∈ cs, c ≠ '\n') :
    lineFeed ∉ Bytes.ofChars cs := by
  intro hmem
  obtain ⟨c, hc, hbyte⟩ := List.mem_flatMap.mp hmem
  have hcode := toNat_eq_of_mem_encode hbyte (by decide)
  exact h c hc (Char.toNat_inj.mp hcode)

/-- Line by line an indented script says the same. -/
theorem forall₂_ofLine_joinWith {pad : Nat → List Char}
    (h : ∀ i, ∀ c ∈ pad i, isBlank c = true ∧ c ≠ '\n') {pieces : List Bytes} (hne : pieces ≠ [])
    (hfeed : ∀ piece ∈ pieces, lineFeed ∉ piece) :
    List.Forall₂ (fun line line' => Reading.ofLine line = Reading.ofLine line')
      (splitLines (Bytes.joinWith [lineFeed]
        (pieces.mapIdx fun i line => Bytes.ofChars (pad i) ++ line)))
      (splitLines (Bytes.joinWith [lineFeed] pieces)) := by
  induction pieces generalizing pad with
  | nil => exact absurd rfl hne
  | cons piece pieces ih =>
    have hblank : ∀ c ∈ pad 0, isBlank c = true := fun c hc => (h 0 c hc).1
    have hpiece : lineFeed ∉ piece := hfeed piece List.mem_cons_self
    have hpadded : lineFeed ∉ Bytes.ofChars (pad 0) ++ piece := by
      rw [List.mem_append, not_or]
      exact ⟨lineFeed_notMem_ofChars fun c hc => (h 0 c hc).2, hpiece⟩
    rw [List.mapIdx_cons]
    cases pieces with
    | nil =>
      rw [List.mapIdx_nil, Bytes.joinWith, Bytes.joinWith, splitLines_of_notMem hpadded,
        splitLines_of_notMem hpiece]
      exact .cons (Reading.ofLine_blanks_append hblank piece) .nil
    | cons next rest =>
      have hrest := @ih (fun i => pad (i + 1)) (fun i => h (i + 1)) (List.cons_ne_nil _ _)
        fun piece hpiece => hfeed piece (List.mem_cons_of_mem _ hpiece)
      rw [List.mapIdx_cons] at hrest ⊢
      rw [splitLines_joinWith_cons hpadded, splitLines_joinWith_cons hpiece]
      exact .cons (Reading.ofLine_dropEnd_blanks_append hblank piece) hrest

theorem parseMaxRepeat_padLines {pad : Nat → List Char}
    (h : ∀ i, ∀ c ∈ pad i, isBlank c = true ∧ c ≠ '\n') (text : Bytes) (n : Int) :
    parseMaxRepeat (padLines pad text) n = parseMaxRepeat text n := by
  have hlines := forall₂_ofLine_joinWith h (Bytes.splitAt_ne_nil lineFeed text)
    fun piece hpiece => Bytes.notMem_of_mem_splitAt hpiece
  rw [Bytes.joinWith_splitAt] at hlines
  rw [parseMaxRepeat_eq_result, parseMaxRepeat_eq_result, LineByLine.result, LineByLine.result,
    padLines, LineByLine.run_congr hlines]

/-- The character that some editors put in front of a text. -/
def byteOrderMark : Char := '\uFEFF'

/-- A byte order mark in front of a script indents its first line. -/
theorem byteOrderMark_append_eq_padLines (text : Bytes) :
    encode byteOrderMark ++ text =
      padLines (fun i => if i = 0 then [byteOrderMark] else []) text := by
  obtain ⟨first, pieces, hsplit⟩ := List.exists_cons_of_ne_nil (Bytes.splitAt_ne_nil lineFeed text)
  have hrest : pieces.mapIdx (fun i line =>
      Bytes.ofChars (if i + 1 = 0 then [byteOrderMark] else []) ++ line) = pieces := by
    simp [Bytes.ofChars, List.mapIdx_eq_iff]
  conv_lhs => rw [← Bytes.joinWith_splitAt lineFeed text, hsplit]
  rw [padLines, hsplit, List.mapIdx_cons, hrest]
  have hmark : Bytes.ofChars [byteOrderMark] = encode byteOrderMark := List.append_nil _
  cases pieces with
  | nil => rw [if_pos rfl, hmark, Bytes.joinWith, Bytes.joinWith]
  | cons second pieces =>
    rw [if_pos rfl, hmark, Bytes.joinWith, Bytes.joinWith]
    simp only [List.append_assoc]

/-- Blanks other than line feeds, put in front of the lines of a script, change nothing in its
result. In particular a script saved with a byte order mark reads like one saved without. -/
theorem parse_padLines {pad : Nat → List Char}
    (h : ∀ i, ∀ c ∈ pad i, isBlank c = true ∧ c ≠ '\n') (text : Bytes) :
    parse (padLines pad text) = parse text ∧
      parse (encode byteOrderMark ++ text) = parse text := by
  constructor
  · exact parseMaxRepeat_padLines h text 0
  · rw [byteOrderMark_append_eq_padLines]
    refine parseMaxRepeat_padLines ?_ text 0
    intro i c hc
    by_cases hi : i = 0
    · rw [if_pos hi, List.mem_singleton] at hc
      rw [hc]
      decide
    · rw [if_neg hi] at hc
      exact absurd hc List.not_mem_nil

/-- A script with a text that begins and ends in blanks, an empty line before a line feed, a line
that is ended by both bytes, a byte that is no UTF-8, a rejected line and a repetition. -/
def paddedScript : Bytes :=
  Bytes.joinWith "\n" ["STRING \t a b ", "", "\r", ("foo " : Bytes) ++ [0xFF], "TAB\r", "REPEAT 2"]

theorem parse_padLines_carriageReturn :
    let pad : Nat → List Char := fun i =>
      if i = 0 then ['\uFEFF', '\u3000'] else if i = 1 then ['\t', '\r'] else ['\r', '\u2028']
    splitLines (padLines pad paddedScript) ≠ splitLines paddedScript ∧
      parse (padLines pad paddedScript) = parse paddedScript ∧
      (parse paddedScript).commands = [⟨.string, ["a b "], 1⟩, ⟨.key .tab, [], 5⟩,
        ⟨.key .tab, [], 6⟩, ⟨.key .tab, [], 6⟩] ∧
      (parse paddedScript).errors = [⟨4, "foo", .unknownCommand⟩] := by
  intro pad
  have hpad : ∀ i, ∀ c ∈ pad i, isBlank c = true ∧ c ≠ '\n' := by
    intro i
    simp only [pad]
    split
    · rw [List.forall_mem_cons, List.forall_mem_singleton]
      decide
    split
    · rw [List.forall_mem_cons, List.forall_mem_singleton]
      decide
    · rw [List.forall_mem_cons, List.forall_mem_singleton]
      decide
  refine ⟨by decide +kernel, (parse_padLines hpad paddedScript).1, ?_, ?_⟩
  · rw [parse_eq_ofOutcomes]
    decide +kernel
  · rw [parse_eq_ofOutcomes]
    decide +kernel

end KeyScript
