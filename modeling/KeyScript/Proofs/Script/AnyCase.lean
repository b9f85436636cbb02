import KeyScript.Proofs.Script.LineByLine
import KeyScript.Proofs.Script.WellFormed
import KeyScript.Proofs.Text.Cuts

/-!
# Scripts in any case

A line and the same line in upper case say the same, apart from comments, which begin with `REM` in
capitals. All that differs is what is kept as written: the text of a `STRING`, and the token of a
diagnostic. Upper case maps characters one by one and keeps blanks, so it maps words to words; it
keeps signs and digits, so it keeps the numbers that words begin with.

## Main definitions

- `Reading.inUpperCase` — a reading with all that is kept as written in upper case
- `Outcome.SameUpToCase`, `Decoder.SameUpToCase` — outcomes and states that differ in this only

## Main results

- `words_upper` — the words of a line in upper case
- `Numeral.leadingText?_upper` — numbers in upper case
- `Reading.ofLine_upper` — what a line in upper case says
- `Decoder.sameUpToCase_apply_upper` — decoding a line in upper case
-/

namespace KeyScript

section Words

variable {sep : Char → Bool} {f : Rune → Rune} {rs : List Rune}

theorem wordRuns_map (hf : ∀ r, sep (f r).char = sep r.char) (rs : List Rune) :
    wordRuns sep (rs.map f) = (wordRuns sep rs).map (List.map f) := by
  induction rs with
  | nil => rfl
  | cons r rs ih =>
    rw [List.map_cons, wordRuns, wordRuns, hf, ih, List.head?_map]
    by_cases hsep : sep r.char = true
    · rw [if_pos hsep, if_pos hsep]
    rw [if_neg hsep, if_neg hsep]
    cases rs.head? with
    | none => rfl
    | some next =>
      cases wordRuns sep rs with
      | nil => rfl
      | cons run runs =>
        simp only [Option.map_some, List.map_cons, hf]
        split <;> rfl

theorem afterFirstWord_map (hf : ∀ r, sep (f r).char = sep r.char) (rs : List Rune) :
    afterFirstWord sep (rs.map f) = (afterFirstWord sep rs).map f := by
  simp only [afterFirstWord, skipSpace, skipWord, List.dropWhile_map, Function.comp_def, hf]

/-- Words are pieces of what they are words of. -/
theorem infix_of_mem_wordRuns {run : List Rune} (h : run ∈ wordRuns sep rs) : run <:+: rs := by
  rw [← map_run_locateWords sep 0] at h
  obtain ⟨w, hw, rfl⟩ := List.mem_map.mp h
  obtain ⟨i, hi⟩ := List.getElem?_of_mem hw
  obtain ⟨front, back, hsplit, -⟩ := exists_append_of_getElem?_locateWords hi
  exact ⟨front, back, by rw [hsplit, List.append_assoc]⟩

/-- A character in upper case, with the bytes it has then. -/
def Rune.upper (r : Rune) : Rune := .ofChar (KeyScript.upper r.char)

theorem isBlank_upper_char (r : Rune) : isBlank r.upper.char = isBlank r.char :=
  isBlank_upper_eq r.char

/-- A text in upper case has its characters in upper case. -/
theorem join_map_upper {s : Bytes} (h : runes s = rs) :
    Rune.join (rs.map Rune.upper) = s.upper := by
  rw [← h, ← join_runes s.upper, Bytes.runes_upper]
  rfl

/-- The words of a line in upper case are its words in upper case. -/
theorem words_upper (line : Bytes) :
    line.upper.words isBlank = (line.words isBlank).map Bytes.upper := by
  have hruns : wordRuns isBlank (runes line.upper) =
      (wordRuns isBlank (runes line)).map (List.map Rune.upper) := by
    rw [Bytes.runes_upper]
    exact wordRuns_map isBlank_upper_char (runes line)
  rw [Bytes.words, hruns, Bytes.words, List.map_map, List.map_map]
  apply List.map_congr_left
  intro run hrun
  exact join_map_upper (runes_join_piece (infix_of_mem_wordRuns hrun))

theorem stringText_upper (line : Bytes) :
    Reading.stringText line.upper = (Reading.stringText line).upper := by
  rw [← join_map_upper (runes_stringText line), Reading.stringText, Bytes.runes_upper]
  exact congrArg Rune.join (afterFirstWord_map isBlank_upper_char (runes line))

end Words

namespace Numeral

variable {b : UInt8} {s : Bytes}

/-- Whether a byte is among those from the plus sign to the digit nine. All signs and digits are,
and none of these bytes is a letter. -/
def isMark (b : UInt8) : Bool := 0x2B ≤ b && b ≤ 0x39

theorem isMark_bounds (h : isMark b = true) : b < 0x80 ∧ 0x2B ≤ b.toNat ∧ b.toNat ≤ 0x39 := by
  simp only [isMark, Bool.and_eq_true, decide_eq_true_eq, UInt8.le_iff_toNat_le] at h
  refine ⟨?_, h⟩
  rw [UInt8.lt_iff_toNat_lt]
  exact Nat.lt_of_le_of_lt h.2 (by decide)

theorem isMark_of_isDigit (h : isDigit b = true) : isMark b = true := by
  simp only [isDigit, isMark, Bool.and_eq_true, decide_eq_true_eq, UInt8.le_iff_toNat_le] at h ⊢
  exact ⟨Nat.le_trans (by decide) h.1, h.2⟩

theorem isMark_of_sign (h : (b = minus || b = plus) = true) : isMark b = true := by
  simp only [Bool.or_eq_true, decide_eq_true_eq] at h
  rcases h with rfl | rfl <;> decide

/-- Upper case keeps a sign or a digit at the start. -/
theorem upper_cons_of_isMark (h : isMark b = true) (s : Bytes) :
    Bytes.upper (b :: s) = b :: s.upper := by
  obtain ⟨hascii, hbounds⟩ := isMark_bounds h
  have hupper : upper (Char.ofNat b.toNat) = Char.ofNat b.toNat := by
    apply upper_eq_self (show (0x2B, 0x39) ∈ caseless from List.mem_cons_self)
    rwa [toNat_charOfNat_ascii hascii]
  rw [Bytes.upper, runes_cons_ascii hascii, List.flatMap_cons, hupper, encode_ascii hascii]
  rfl

/-- Upper case makes no sign or digit at the start. -/
theorem head?_eq_of_head?_upper (h : s.upper.head? = some b) (hmark : isMark b = true) :
    s.head? = some b := by
  obtain ⟨hascii, hbounds⟩ := isMark_bounds hmark
  cases s with
  | nil => cases h
  | cons lead rest =>
    obtain ⟨first, tail, hencode, -⟩ :=
      exists_leadingRune_encode (upper (leadingRune lead rest).1)
    rw [Bytes.upper, runes_cons, List.flatMap_cons, hencode, List.cons_append, List.head?_cons,
      Option.some.injEq] at h
    have hmem : b ∈ encode (upper (leadingRune lead rest).1) := by
      rw [hencode, h]
      exact List.mem_cons_self
    have hnumber := toNat_eq_of_mem_encode hmem hascii
    have hsame : upper (leadingRune lead rest).1 = (leadingRune lead rest).1 := by
      apply upper_eq_self_of_upper (show (0x2B, 0x39) ∈ caseless from List.mem_cons_self)
      rwa [hnumber]
    rw [hsame] at hnumber
    -- A character in ASCII is a byte in ASCII, and then this byte is the character.
    have hlead : lead < 0x80 := by
      by_contra hwide
      have hlarge := le_toNat_leadingRune (UInt8.not_lt.mp hwide) rest
      omega
    rw [leadingRune_ascii hlead, toNat_charOfNat_ascii hlead, UInt8.toNat_inj] at hnumber
    rw [hnumber]
    rfl

theorem head?_upper_eq_iff (hmark : isMark b = true) :
    s.upper.head? = some b ↔ s.head? = some b := by
  constructor
  · intro h
    exact head?_eq_of_head?_upper h hmark
  · intro h
    obtain ⟨rest, rfl⟩ := List.head?_eq_some_iff.mp h
    rw [upper_cons_of_isMark hmark]
    rfl

theorem takeWhile_isDigit_upper (s : Bytes) :
    s.upper.takeWhile isDigit = s.takeWhile isDigit := by
  induction s with
  | nil => rfl
  | cons b s ih =>
    by_cases hdigit : isDigit b = true
    · rw [upper_cons_of_isMark (isMark_of_isDigit hdigit), List.takeWhile_cons_of_pos hdigit, ih,
        List.takeWhile_cons_of_pos hdigit]
    · rw [List.takeWhile_cons_of_neg hdigit]
      cases hupper : Bytes.upper (b :: s) with
      | nil => rfl
      | cons c t =>
        apply List.takeWhile_cons_of_neg
        intro hc
        have hhead := head?_eq_of_head?_upper (by rw [hupper]; rfl) (isMark_of_isDigit hc)
        cases hhead
        exact hdigit hc

theorem unsignedPart_upper (s : Bytes) : unsignedPart s.upper = (unsignedPart s).upper := by
  cases s with
  | nil => rfl
  | cons b s =>
    rw [unsignedPart]
    by_cases hsign : (b = minus || b = plus) = true
    · rw [if_pos hsign, upper_cons_of_isMark (isMark_of_sign hsign), unsignedPart, if_pos hsign]
    · rw [if_neg hsign]
      cases hupper : Bytes.upper (b :: s) with
      | nil => rfl
      | cons c t =>
        rw [unsignedPart, if_neg]
        intro hc
        have hhead := head?_eq_of_head?_upper (by rw [hupper]; rfl) (isMark_of_sign hc)
        cases hhead
        exact hsign hc

/-- The number that a word begins with is the same in upper case. -/
theorem leadingText?_upper (s : Bytes) : leadingText? s.upper = leadingText? s := by
  have hminus : s.upper.head? = some minus ↔ s.head? = some minus :=
    head?_upper_eq_iff (by decide)
  simp only [leadingText?, unsignedPart_upper, takeWhile_isDigit_upper, hminus]

end Numeral

/-- A reading with all that it keeps as written in upper case. -/
def Reading.inUpperCase : Reading → Reading
  | nothing => nothing
  | command .string args => command .string (args.map Bytes.upper)
  | command kind args => command kind args
  | again token count => again token.upper count
  | rejected token cause => rejected token.upper cause

namespace Reading

variable {line : Bytes}

theorem inUpperCase_command {kind : Kind} (h : kind ≠ .string) (args : List Bytes) :
    (command kind args).inUpperCase = command kind args := by
  cases kind with
  | string => exact absurd rfl h
  | _ => rfl

theorem ofDelay_upper (token number : Bytes) :
    ofDelay token.upper number.upper = (ofDelay token number).inUpperCase := by
  rw [ofDelay, Numeral.leadingText?_upper, ofDelay]
  cases Numeral.leadingText? number with
  | none => rfl
  | some ms => rfl

theorem ofRepeat_upper (token number : Bytes) :
    ofRepeat token.upper number.upper = (ofRepeat token number).inUpperCase := by
  rw [ofRepeat, Numeral.leadingText?_upper, ofRepeat]
  cases Numeral.leadingText? number with
  | none => rfl
  | some digits =>
    simp only
    split <;> rfl

theorem ofKeys_upper (token : Bytes) (words : List Bytes) :
    ofKeys token.upper words = (ofKeys token words).inUpperCase := by
  simp only [ofKeys]
  split
  · rfl
  split
  · rfl
  split
  · rfl
  split <;> rfl

/-- What a line in upper case says, if it is no comment. -/
theorem ofLine_upper
    (h : ∀ w ∈ (line.upper.words isBlank).head?, ¬w.startsWith "REM" = true) :
    ofLine line.upper = (ofLine line).inUpperCase := by
  rw [ofLine_eq, ofLine_eq, stringText_upper]
  rw [words_upper] at h ⊢
  cases hwords : line.words isBlank with
  | nil => rfl
  | cons token rest =>
    rw [hwords] at h
    have hupper : ¬token.upper.startsWith "REM" = true := h token.upper rfl
    have hplain : ¬token.startsWith "REM" = true := by
      intro hrem
      exact hupper (Bytes.startsWith_upper (by decide) (by decide +kernel) hrem)
    have hnumber : (rest.map Bytes.upper).headD [] = (rest.headD []).upper := by
      cases rest <;> rfl
    have hcapitals : (rest.map Bytes.upper).map Bytes.upper = rest.map Bytes.upper := by
      simp [Bytes.upper_upper]
    simp only [List.map_cons, hcapitals, if_neg hupper, if_neg hplain, Bytes.upper_upper, hnumber]
    split
    · rfl
    split
    · exact ofDelay_upper token (rest.headD [])
    split
    · exact ofRepeat_upper token (rest.headD [])
    · exact ofKeys_upper token _

end Reading

/-- Two commands are the same, or the second types the text of the first in upper case. -/
inductive Command.SameUpToCase : Command → Command → Prop where
  | same (c : Command) : SameUpToCase c c
  | string (args : List Bytes) (line : Int) :
    SameUpToCase ⟨.string, args, line⟩ ⟨.string, args.map Bytes.upper, line⟩

/-- Two lines give the same at once: nothing, commands that are the same up to case, or diagnostics
of the same line with the same cause. -/
inductive Outcome.SameUpToCase : Option Outcome → Option Outcome → Prop where
  | nothing : SameUpToCase none none
  | command {c c' : Command} (h : c.SameUpToCase c') :
    SameUpToCase (some (.command c)) (some (.command c'))
  | rejected (line : Int) (token : Bytes) (cause : Cause) :
    SameUpToCase (some (.rejected ⟨line, token, cause⟩))
      (some (.rejected ⟨line, token.upper, cause⟩))

/-- Two decoders are the same but for the command that a repetition copies, and this is the same up
to case. -/
structure Decoder.SameUpToCase (d d' : Decoder) : Prop where
  eq_with_last : d' = { d with last := d'.last }
  last : Option.Rel Command.SameUpToCase d.last d'.last

namespace Decoder

theorem SameUpToCase.refl (d : Decoder) : d.SameUpToCase d := by
  refine ⟨rfl, ?_⟩
  cases d.last with
  | none => exact .none
  | some c => exact .some (.same c)

theorem SameUpToCase.setLast (d : Decoder) {c c' : Command} (h : c.SameUpToCase c') :
    SameUpToCase { d with last := some c } { d with last := some c' } :=
  ⟨rfl, .some h⟩

/-- The effects of a reading and of the reading in upper case. -/
theorem sameUpToCase_apply_inUpperCase (d : Decoder) (r : Reading) :
    Outcome.SameUpToCase (d.apply r).1 (d.apply r.inUpperCase).1 ∧
      (d.apply r).2.SameUpToCase (d.apply r.inUpperCase).2 := by
  cases r with
  | nothing => exact ⟨.nothing, .refl d⟩
  | rejected token cause => exact ⟨.rejected d.line token cause, .refl d⟩
  | command kind args =>
    by_cases hkind : kind = .string
    · subst hkind
      have hsame := Command.SameUpToCase.string args d.line
      exact ⟨.command hsame, .setLast d hsame⟩
    · rw [Reading.inUpperCase_command hkind]
      have hsame := Command.SameUpToCase.same ⟨kind, args, d.line⟩
      exact ⟨.command hsame, .setLast d hsame⟩
  | again token count =>
    rw [Reading.inUpperCase, apply, apply]
    cases d.last with
    | none => exact ⟨.rejected d.line token .nothingToRepeat, .refl d⟩
    | some c => exact ⟨.nothing, .refl _⟩

/-- Whatever was decoded before, a line that is no comment in upper case, and so no comment as it is
written, gives the same as the line in upper case, up to the text of a `STRING` and the token of a
diagnostic. The decoder is then in the same state, with the same copies pending, up to the text that
a repetition would type. -/
theorem sameUpToCase_apply_upper (d : Decoder) {line : Bytes}
    (h : ∀ w ∈ (line.upper.words isBlank).head?, ¬w.startsWith "REM" = true) :
    Outcome.SameUpToCase (d.apply (.ofLine line)).1 (d.apply (.ofLine line.upper)).1 ∧
      (d.apply (.ofLine line)).2.SameUpToCase (d.apply (.ofLine line.upper)).2 := by
  rw [Reading.ofLine_upper h]
  exact d.sameUpToCase_apply_inUpperCase (.ofLine line)

end Decoder

/-- A `STRING` that is written with a long s, of a text with a dotless i and a byte that is no
character. -/
def longLine : Bytes := ("ſtring kı" : Bytes) ++ ([0xFF] : Bytes)

/-- It types its text, and in upper case it types `KI` and the replacement character. -/
theorem Decoder.sameUpToCase_apply_upper_longLine :
    let d := ofText longLine
    (∀ w ∈ (longLine.upper.words isBlank).head?, ¬w.startsWith "REM" = true) ∧
      (d.apply (.ofLine longLine)).1 =
        some (.command ⟨.string, [("kı" : Bytes) ++ ([0xFF] : Bytes)], 0⟩) ∧
      (d.apply (.ofLine longLine.upper)).1 = some (.command ⟨.string, ["KI\uFFFD"], 0⟩) ∧
      Outcome.SameUpToCase (d.apply (.ofLine longLine)).1 (d.apply (.ofLine longLine.upper)).1 ∧
      (d.apply (.ofLine longLine)).2.SameUpToCase (d.apply (.ofLine longLine.upper)).2 := by
  intro d
  have hplain : ∀ w ∈ (longLine.upper.words isBlank).head?, ¬w.startsWith "REM" = true := by
    decide +kernel
  exact ⟨hplain, by decide +kernel, by decide +kernel, sameUpToCase_apply_upper d hplain⟩

end KeyScript
