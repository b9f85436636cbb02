import KeyScript.Proofs.Script.Lines
import KeyScript.Proofs.Text.Division
import KeyScript.Proofs.Text.Numeral

/-!
# A script line by line

What a script means can be said without a decoder: go through the lines and remember nothing but the
command that was produced last. This module says so, in terms of the words of a line and of the
integer that its second word begins with, and shows that the reader of single lines, which works on
trimmed lines and on the text of numerals, agrees with it.

## Main definitions

- `LineByLine.words`, `LineByLine.fromSecondWord` — the words of a line, and the line from its
  second word on
- `LineByLine.produce` — what a line produces after a given command
- `LineByLine.run` — what the lines of a script produce under one cap on repetitions
- `LineByLine.runUnder` — the same where the cap depends on how much was produced before

## Main results

- `Reading.outcomes_ofLine` — the reading of a line gives what the line produces
-/

namespace KeyScript

namespace LineByLine

/-- A line as words and gaps. -/
def division (line : Bytes) : Division isBlank (runes line) := .ofRunes isBlank (runes line)

/-- The words of a line: its maximal runs of characters that are not blank. -/
def words (line : Bytes) : List Bytes := (division line).words.map Rune.join

/-- The part of a line from the start of its second word to its end, empty if there is none. -/
def fromSecondWord (line : Bytes) : Bytes := Rune.join (division line).fromSecondWord

/-- The number of copies for a repetition of count `v`: the count as far as it is a 64-bit integer,
and no more than the cap if the cap is positive. -/
def copies (cap v : Int) : Nat :=
  let count := min v 0x7FFFFFFFFFFFFFFF
  (if 0 < cap then min count cap else count).toNat

/-- What line number `n` produces when `last` is the command produced last before it. -/
def produce (cap : Int) (last : Option Command) (n : Nat) (line : Bytes) : List Outcome :=
  match words line with
  | [] => []
  | first :: others =>
    if first.startsWith "REM" then []
    else
      let name := first.upper
      let number := others.head?.bind Numeral.leading?
      let parts := name :: others.map Bytes.upper
      if name = "STRING" then [.command ⟨.string, [fromSecondWord line], n⟩]
      else if name = "DELAY" then
        match number with
        | some ms => [.command ⟨.delay, [Numeral.ofInt ms], n⟩]
        | none => [.rejected ⟨n, first, .delayNumber⟩]
      else if name = "REPEAT" then
        match number with
        | none => [.rejected ⟨n, first, .repeatNumber⟩]
        | some v =>
          if v ≤ 0 then [.rejected ⟨n, first, .repeatNumber⟩]
          else match last with
            | none => [.rejected ⟨n, first, .nothingToRepeat⟩]
            | some c => List.replicate (copies cap v) (.command { c with line := n })
      else if ("GUI" : Bytes) ∈ parts then
        [.command ⟨.chord, "GUI" :: parts.filter (· ≠ "GUI"), n⟩]
      else if ("WINDOWS" : Bytes) ∈ parts then
        [.command ⟨.chord, "GUI" :: parts.filter (· ≠ "WINDOWS"), n⟩]
      else if ∃ w ∈ (["CTRL", "CONTROL", "ALT", "SHIFT"] : List Bytes), w ∈ parts then
        [.command ⟨.chord, parts, n⟩]
      else match Key.ofName? name with
        | some k => [.command ⟨.key k, [], n⟩]
        | none => [.rejected ⟨n, first, .unknownCommand⟩]

/-- The command produced last, after `outcomes` have been produced behind `last`. -/
def latest (last : Option Command) (outcomes : List Outcome) : Option Command :=
  (outcomes.filterMap Outcome.command?).getLast?.or last

/-- What lines produce, line by line, the first of them having number `n`. -/
def run (cap : Int) (last : Option Command) (n : Nat) : List Bytes → List (List Outcome)
  | [] => []
  | line :: lines =>
    let outcomes := produce cap last n line
    outcomes :: run cap (latest last outcomes) (n + 1) lines

/-- What lines produce, line by line, if the cap may change: `capAt k` is in force when a line is
read after `k` outcomes, and `handed` of them came before the first of these lines. -/
def runUnder (capAt : Nat → Int) (handed : Nat) (last : Option Command) (n : Nat) :
    List Bytes → List (List Outcome)
  | [] => []
  | line :: lines =>
    let outcomes := produce (capAt handed) last n line
    outcomes :: runUnder capAt (handed + outcomes.length) (latest last outcomes) (n + 1) lines

theorem words_eq (line : Bytes) : words line = line.words isBlank := by
  rw [words, Bytes.words, (division line).wordRuns_eq_words]

theorem fromSecondWord_eq (line : Bytes) : fromSecondWord line = Reading.stringText line := by
  rw [fromSecondWord, Reading.stringText, (division line).afterFirstWord_eq_fromSecondWord]

end LineByLine

namespace Reading

/-- The number of copies that is left of a count under a cap. -/
def capped (cap : Int) (count : Nat) : Nat := if 0 < cap then min count cap.toNat else count

/-- What a reading produces on line number `n` when `last` is the command produced last. -/
def outcomes (cap : Int) (last : Option Command) (n : Nat) : Reading → List Outcome
  | nothing => []
  | command kind args => [.command ⟨kind, args, n⟩]
  | again token count =>
    match last with
    | some c => List.replicate (capped cap count) (.command { c with line := n })
    | none => [.rejected ⟨n, token, .nothingToRepeat⟩]
  | rejected token cause => [.rejected ⟨n, token, cause⟩]

/-- What lines without words, comments and the other lines read as. -/
theorem ofLine_eq (line : Bytes) :
    ofLine line =
      match line.words isBlank with
      | [] => nothing
      | token :: rest =>
        if token.startsWith "REM" then nothing
        else if token.upper = "STRING" then command .string [stringText line]
        else if token.upper = "DELAY" then ofDelay token (rest.headD [])
        else if token.upper = "REPEAT" then ofRepeat token (rest.headD [])
        else ofKeys token ((token :: rest).map Bytes.upper) := by
  rw [ofLine, words_trim]
  cases hwords : line.words isBlank with
  | nil => rw [if_pos (.inl (trim_eq_nil_iff.mpr hwords))]
  | cons token rest =>
    have htrim : line.trim isBlank ≠ [] := by
      rw [Ne, trim_eq_nil_iff, hwords]
      simp
    have hstart : (line.trim isBlank).startsWith "REM" = token.startsWith "REM" :=
      startsWith_trim (by decide) hwords
    simp only [htrim, hstart, false_or]

section Outcomes

variable {cap : Int} {last : Option Command} {n : Nat}

theorem outcomes_ofDelay (token number : Bytes) :
    (ofDelay token number).outcomes cap last n =
      match Numeral.leading? number with
      | some ms => [.command ⟨.delay, [Numeral.ofInt ms], n⟩]
      | none => [.rejected ⟨n, token, .delayNumber⟩] := by
  rw [ofDelay, Numeral.leadingText?_eq_map_leading?]
  cases Numeral.leading? number <;> rfl

/-- The copies under a cap do not depend on whether they are counted as integers or as naturals. -/
theorem capped_copyCount {v : Int} (hv : 0 < v) :
    capped cap (copyCount (Numeral.ofInt v)) = LineByLine.copies cap v := by
  rw [copyCount, Numeral.valueOf_ofInt hv, capped, LineByLine.copies, maxCount]
  split <;> omega

theorem outcomes_ofRepeat (token number : Bytes) :
    (ofRepeat token number).outcomes cap last n =
      match Numeral.leading? number with
      | none => [.rejected ⟨n, token, .repeatNumber⟩]
      | some v =>
        if v ≤ 0 then [.rejected ⟨n, token, .repeatNumber⟩]
        else match last with
          | none => [.rejected ⟨n, token, .nothingToRepeat⟩]
          | some c => List.replicate (LineByLine.copies cap v) (.command { c with line := n }) := by
  rw [ofRepeat, Numeral.leadingText?_eq_map_leading?]
  cases Numeral.leading? number with
  | none => rfl
  | some v =>
    simp only [Option.map_some, Numeral.ofInt_nonpositive_iff]
    split
    · rfl
    · next hv =>
      rw [← capped_copyCount (Int.not_le.mp hv)]
      cases last <;> rfl

theorem outcomes_ofKeys (token name : Bytes) (others : List Bytes) :
    (ofKeys token (name :: others)).outcomes cap last n =
      if ("GUI" : Bytes) ∈ name :: others then
        [.command ⟨.chord, "GUI" :: (name :: others).filter (· ≠ "GUI"), n⟩]
      else if ("WINDOWS" : Bytes) ∈ name :: others then
        [.command ⟨.chord, "GUI" :: (name :: others).filter (· ≠ "WINDOWS"), n⟩]
      else if ∃ w ∈ (["CTRL", "CONTROL", "ALT", "SHIFT"] : List Bytes), w ∈ name :: others then
        [.command ⟨.chord, name :: others, n⟩]
      else match Key.ofName? name with
        | some k => [.command ⟨.key k, [], n⟩]
        | none => [.rejected ⟨n, token, .unknownCommand⟩] := by
  have hchord : ((name :: others).any chordWords.contains = true) ↔
      ∃ w ∈ (["CTRL", "CONTROL", "ALT", "SHIFT"] : List Bytes), w ∈ name :: others := by
    rw [List.any_eq_true]
    constructor
    · rintro ⟨w, hw, hchord⟩
      exact ⟨w, List.contains_iff_mem.mp hchord, hw⟩
    · rintro ⟨w, hchord, hw⟩
      exact ⟨w, hw, List.contains_iff_mem.mpr hchord⟩
  have hdrop : ∀ drop : Bytes, guiArgs drop (name :: others) =
      ("GUI" : Bytes) :: (name :: others).filter fun w => w ≠ drop := by
    intro drop
    simp only [guiArgs, bne, Bool.beq_eq_decide_eq, ne_eq, decide_not]
  simp only [ofKeys, List.contains_iff_mem, hchord, hdrop, List.head?_cons, Option.bind_some]
  by_cases hgui : ("GUI" : Bytes) ∈ name :: others
  · rw [if_pos hgui, if_pos hgui]
    rfl
  rw [if_neg hgui, if_neg hgui]
  by_cases hwindows : ("WINDOWS" : Bytes) ∈ name :: others
  · rw [if_pos hwindows, if_pos hwindows]
    rfl
  rw [if_neg hwindows, if_neg hwindows]
  by_cases hmod : ∃ w ∈ (["CTRL", "CONTROL", "ALT", "SHIFT"] : List Bytes), w ∈ name :: others
  · rw [if_pos hmod, if_pos hmod]
    rfl
  rw [if_neg hmod, if_neg hmod]
  cases Key.ofName? name <;> rfl

/-- The reading of a line gives what the line produces. -/
theorem outcomes_ofLine (line : Bytes) :
    (ofLine line).outcomes cap last n = LineByLine.produce cap last n line := by
  rw [ofLine_eq, LineByLine.produce, LineByLine.words_eq, LineByLine.fromSecondWord_eq]
  cases line.words isBlank with
  | nil => rfl
  | cons token rest =>
    have hnumber : rest.head?.bind Numeral.leading? = Numeral.leading? (rest.headD []) := by
      cases rest <;> rfl
    simp only [hnumber, List.map_cons]
    by_cases hrem : token.startsWith "REM"
    · rw [if_pos hrem, if_pos hrem]
      rfl
    rw [if_neg hrem, if_neg hrem]
    by_cases hstring : token.upper = "STRING"
    · rw [if_pos hstring, if_pos hstring]
      rfl
    rw [if_neg hstring, if_neg hstring]
    by_cases hdelay : token.upper = "DELAY"
    · rw [if_pos hdelay, if_pos hdelay, outcomes_ofDelay]
    rw [if_neg hdelay, if_neg hdelay]
    by_cases hrepeat : token.upper = "REPEAT"
    · rw [if_pos hrepeat, if_pos hrepeat, outcomes_ofRepeat]
    rw [if_neg hrepeat, if_neg hrepeat, outcomes_ofKeys]

end Outcomes

end Reading

end KeyScript
