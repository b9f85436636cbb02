import KeyScript.Proofs.Script.Accounting
import KeyScript.Proofs.Script.WellFormed

/-!
# Commands written as a script

The commands of a script can be written as a script again, each on a line of its own. Reading this
script gives the commands back, with one exception: a chord may begin with a word that makes its
line a comment, because names are written in upper case and only `REM` in capitals starts a comment.

## Main definitions

- `Command.isComment` — the line of a command is a comment
- `script` — commands as a script

## Main results

- `Command.IsWellFormed.ofLine_text` — the line of a well-formed command says the command
- `splitLines_joinWith` — lines that were joined are split again
- `parse_script` — reading the commands of a script that was written again
-/

namespace KeyScript

/-- Whether the line of a command is a comment: it is a chord whose first word begins with `REM`. -/
def Command.isComment (c : Command) : Bool := c.kind == .chord && (c.arg 0).startsWith "REM"

/-- Commands as a script, each on a line of its own. -/
def script (commands : List Command) : Bytes := Bytes.joinWith "\n" (commands.map Command.text)

theorem Command.text_string (text : Bytes) (n : Int) :
    Command.text ⟨.string, [text], n⟩ =
      if text = [] then ("STRING" : Bytes) else "STRING " ++ text :=
  rfl

section Reading

open Reading

/-- A text behind a word and a gap is what follows the first word. -/
theorem afterFirstWord_word_gap {sep : Char → Bool} {word gap rs : List Rune} (hne : word ≠ [])
    (hword : ∀ r ∈ word, sep r.char = false) (hgap : ∀ r ∈ gap, sep r.char = true)
    (hgapne : gap ≠ []) (hrs : ∀ r ∈ rs.head?, sep r.char = false) :
    afterFirstWord sep (word ++ (gap ++ rs)) = rs := by
  obtain ⟨w, word, rfl⟩ := List.exists_cons_of_ne_nil hne
  obtain ⟨g, gap, rfl⟩ := List.exists_cons_of_ne_nil hgapne
  have hw : sep w.char = false := hword w (by simp)
  have hstart : skipSpace sep ((w :: word) ++ ((g :: gap) ++ rs)) =
      (w :: word) ++ ((g :: gap) ++ rs) := List.dropWhile_cons_of_neg (by simp [hw])
  rw [afterFirstWord, hstart,
    skipWord_word_append hword (by simpa using hgap g (by simp)), skipSpace_gap_append hgap hrs]

/-- A text without a blank at its start is what a line that has it behind `STRING` types. -/
theorem ofLine_string {text : Bytes} (hhead : ∀ r ∈ (runes text).head?, isBlank r.char = false) :
    ofLine ("STRING " ++ text) = command .string [text] := by
  have hword : IsWrittenWord "STRING" := isWrittenWord_of_ascii (by decide) (by decide)
  have hwords : Bytes.words isBlank ("STRING " ++ text) =
      ("STRING" : Bytes) :: text.words isBlank := hword.words_append_space text
  have hplain : ∀ b ∈ ("STRING " : Bytes), b < 0x80 := by
    simpa using (by decide : ("STRING " : Bytes).all (· < 0x80) = true)
  have htext : stringText ("STRING " ++ text) = text := by
    rw [stringText, runes_ascii_append hplain,
      show (("STRING " : Bytes).map fun b => (⟨Char.ofNat b.toNat, [b]⟩ : Rune)) =
        ("STRING" : Bytes).map (fun b => ⟨Char.ofNat b.toNat, [b]⟩) ++ [⟨' ', [32]⟩] by decide,
      List.append_assoc, afterFirstWord_word_gap (by decide) (by decide) (by decide) (by decide)
        hhead, join_runes]
  rw [ofLine_eq, hwords, htext]
  rfl

theorem isWrittenWord_of_isCanonical {ms : Bytes} (h : Numeral.IsCanonical ms) :
    IsWrittenWord ms := by
  have hdigit : ∀ d, Numeral.isDigit d = true →
      (d < 0x80 && !isBlank (Char.ofNat d.toNat)) = true := by
    intro d hd
    obtain ⟨n, hn, rfl⟩ : ∃ n < 10, d = Numeral.digit n :=
      ⟨_, Numeral.digitValue_lt_ten hd, (Numeral.digit_digitValue hd).symm⟩
    exact (by decide : ∀ n < 10, (Numeral.digit n < 0x80 &&
      !isBlank (Char.ofNat (Numeral.digit n).toNat)) = true) n hn
  rcases h with rfl | ⟨digits, hsign, hne, hdigits, -⟩
  · exact isWrittenWord_of_ascii (by decide) (by decide)
  have hall : digits.all (fun b => b < 0x80 && !isBlank (Char.ofNat b.toNat)) = true :=
    List.all_eq_true.mpr fun d hd => hdigit d (hdigits d hd)
  rcases hsign with rfl | rfl
  · exact isWrittenWord_of_ascii hne hall
  · exact isWrittenWord_of_ascii (by simp) (by rw [List.all_cons, hall]; decide)

theorem ofLine_delay {ms : Bytes} (h : Numeral.IsCanonical ms) :
    ofLine ("DELAY" ++ " " ++ ms) = command .delay [ms] := by
  have hword : IsWrittenWord "DELAY" := isWrittenWord_of_ascii (by decide) (by decide)
  have hwords : Bytes.words isBlank ("DELAY" ++ " " ++ ms) = [("DELAY" : Bytes), ms] := by
    rw [hword.words_append_space, (isWrittenWord_of_isCanonical h).words_eq]
  have hdelay : ofDelay "DELAY" ms = command .delay [ms] := by
    rw [ofDelay, Numeral.leadingText?_of_isCanonical h]
  rw [ofLine_eq, hwords, ← hdelay]
  rfl

theorem ofLine_name : ∀ k ∈ Key.all, k ≠ .gui → k ≠ .windows →
    ofLine k.name = command (.key k) [] := by
  decide +kernel

/-- Words in upper case stay as they are. -/
theorem map_upper_of_isChordWord {words : List Bytes} (h : ∀ word ∈ words, IsChordWord word) :
    words.map Bytes.upper = words := by
  have hsame : ∀ word ∈ words, word.upper = word := fun word hword => (h word hword).upper_eq
  rw [List.map_congr_left hsame, List.map_id']

/-- The line of a chord is read by its words, unless it is a comment. -/
theorem ofLine_joinWith {first : Bytes} {words : List Bytes}
    (h : ∀ word ∈ first :: words, IsChordWord word)
    (hname : first ∉ (["STRING", "DELAY", "REPEAT"] : List Bytes)) :
    ofLine (Bytes.joinWith " " (first :: words)) =
      if first.startsWith "REM" then nothing else ofKeys first (first :: words) := by
  have hwords := words_joinWith_space fun word hword => (h word hword).isWrittenWord
  have hfirst : first.upper = first := (h first (by simp)).upper_eq
  simp only [List.mem_cons, List.not_mem_nil, or_false, not_or] at hname
  rw [ofLine_eq, hwords]
  simp only [hfirst, if_neg hname.1, if_neg hname.2.1, if_neg hname.2.2,
    map_upper_of_isChordWord h]

theorem ofLine_guiChord {words : List Bytes} (h : ∀ word ∈ words, IsChordWord word)
    (hgui : ("GUI" : Bytes) ∉ words) :
    ofLine (Bytes.joinWith " " ("GUI" :: words)) = command .chord ("GUI" :: words) := by
  have hall : ∀ word ∈ ("GUI" : Bytes) :: words, IsChordWord word := by
    intro word hword
    rcases List.mem_cons.mp hword with rfl | hword
    · exact isChordWord_gui
    · exact h word hword
  have hkept : words.filter (fun w => w != ("GUI" : Bytes)) = words := by
    refine List.filter_eq_self.mpr fun word hword => ?_
    have hne : word ≠ ("GUI" : Bytes) := fun heq => hgui (heq ▸ hword)
    simpa using hne
  rw [ofLine_joinWith hall (by decide), if_neg (by decide), ofKeys, if_pos (by simp), guiArgs,
    List.filter_cons_of_neg (by simp), hkept]

theorem ofLine_chord {first : Bytes} {words : List Bytes}
    (hwords : ∀ word ∈ first :: words, IsChordWord word)
    (hname : first ∉ (["STRING", "DELAY", "REPEAT"] : List Bytes))
    (hgui : ("GUI" : Bytes) ∉ first :: words) (hwindows : ("WINDOWS" : Bytes) ∉ first :: words)
    (hchord : (first :: words).any chordWords.contains = true) :
    ofLine (Bytes.joinWith " " (first :: words)) =
      if first.startsWith "REM" then nothing else command .chord (first :: words) := by
  have hkeys : ofKeys first (first :: words) = command .chord (first :: words) := by
    rw [ofKeys, if_neg (by rwa [List.contains_iff_mem]), if_neg (by rwa [List.contains_iff_mem]),
      if_pos hchord]
  rw [ofLine_joinWith hwords hname, hkeys]

/-- The line of a well-formed command says the command, unless it is a comment. -/
theorem Command.IsWellFormed.ofLine_text {c : Command} (h : c.IsWellFormed) :
    ofLine c.text = if c.isComment then nothing else command c.kind c.args := by
  cases h with
  | @string text hhead hfeed n =>
    rw [if_neg (by simp [isComment]), text_string]
    split
    · next htext =>
      subst htext
      rfl
    · exact ofLine_string hhead
  | delay hms n =>
    rw [if_neg (by simp [isComment])]
    exact ofLine_delay hms
  | @guiChord words hwords hgui n =>
    have hplain : isComment ⟨.chord, "GUI" :: words, n⟩ = false := rfl
    rw [hplain]
    exact ofLine_guiChord hwords hgui
  | chord hwords hname hgui hwindows hchord n =>
    exact ofLine_chord hwords hname hgui hwindows hchord
  | @key k hgui hwindows n =>
    have hall : k ∈ Key.all := by cases k <;> decide
    rw [if_neg (by simp [isComment])]
    exact ofLine_name k hall hgui hwindows

end Reading

section Lines

open Bytes (lineFeed carriageReturn)

/-- Lines that were joined are split again, if none of them holds a line feed or ends in a carriage
return. -/
theorem splitLines_joinWith {lines : List Bytes} (hne : lines ≠ [])
    (hfeed : ∀ line ∈ lines, lineFeed ∉ line)
    (hreturn : ∀ line ∈ lines, line.getLast? ≠ some carriageReturn) :
    splitLines (Bytes.joinWith "\n" lines) = lines := by
  match lines with
  | [line] => exact splitLines_of_notMem (hfeed line (by simp))
  | line :: next :: rest =>
    have hrest : splitLines (Bytes.joinWith "\n" (next :: rest)) = next :: rest :=
      splitLines_joinWith (by simp) (fun l hl => hfeed l (List.mem_cons_of_mem _ hl))
        fun l hl => hreturn l (List.mem_cons_of_mem _ hl)
    have hline := splitLines_joinWith_cons (hfeed line (by simp)) next rest
    rw [Bytes.dropEnd_singleton, if_neg (hreturn line (by simp))] at hline
    exact hline.trans (congrArg (line :: ·) hrest)

namespace Command.IsWellFormed

variable {c : Command}

/-- The words of a chord hold neither of the two bytes that end a line. -/
theorem notMem_joinWith {words : List Bytes} (h : ∀ word ∈ words, IsWrittenWord word) :
    lineFeed ∉ Bytes.joinWith " " words ∧ carriageReturn ∉ Bytes.joinWith " " words := by
  constructor
  · refine notMem_joinWith_space (by decide) fun word hword => ?_
    exact (h word hword).notMem_of_isBlank (by decide) (by decide)
  · refine notMem_joinWith_space (by decide) fun word hword => ?_
    exact (h word hword).notMem_of_isBlank (by decide) (by decide)

/-- Only the line of a text can hold a byte that ends a line. -/
theorem notMem_text (h : c.IsWellFormed) (hkind : c.kind ≠ .string) :
    lineFeed ∉ c.text ∧ carriageReturn ∉ c.text := by
  cases h with
  | string => contradiction
  | @delay ms hms n =>
    have hwords : ∀ word ∈ [("DELAY" : Bytes), ms], IsWrittenWord word := by
      simp only [List.mem_cons, List.not_mem_nil, or_false, forall_eq_or_imp, forall_eq]
      exact ⟨isWrittenWord_of_ascii (by decide) (by decide), isWrittenWord_of_isCanonical hms⟩
    exact notMem_joinWith hwords
  | guiChord hwords hgui n =>
    refine notMem_joinWith fun word hword => ?_
    rcases List.mem_cons.mp hword with rfl | hword
    · exact isChordWord_gui.isWrittenWord
    · exact (hwords word hword).isWrittenWord
  | chord hwords hname hgui hwindows hchord n =>
    exact notMem_joinWith fun word hword => (hwords word hword).isWrittenWord
  | @key k hgui hwindows n =>
    have hall : k ∈ Key.all := by cases k <;> decide
    exact (by decide : ∀ k ∈ Key.all, lineFeed ∉ k.name ∧ carriageReturn ∉ k.name) k hall

theorem lineFeed_notMem_text (h : c.IsWellFormed) : lineFeed ∉ c.text := by
  by_cases hkind : c.kind = .string
  · cases h with
    | @string text hhead hfeed n =>
      rw [text_string]
      split
      · decide
      · rw [List.mem_append, not_or]
        exact ⟨by decide, hfeed⟩
    | _ => contradiction
  · exact (h.notMem_text hkind).1

/-- The line of a command does not end in a carriage return, if no text does. -/
theorem getLast?_text (h : c.IsWellFormed)
    (hreturn : c.kind = .string → (c.arg 0).getLast? ≠ some carriageReturn) :
    c.text.getLast? ≠ some carriageReturn := by
  by_cases hkind : c.kind = .string
  · have harg := hreturn hkind
    cases h with
    | @string text hhead hfeed n =>
      rw [text_string]
      split
      · decide
      · next htext =>
        rw [List.getLast?_append, List.getLast?_eq_some_getLast htext, Option.some_or,
          ← List.getLast?_eq_some_getLast htext]
        exact harg
    | _ => contradiction
  · intro hlast
    exact (h.notMem_text hkind).2 (List.mem_of_getLast? hlast)

end Command.IsWellFormed

end Lines

/-- Lines that say commands, or nothing, are understood as a whole and give these commands. -/
theorem LineByLine.run_text {commands : List Command}
    (h : ∀ c ∈ commands, Reading.ofLine c.text =
      if c.isComment then .nothing else .command c.kind c.args)
    (last : Option Command) (n : Nat) :
    let result := Result.ofOutcomes (run 0 last n (commands.map Command.text)).flatten
    result.errors = [] ∧ List.Forall₂ (fun c d => Command.same c d = true) result.commands
      (commands.filter fun c => !c.isComment) := by
  induction commands generalizing last n with
  | nil => exact ⟨rfl, .nil⟩
  | cons c commands ih =>
    obtain ⟨herrors, hcommands⟩ := ih (fun d hd => h d (List.mem_cons_of_mem _ hd))
      (latest last (produce 0 last n c.text)) (n + 1)
    have hproduce : produce 0 last n c.text =
        if c.isComment then [] else [.command ⟨c.kind, c.args, n⟩] := by
      rw [← Reading.outcomes_ofLine, h c (by simp)]
      split <;> rfl
    rw [List.map_cons, run, List.flatten_cons]
    simp only [Result.errors_ofOutcomes_append, Result.commands_ofOutcomes_append, herrors,
      List.append_nil]
    by_cases hcomment : c.isComment = true
    · rw [List.filter_cons_of_neg (by simp [hcomment])]
      rw [if_pos hcomment] at hproduce
      rw [hproduce] at hcommands ⊢
      exact ⟨rfl, hcommands⟩
    · rw [List.filter_cons_of_pos (by simpa using hcomment)]
      rw [if_neg hcomment] at hproduce
      rw [hproduce] at hcommands ⊢
      exact ⟨rfl, .cons (by simp [Command.same]) hcommands⟩

/-- The commands of a text in which no typed text ends in a carriage return can be written as a
script. Reading it finds no errors and gives all the commands again, but those that are written as
comments. -/
theorem parse_script {text : Bytes}
    (h : ∀ c ∈ (parse text).commands, c.kind = .string →
      (c.arg 0).getLast? ≠ some Bytes.carriageReturn) :
    (parse (script (parse text).commands)).errors = [] ∧
      List.Forall₂ (fun c d => Command.same c d = true)
        (parse (script (parse text).commands)).commands
        ((parse text).commands.filter fun c => !c.isComment) := by
  have hformed : ∀ c ∈ (parse text).commands, c.IsWellFormed :=
    fun c hc => isWellFormed_of_mem_commands (n := 0) hc
  generalize (parse text).commands = commands at h hformed ⊢
  have hrun := LineByLine.run_text (fun c hc => (hformed c hc).ofLine_text) none 1
  have hparse : parse (script commands) =
      .ofOutcomes (LineByLine.run 0 none 1 (commands.map Command.text)).flatten := by
    rw [parse_eq_ofOutcomes, script]
    by_cases hne : commands = []
    · subst hne
      decide
    · rw [splitLines_joinWith (by simpa using hne)]
      · intro line hline
        obtain ⟨c, hc, rfl⟩ := List.mem_map.mp hline
        exact (hformed c hc).lineFeed_notMem_text
      · intro line hline
        obtain ⟨c, hc, rfl⟩ := List.mem_map.mp hline
        exact (hformed c hc).getLast?_text (h c hc)
  rw [hparse]
  exact hrun

/-- A script with blanks around a typed text, a numeral that is not canonical, a repetition, a byte
outside UTF-8, and chords that are written as comments. -/
def mixedScript : Bytes :=
  Bytes.joinWith "\n" ["rem ctrl", "string \t a  b ", "Delay +007x", "REPEAT 2",
    ("windows r " : Bytes) ++ [0xFF], "", "Ctrl x", "REM", "Remo alt", "tab"]

theorem parse_script_mixed :
    (parse mixedScript).commands.map Command.text =
        (["REM CTRL", "STRING a  b ", "DELAY 7", "DELAY 7", "DELAY 7", "GUI R \uFFFD", "CTRL X",
          "REMO ALT", "TAB"] : List String).map Bytes.ofString ∧
      (parse (script (parse mixedScript).commands)).errors = [] ∧
      List.Forall₂ (fun c d => Command.same c d = true)
        (parse (script (parse mixedScript).commands)).commands
        ((parse mixedScript).commands.filter fun c => !c.isComment) := by
  refine ⟨?_, parse_script ?_⟩
  · rw [parse_eq_ofOutcomes]
    decide +kernel
  · rw [parse_eq_ofOutcomes]
    decide +kernel

end KeyScript
