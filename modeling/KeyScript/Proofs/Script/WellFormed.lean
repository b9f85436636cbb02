import KeyScript.Proofs.Script.Origin
import KeyScript.Proofs.Text.WrittenWords

/-!
# Well-formed commands

Of the commands that the types allow, a script has only some: a text stands on one line and does not
begin with a blank, a delay has a canonical numeral, the words of a chord are in upper case and the
GUI key comes first in it, and the keys are simple ones. This module says which commands are well
formed and shows that a line gives no others.

## Main definitions

- `IsChordWord` — a word as it stands in a chord
- `Command.IsWellFormed` — the commands that a line can give
- `Command.HasShape` — how many arguments each kind of command has
- `Command.Conforms` — what the arguments of each kind of command are like

## Main results

- `Command.IsReadFrom.isWellFormed` — what is read from a line is well formed
- `isWellFormed_of_mem_commands` — so is every command of a script, copies included
- `conforms_of_mem_parse` — the arguments of every command of a script
-/

namespace KeyScript

/-- A written word in upper case. -/
structure IsChordWord (word : Bytes) : Prop where
  isWrittenWord : IsWrittenWord word
  upper_eq : word.upper = word

/-- The commands that a line can give. -/
inductive Command.IsWellFormed : Command → Prop where
  | string {text : Bytes} (hhead : ∀ r ∈ (runes text).head?, isBlank r.char = false)
      (hfeed : Bytes.lineFeed ∉ text) (line : Int) : IsWellFormed ⟨.string, [text], line⟩
  | delay {ms : Bytes} (h : Numeral.IsCanonical ms) (line : Int) : IsWellFormed ⟨.delay, [ms], line⟩
  | guiChord {words : List Bytes} (hwords : ∀ word ∈ words, IsChordWord word)
      (hgui : ("GUI" : Bytes) ∉ words) (line : Int) : IsWellFormed ⟨.chord, "GUI" :: words, line⟩
  | chord {first : Bytes} {words : List Bytes}
      (hwords : ∀ word ∈ first :: words, IsChordWord word)
      (hname : first ∉ (["STRING", "DELAY", "REPEAT"] : List Bytes))
      (hgui : ("GUI" : Bytes) ∉ first :: words) (hwindows : ("WINDOWS" : Bytes) ∉ first :: words)
      (hchord : (first :: words).any Reading.chordWords.contains = true) (line : Int) :
      IsWellFormed ⟨.chord, first :: words, line⟩
  | key {k : Key} (hgui : k ≠ .gui) (hwindows : k ≠ .windows) (line : Int) :
      IsWellFormed ⟨.key k, [], line⟩

theorem isChordWord_upper_of_mem_words {line word : Bytes} (h : word ∈ line.words isBlank) :
    IsChordWord word.upper :=
  ⟨isWrittenWord_upper_of_mem_words h, Bytes.upper_upper word⟩

theorem isChordWord_gui : IsChordWord "GUI" :=
  ⟨isWrittenWord_of_ascii (by decide) (by decide), by decide +kernel⟩

section StringText

theorem afterFirstWord_suffix (sep : Char → Bool) (rs : List Rune) :
    afterFirstWord sep rs <:+ rs :=
  ((List.dropWhile_suffix _).trans (List.dropWhile_suffix _)).trans (List.dropWhile_suffix _)

/-- The text of a `STRING` line has the characters that stand behind its first word. -/
theorem runes_stringText (line : Bytes) :
    runes (Reading.stringText line) = afterFirstWord isBlank (runes line) := by
  obtain ⟨before, hbefore⟩ := afterFirstWord_suffix isBlank (runes line)
  exact runes_join_right hbefore.symm

/-- The text of a `STRING` line does not begin with a blank. -/
theorem head_stringText (line : Bytes) :
    ∀ r ∈ (runes (Reading.stringText line)).head?, isBlank r.char = false := by
  intro r hr
  rw [runes_stringText, afterFirstWord, skipSpace] at hr
  have hhead := List.head?_dropWhile_not (fun r : Rune => isBlank r.char)
    (skipWord isBlank (skipSpace isBlank (runes line)))
  rw [Option.mem_def.mp hr] at hhead
  simpa using hhead

/-- The text of a `STRING` line stands at the end of the line. -/
theorem stringText_suffix (line : Bytes) : Reading.stringText line <:+ line := by
  obtain ⟨before, hbefore⟩ := afterFirstWord_suffix isBlank (runes line)
  refine ⟨Rune.join before, ?_⟩
  rw [Reading.stringText, ← Rune.join_append, hbefore, join_runes]

end StringText

namespace Reading

variable {token number : Bytes} {kind : Kind} {args : List Bytes}

theorem isWellFormed_of_ofDelay (h : ofDelay token number = command kind args) (line : Int) :
    Command.IsWellFormed ⟨kind, args, line⟩ := by
  rw [ofDelay] at h
  split at h
  · next ms hms =>
    cases h
    exact .delay (Numeral.isCanonical_of_leadingText? hms) line
  · cases h

theorem isWellFormed_guiArgs {drop : Bytes} {words : List Bytes}
    (hwords : ∀ word ∈ words, IsChordWord word) (hgui : drop = "GUI" ∨ ("GUI" : Bytes) ∉ words)
    (line : Int) : Command.IsWellFormed ⟨.chord, guiArgs drop words, line⟩ := by
  refine .guiChord (fun word hword => hwords word (List.mem_filter.mp hword).1) ?_ line
  intro hmem
  obtain ⟨hmem, hkept⟩ := List.mem_filter.mp hmem
  rcases hgui with rfl | hgui
  · simp at hkept
  · exact hgui hmem

/-- A chord or a key, from words in upper case of which the first is no statement name. -/
theorem isWellFormed_of_ofKeys {first : Bytes} {words : List Bytes}
    (hwords : ∀ word ∈ first :: words, IsChordWord word)
    (hname : first ∉ (["STRING", "DELAY", "REPEAT"] : List Bytes))
    (h : ofKeys token (first :: words) = command kind args) (line : Int) :
    Command.IsWellFormed ⟨kind, args, line⟩ := by
  rw [ofKeys] at h
  split at h
  · cases h
    exact isWellFormed_guiArgs hwords (.inl rfl) line
  next hgui =>
  rw [List.contains_iff_mem] at hgui
  split at h
  · cases h
    exact isWellFormed_guiArgs hwords (.inr hgui) line
  next hwindows =>
  rw [List.contains_iff_mem] at hwindows
  split at h
  · next hchord =>
    cases h
    exact .chord hwords hname hgui hwindows hchord line
  split at h
  · next k hk =>
    cases h
    -- The first word names the key, and it is neither of the words that would make a chord.
    have hfirst : k.name = first := by
      rw [List.head?_cons, Option.bind_some, Key.ofName?] at hk
      simpa using List.find?_some hk
    refine .key ?_ ?_ line
    · rintro rfl
      exact hgui (hfirst ▸ List.mem_cons_self)
    · rintro rfl
      exact hwindows (hfirst ▸ List.mem_cons_self)
  · cases h

end Reading

/-- What is read from a line is well formed. -/
theorem Command.IsReadFrom.isWellFormed {c : Command} {line : Bytes} (h : c.IsReadFrom line)
    (hfeed : Bytes.lineFeed ∉ line) : c.IsWellFormed := by
  obtain ⟨kind, args, n⟩ := c
  rw [IsReadFrom, Reading.ofLine_eq] at h
  cases hwords : line.words isBlank with
  | nil => simp [hwords] at h
  | cons token rest =>
    simp only [hwords] at h
    split at h
    · cases h
    split at h
    · cases h
      exact .string (head_stringText line)
        (fun hmem => hfeed ((stringText_suffix line).subset hmem)) n
    next hstring =>
    split at h
    · exact Reading.isWellFormed_of_ofDelay h n
    next hdelay =>
    split at h
    · exact absurd h Reading.ofRepeat_ne_command
    next hrepeat =>
    refine Reading.isWellFormed_of_ofKeys (fun word hword => ?_) ?_ h n
    · rw [← List.map_cons, List.mem_map] at hword
      obtain ⟨w, hw, rfl⟩ := hword
      exact isChordWord_upper_of_mem_words (hwords ▸ hw)
    · simp only [List.mem_cons, List.not_mem_nil, or_false, not_or]
      exact ⟨hstring, hdelay, hrepeat⟩

/-- Every command of a script is well formed, copies included. -/
theorem isWellFormed_of_mem_commands {text : Bytes} {n : Int} {c : Command}
    (h : c ∈ (parseMaxRepeat text n).commands) : c.IsWellFormed := by
  obtain ⟨line, hline, hread⟩ := exists_isReadFrom_of_mem_commands h
  exact hread.isWellFormed (lineFeed_notMem_of_mem_splitLines hline)

/-- The kinds of commands with the arguments that a line can give them. -/
inductive Command.HasShape : Command → Prop where
  | string (text : Bytes) (line : Int) : HasShape ⟨.string, [text], line⟩
  | delay {ms : Bytes} (h : Numeral.IsCanonical ms) (line : Int) : HasShape ⟨.delay, [ms], line⟩
  | chord (words : List Bytes) (line : Int) : HasShape ⟨.chord, words, line⟩
  | key (k : Key) (line : Int) : HasShape ⟨.key k, [], line⟩

theorem Command.IsWellFormed.hasShape {c : Command} (h : c.IsWellFormed) : c.HasShape := by
  cases h with
  | string _ _ line => exact .string _ line
  | delay hms line => exact .delay hms line
  | guiChord _ _ line => exact .chord _ line
  | chord _ _ _ _ _ line => exact .chord _ line
  | key _ _ line => exact .key _ line

/-- Every command of a result has one of the shapes. -/
theorem hasShape_of_mem_commands {text : Bytes} {n : Int} {c : Command}
    (h : c ∈ (parseMaxRepeat text n).commands) : c.HasShape :=
  (isWellFormed_of_mem_commands h).hasShape

/-- What the arguments of a command are like, by its kind. -/
def Command.Conforms (c : Command) : Prop :=
  match c.kind with
  | .string => ∃ text, c.args = [text] ∧ Bytes.lineFeed ∉ text ∧
      ∀ r ∈ (runes text).head?, isBlank r.char = false
  | .delay => ∃ ms, c.args = [ms] ∧ Numeral.IsCanonical ms
  | .chord => c.args ≠ [] ∧
      (∀ word ∈ c.args, word ≠ [] ∧ (∀ r ∈ runes word, isBlank r.char = false) ∧
        word.upper = word) ∧
      ((c.args.head? = some "GUI" ∧ ("GUI" : Bytes) ∉ c.args.tail) ∨
        (("GUI" : Bytes) ∉ c.args ∧ ("WINDOWS" : Bytes) ∉ c.args ∧
          ∃ word ∈ c.args, word ∈ (["CTRL", "CONTROL", "ALT", "SHIFT"] : List Bytes)))
  | .key k => c.args = [] ∧ k ≠ .gui ∧ k ≠ .windows
  | .invalid | .unnamed _ => False

theorem IsChordWord.plain {word : Bytes} (h : IsChordWord word) :
    word ≠ [] ∧ (∀ r ∈ runes word, isBlank r.char = false) ∧ word.upper = word :=
  ⟨h.isWrittenWord.ne_nil, h.isWrittenWord.isBlank_of_mem_runes, h.upper_eq⟩

theorem Command.IsWellFormed.conforms {c : Command} (h : c.IsWellFormed) : c.Conforms := by
  cases h with
  | @string text hhead hfeed line => exact ⟨text, rfl, hfeed, hhead⟩
  | @delay ms hms line => exact ⟨ms, rfl, hms⟩
  | @guiChord words hwords hgui line =>
    refine ⟨by simp, ?_, .inl ⟨rfl, hgui⟩⟩
    intro word hword
    rcases List.mem_cons.mp hword with rfl | hword
    · exact isChordWord_gui.plain
    · exact (hwords word hword).plain
  | @chord first words hwords hname hgui hwindows hchord line =>
    refine ⟨by simp, fun word hword => (hwords word hword).plain, .inr ⟨hgui, hwindows, ?_⟩⟩
    obtain ⟨word, hword, hcontains⟩ := List.any_eq_true.mp hchord
    exact ⟨word, hword, List.contains_iff_mem.mp hcontains⟩
  | @key k hgui hwindows line => exact ⟨rfl, hgui, hwindows⟩

/-- The arguments of every command of a script, copies included. -/
theorem conforms_of_mem_parse {text : Bytes} {c : Command} (h : c ∈ (parse text).commands) :
    c.Conforms :=
  (isWellFormed_of_mem_commands (n := 0) h).conforms

/-- The copy of a chord with a second word for the GUI key and a byte outside UTF-8. -/
theorem conforms_of_mem_parse_copy :
    let text := Bytes.joinWith "\n" [("windows gui \t" : Bytes) ++ [0xFF], "REPEAT 1"]
    let copy : Command := ⟨.chord, ["GUI", "WINDOWS", "\uFFFD"], 2⟩
    copy ∈ (parse text).commands ∧ copy.Conforms := by
  intro text copy
  have hmem : copy ∈ (parse text).commands := by
    rw [parse_eq_ofOutcomes]
    decide +kernel
  exact ⟨hmem, conforms_of_mem_parse hmem⟩

end KeyScript
