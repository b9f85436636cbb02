import KeyScript.Proofs.Json.Spelling
import KeyScript.Proofs.Script.Unknown
import KeyScript.Proofs.Script.WellFormed
import KeyScript.Proofs.Sketch.Escape
import KeyScript.Sketch.Basic

/-!
# From UTF-8 to UTF-8

Lines, arguments, diagnostics and sketches are put together from bytes, but no step ever divides a
character: lines end at bytes that stand for themselves, words and texts are cut out between
characters, numerals are digits, and a literal escapes only bytes that stand for themselves. So all
that comes out of a script in UTF-8 is in UTF-8, and nothing of it is lost in a JSON text.

## Main results

- `isUtf8_of_mem_splitLines` — the lines of a text
- `Command.IsReadFrom.isUtf8_of_mem_args` — the arguments of what a line says
- `Sketch.isUtf8_generate` — the sketch of commands
- `isUtf8_parse` — all that comes out of a script
-/

namespace KeyScript

open Bytes (lineFeed carriageReturn isUtf8_append isUtf8_ofString)

theorem isUtf8_of_mem_splitLines_joinWith {pieces : List Bytes}
    (hfeed : ∀ piece ∈ pieces, lineFeed ∉ piece) (h : ∀ piece ∈ pieces, piece.isUtf8 = true) :
    ∀ line ∈ splitLines (Bytes.joinWith [lineFeed] pieces), line.isUtf8 = true := by
  induction pieces with
  | nil =>
    intro line hline
    cases List.mem_singleton.mp hline
    rfl
  | cons piece pieces ih =>
    obtain ⟨hpiece, hpieces⟩ := List.forall_mem_cons.mp h
    cases pieces with
    | nil =>
      rw [Bytes.joinWith, splitLines_of_notMem (hfeed piece List.mem_cons_self)]
      exact h
    | cons next rest =>
      rw [splitLines_joinWith_cons (hfeed piece List.mem_cons_self)]
      rw [List.forall_mem_cons]
      constructor
      · exact Bytes.isUtf8_dropEnd (by decide) hpiece
      · exact ih (fun p hp => hfeed p (List.mem_cons_of_mem _ hp)) hpieces

/-- The bytes that end lines are characters by themselves, so that the lines keep all others. -/
theorem isUtf8_of_mem_splitLines {text line : Bytes} (h : text.isUtf8 = true)
    (hline : line ∈ splitLines text) : line.isUtf8 = true := by
  have htext := Bytes.joinWith_splitAt lineFeed text
  rw [← htext] at h hline
  exact isUtf8_of_mem_splitLines_joinWith (fun _ hpiece => Bytes.notMem_of_mem_splitAt hpiece)
    (Bytes.isUtf8_of_mem_joinWith (by decide) h) line hline

theorem Numeral.IsCanonical.isUtf8 {ms : Bytes} (h : Numeral.IsCanonical ms) :
    ms.isUtf8 = true := by
  have htext := Numeral.leadingText?_of_isCanonical h
  rw [Numeral.leadingText?_eq_map_leading?, Option.map_eq_some_iff] at htext
  obtain ⟨v, -, rfl⟩ := htext
  exact Numeral.isUtf8_ofInt v

theorem IsChordWord.isUtf8 {word : Bytes} (h : IsChordWord word) : word.isUtf8 = true :=
  h.upper_eq ▸ Bytes.isUtf8_upper word

/-- The arguments of a command on a line in UTF-8. -/
theorem Command.IsReadFrom.isUtf8_of_mem_args {c : Command} {line : Bytes} (h : c.IsReadFrom line)
    (hfeed : lineFeed ∉ line) (hline : line.isUtf8 = true) : ∀ arg ∈ c.args, arg.isUtf8 = true := by
  cases h.isWellFormed hfeed with
  | string =>
    rw [Reading.eq_stringText_of_string h, List.forall_mem_singleton]
    exact Bytes.isUtf8_join_of_infix hline (afterFirstWord_suffix isBlank (runes line)).isInfix
  | delay hms => exact List.forall_mem_singleton.mpr hms.isUtf8
  | guiChord hwords =>
    exact List.forall_mem_cons.mpr ⟨isUtf8_ofString "GUI", fun w hw => (hwords w hw).isUtf8⟩
  | chord hwords => exact fun w hw => (hwords w hw).isUtf8
  | key => exact List.forall_mem_nil _

namespace Reading

variable {line token : Bytes}

/-- A diagnostic, also one for a repetition that finds nothing to repeat, names a word of the
line. -/
theorem mem_words_of_rejected_or_again {cause : Cause}
    (h : ofLine line = rejected token cause ∨ ∃ count, ofLine line = again token count) :
    token ∈ line.words isBlank := by
  have hsaid : ofLine line ≠ nothing := by
    rcases h with h | ⟨count, h⟩ <;> simp [h]
  obtain ⟨first, rest, hwords, hrem⟩ := exists_words_of_ne_nothing hsaid
  have hfirst : first = token := by
    rcases ofLine_cases hwords hrem with
      ⟨-, hcase⟩ | ⟨-, _, hcase⟩ | ⟨-, _, hcase⟩ | ⟨-, _, _, hcase, -⟩ | ⟨_, -, hcase⟩ <;>
      simp_all
  rw [hwords, hfirst]
  exact List.mem_cons_self

end Reading

namespace Diagnostic

variable {e : Diagnostic}

theorem isUtf8_message (htoken : e.token.isUtf8 = true)
    (hcause : ∀ text, e.cause ≠ .other text) : e.message.isUtf8 = true := by
  rw [message]
  split
  · exact isUtf8_ofString _
  · exact isUtf8_ofString _
  · exact isUtf8_ofString _
  · exact isUtf8_append (isUtf8_append (isUtf8_ofString _) htoken) (isUtf8_ofString _)
  · exact isUtf8_ofString _
  · exact isUtf8_ofString _
  · next text hother => exact absurd hother (hcause text)

theorem isUtf8_text (h : e.message.isUtf8 = true) : e.text.isUtf8 = true := by
  have hplace : e.place.isUtf8 = true :=
    isUtf8_append (isUtf8_append (isUtf8_ofString _) (Numeral.isUtf8_ofInt _)) (isUtf8_ofString _)
  exact isUtf8_append (isUtf8_append hplace (isUtf8_ofString _)) h

end Diagnostic

namespace Literal

variable {quote b : UInt8}

/-- A byte from 0x80 on stands in a literal as it is. -/
theorem escapeByte_of_le (hquote : quote < 0x80) (hb : 0x80 ≤ b) : escapeByte quote b = [b] := by
  have hne : ∀ c : UInt8, c < 0x80 → b ≠ c := by
    rintro c hc rfl
    exact absurd hc (UInt8.not_lt.mpr hb)
  have hcontrol : isControl b = false := by
    simp only [isControl, Bool.or_eq_false_iff, decide_eq_false_iff_not, beq_eq_false_iff_ne]
    exact ⟨fun hlt => absurd (UInt8.lt_trans hlt (by decide)) (UInt8.not_lt.mpr hb),
      hne _ (by decide)⟩
  simp [escapeByte, hne quote hquote, hne backslash (by decide), hne 10 (by decide),
    hne 13 (by decide), hne 9 (by decide), hcontrol]

/-- A byte below 0x80 is written in such bytes. -/
theorem ascii_of_mem_escapeByte (quote : UInt8) (hb : b < 0x80) :
    ∀ x ∈ escapeByte quote b, x < 0x80 := by
  have hdigit : ∀ n, n < 10 → Numeral.digit n < 0x80 := by decide
  have hpair : ∀ u v : UInt8, u < 0x80 → v < 0x80 → ∀ x ∈ [u, v], x < 0x80 := by
    intro u v hu hv
    rw [List.forall_mem_cons, List.forall_mem_singleton]
    exact ⟨hu, hv⟩
  have hlt : b.toNat < 0x80 := UInt8.lt_iff_toNat_lt.mp hb
  rw [escapeByte]
  split
  · exact hpair _ _ (by decide) hb
  split
  · exact hpair _ _ (by decide) (by decide)
  split
  · exact hpair _ _ (by decide) (by decide)
  split
  · exact hpair _ _ (by decide) (by decide)
  split
  · simp only [List.mem_cons, Numeral.octal, List.not_mem_nil, or_false]
    rintro x (rfl | rfl | rfl | rfl)
    · decide
    · exact hdigit _ (by omega)
    · exact hdigit _ (by omega)
    · exact hdigit _ (by omega)
  · simpa using hb

/-- Escaping works on bytes, but a character of several bytes has none that is escaped. -/
theorem isUtf8_escapeByte_encode (hquote : quote < 0x80) (c : Char) :
    Bytes.isUtf8 ((encode c).flatMap (escapeByte quote)) = true := by
  by_cases hc : c.toNat < 0x80
  · have hnumber : (UInt8.ofNat c.toNat).toNat = c.toNat := toNat_byte (by omega)
    have hascii : UInt8.ofNat c.toNat < 0x80 := by
      rw [UInt8.lt_iff_toNat_lt, hnumber]
      exact hc
    have hencode : encode c = [UInt8.ofNat c.toNat] := by
      have hbyte := encode_ascii hascii
      rwa [hnumber, Char.ofNat_toNat] at hbyte
    rw [hencode, List.flatMap_singleton]
    exact Bytes.isUtf8_of_ascii (ascii_of_mem_escapeByte quote hascii)
  · have hplain : ∀ b ∈ encode c, escapeByte quote b = [b] := by
      intro b hb
      apply escapeByte_of_le hquote
      by_contra hlt
      have hbyte : b < 0x80 := UInt8.not_le.mp hlt
      have hnumber := toNat_eq_of_mem_encode hb hbyte
      rw [UInt8.lt_iff_toNat_lt] at hbyte
      exact hc (hnumber ▸ hbyte)
    rw [List.flatMap_congr hplain, List.flatMap_singleton']
    exact Bytes.isUtf8_encode c

theorem isUtf8_string {s : Bytes} (h : s.isUtf8 = true) : (string s).isUtf8 = true := by
  obtain ⟨cs, rfl⟩ := Bytes.isUtf8_iff.mp h
  have hbody : Bytes.isUtf8 ((Bytes.ofChars cs).flatMap (escapeByte doubleQuote)) = true := by
    rw [Bytes.ofChars, List.flatMap_assoc]
    exact Bytes.isUtf8_flatMap fun c _ => isUtf8_escapeByte_encode (by decide) c
  exact isUtf8_append (isUtf8_append (s := [doubleQuote]) (by decide) hbody) (by decide)

theorem isUtf8_character (c : Char) : (character c).isUtf8 = true := by
  have hbody : Bytes.isUtf8 ((encode c).flatMap (escapeByte singleQuote)) = true :=
    isUtf8_escapeByte_encode (by decide) c
  exact isUtf8_append (isUtf8_append (s := [singleQuote]) (by decide) hbody) (by decide)

end Literal

theorem Kind.isUtf8_name (kind : Kind) : kind.name.isUtf8 = true := by
  cases kind with
  | key k => cases k <;> exact isUtf8_ofString _
  | unnamed n =>
    exact isUtf8_append (isUtf8_append (isUtf8_ofString _) (Numeral.isUtf8_ofNat _))
      (isUtf8_ofString _)
  | _ => exact isUtf8_ofString _

namespace KeyCode

theorem isUtf8_of_key {k : Key} {key : KeyCode} (h : k.keyCode? = some key) :
    key.expression.isUtf8 = true := by
  have hall : (Key.all.all fun k => k.keyCode?.all fun key => key.expression.isUtf8) = true := by
    decide
  have hk := List.all_eq_true.mp hall k (by cases k <;> decide)
  rwa [h] at hk

theorem isUtf8_of_kind {kind : Kind} {key : KeyCode} (h : kind.keyCode? = some key) :
    key.expression.isUtf8 = true := by
  cases kind with
  | key k => exact isUtf8_of_key h
  | _ => cases h

theorem isUtf8_of_modifierCode? {word : Bytes} {key : KeyCode} (h : modifierCode? word = some key) :
    key.expression.isUtf8 = true := by
  have hall : (modifierCodes.all fun p => p.2.expression.isUtf8) = true := by decide
  obtain ⟨front, back, hcodes, -⟩ := List.lookup_eq_some_iff.mp h
  exact List.all_eq_true.mp hall (word, key) (by simp [hcodes])

theorem isUtf8_chordKey (word : Bytes) : (chordKey word).expression.isUtf8 = true := by
  have hnamed : (((Key.ofName? word).bind Key.keyCode?).getD .fallback).expression.isUtf8 =
      true := by
    cases hkey : (Key.ofName? word).bind Key.keyCode? with
    | none => exact isUtf8_ofString _
    | some key =>
      obtain ⟨k, -, hk⟩ := Option.bind_eq_some_iff.mp hkey
      exact isUtf8_of_key hk
  rw [chordKey]
  split
  · split
    · exact hnamed
    · exact Literal.isUtf8_character _
  · exact hnamed

end KeyCode

namespace Sketch

theorem isUtf8_arg {c : Command} (h : ∀ arg ∈ c.args, arg.isUtf8 = true) (i : Int) :
    (c.arg i).isUtf8 = true := by
  rw [Command.arg]
  split
  · rfl
  · rw [List.getD_eq_getElem?_getD]
    cases harg : c.args[i.toNat]? with
    | none => rfl
    | some arg => exact h arg (List.mem_of_getElem? harg)

theorem isUtf8_press {key : KeyCode} (h : key.expression.isUtf8 = true) :
    (Statement.press key).code.isUtf8 = true :=
  isUtf8_append (isUtf8_append (isUtf8_ofString _) h) (isUtf8_ofString _)

theorem isUtf8_of_mem_chordStatements (args : List Bytes) :
    ∀ s ∈ chordStatements args, s.code.isUtf8 = true := by
  intro s hs
  simp only [chordStatements, List.mem_append, List.mem_map, List.mem_filterMap, List.mem_cons,
    List.not_mem_nil, or_false] at hs
  rcases hs with ⟨key, ⟨word, -, hkey⟩, rfl⟩ | rfl | rfl | rfl
  · exact isUtf8_press (KeyCode.isUtf8_of_modifierCode? hkey)
  · exact isUtf8_press (KeyCode.isUtf8_chordKey _)
  · decide
  · exact isUtf8_ofString _

theorem isUtf8_of_mem_statements {c : Command} (h : ∀ arg ∈ c.args, arg.isUtf8 = true) :
    ∀ s ∈ c.statements, s.code.isUtf8 = true := by
  rw [Command.statements]
  split
  · rw [List.forall_mem_singleton]
    exact isUtf8_append (isUtf8_append (isUtf8_ofString _) (Literal.isUtf8_string (isUtf8_arg h 0)))
      (isUtf8_ofString _)
  · rw [List.forall_mem_singleton]
    exact isUtf8_append (isUtf8_append (isUtf8_ofString _) (isUtf8_arg h 0)) (isUtf8_ofString _)
  · exact isUtf8_of_mem_chordStatements c.args
  · split
    · next key hkey =>
      rw [List.forall_mem_singleton]
      exact isUtf8_append (isUtf8_append (isUtf8_ofString _) (KeyCode.isUtf8_of_kind hkey))
        (isUtf8_ofString _)
    · rw [List.forall_mem_singleton]
      exact isUtf8_append (isUtf8_ofString _) (Kind.isUtf8_name _)

theorem isUtf8_unlines {lines : List Bytes} (h : ∀ line ∈ lines, line.isUtf8 = true) :
    (Bytes.unlines lines).isUtf8 = true := by
  apply Bytes.isUtf8_flatMap
  intro line hline
  exact isUtf8_append (h line hline) (by decide)

theorem isUtf8_header : header.isUtf8 = true := by
  apply isUtf8_unlines
  simp only [List.forall_mem_cons, isUtf8_ofString, List.not_mem_nil, false_imp_iff, implies_true,
    and_self]

theorem isUtf8_footer : footer.isUtf8 = true := by
  apply isUtf8_unlines
  simp only [List.forall_mem_cons, isUtf8_ofString, List.not_mem_nil, false_imp_iff, implies_true,
    and_self]

/-- Nothing in a sketch is outside UTF-8 except what the commands bring along. -/
theorem isUtf8_generate {commands : List Command}
    (h : ∀ c ∈ commands, ∀ arg ∈ c.args, arg.isUtf8 = true) (target : Target) :
    (generate commands target).isUtf8 = true := by
  have hbody : (body commands).isUtf8 = true := by
    apply Bytes.isUtf8_flatMap
    intro c hc
    apply Bytes.isUtf8_flatMap
    intro s hs
    have hcode := isUtf8_of_mem_statements (h c hc) s hs
    exact isUtf8_append (isUtf8_append (isUtf8_ofString _) hcode) (isUtf8_ofString _)
  exact isUtf8_append (isUtf8_append isUtf8_header hbody) isUtf8_footer

end Sketch

/-- Of a script in UTF-8, the arguments of the commands, the diagnostics with their words and their
messages, the lines and the sketch are in UTF-8. These are the texts that come back from their
spellings in JSON; any other text would not. -/
theorem isUtf8_parse {text : Bytes} (h : text.isUtf8 = true) :
    (∀ c ∈ (parse text).commands, ∀ arg ∈ c.args, arg.isUtf8 = true) ∧
      (∀ e ∈ (parse text).errors,
        e.token.isUtf8 = true ∧ e.message.isUtf8 = true ∧ e.text.isUtf8 = true) ∧
      (∀ line ∈ splitLines text, line.isUtf8 = true) ∧
      (∀ target, (Sketch.generate (parse text).commands target).isUtf8 = true) ∧
      ∀ s : Bytes, Json.unescape (Json.escape s) = s ↔ s.isUtf8 = true := by
  have hlines : ∀ line ∈ splitLines text, line.isUtf8 = true := fun _ =>
    isUtf8_of_mem_splitLines h
  have hcommands : ∀ c ∈ (parse text).commands, ∀ arg ∈ c.args, arg.isUtf8 = true := by
    intro c hc
    obtain ⟨line, hline, hread⟩ := exists_isReadFrom_of_mem_commands (n := 0) hc
    exact hread.isUtf8_of_mem_args (lineFeed_notMem_of_mem_splitLines hline) (hlines line hline)
  refine ⟨hcommands, ?_, hlines, Sketch.isUtf8_generate hcommands, Json.unescape_escape_eq_iff⟩
  intro e (he : e ∈ (parseMaxRepeat text 0).errors)
  obtain ⟨i, line, hline, -, hsaid⟩ := exists_line_of_mem_errors he
  have htoken : e.token.isUtf8 = true := by
    have hmem : e.token ∈ line.words isBlank := by
      apply Reading.mem_words_of_rejected_or_again
      exact hsaid.imp_right And.right
    exact Bytes.isUtf8_of_mem_words (hlines line (List.mem_of_getElem? hline)) hmem
  have hcause : ∀ text, e.cause ≠ .other text := by
    intro text hother
    rcases hsaid with hsaid | ⟨hcause, -⟩
    · have hmem := Reading.mem_causes_of_rejected hsaid
      simp [hother, Reading.causes] at hmem
    · rw [hother] at hcause
      cases hcause
  have hmessage := Diagnostic.isUtf8_message htoken hcause
  exact ⟨htoken, hmessage, Diagnostic.isUtf8_text hmessage⟩

/-- A script with characters of two, three and four bytes, in a text, in a chord, in an unknown word
and behind a line that ends in both bytes. -/
theorem isUtf8_parse_wide :
    let text : Bytes := "STRING é\u3000😀\r\nCTRL ß\nΣx\r\r\nDELAY 7é"
    text.isUtf8 = true ∧
      (parse text).commands.flatMap Command.args = ["é\u3000😀", "CTRL", "ß", "7"] ∧
      (parse text).errors.map Diagnostic.message = ["Unknown command 'Σx'"] ∧
      ∀ target, (Sketch.generate (parse text).commands target).isUtf8 = true := by
  intro text
  have hutf8 : text.isUtf8 = true := isUtf8_ofString _
  refine ⟨hutf8, ?_, ?_, (isUtf8_parse hutf8).2.2.2.1⟩
  · rw [parse_eq_ofOutcomes]
    decide +kernel
  · rw [parse_eq_ofOutcomes]
    decide +kernel

end KeyScript
