import Mathlib.Data.List.Forall2
import KeyScript.Editor.Fix
import KeyScript.Proofs.Script.Caps
import KeyScript.Proofs.Script.Ranking
import KeyScript.Proofs.Script.Unknown

/-!
# Fixes repair their lines

A fix is found from three sources: the diagnostic gives the line and the token, the line is looked
up among the lines of the document, and the columns come from the words of that line. They agree.
Each unknown command has the fixes that are suggested for its token; a fix replaces the first word
of the line and nothing else, and the line is not unknown any more.

## Main definitions

- `Fix.applyTo` — a line after a fix
- `unknownOn` — the unknown commands on some lines of a text
- `Fix.Repairs` — what a fix does for a diagnostic

## Main results

- `Document.exists_line_of_mem_errors` — diagnostics stand on lines of the document
- `Document.forall₂_repairs_fixes` — the fixes of a document
-/

namespace KeyScript

/-- A line after a fix. -/
def Fix.applyTo (f : Fix) (line : Bytes) : Bytes :=
  line.replaceUnits f.span.start.column f.span.finish.column f.word

/-- The diagnostics of a text about unknown commands on the lines from `first` to `last`. -/
def unknownOn (text : Bytes) (first last : Int) : List Diagnostic :=
  (parse text).errors.filter fun e =>
    e.cause.errorClass = .unknownCommand ∧ first ≤ e.line - 1 ∧ e.line - 1 ≤ last

/-- A fix of a document puts a word in the place of the token of a diagnostic: on the line of the
diagnostic the token is the first word, the span of the fix is that of the token, the bytes around
the token stay the same, and no decoder rejects the new line as an unknown command. -/
structure Fix.Repairs (d : Document) (e : Diagnostic) (word : Bytes) (f : Fix) : Prop where
  word_eq : f.word = word
  exists_line : ∃ line before behind : Bytes,
    d.line? (e.line - 1) = some line ∧ line = before ++ (e.token ++ behind) ∧
      (line.words isBlank).head? = some e.token ∧ before.words isBlank = [] ∧
      f.span = .onLine (e.line - 1) before.units (before.units + e.token.units) ∧
      f.applyTo line = before ++ (word ++ behind) ∧
      ∀ decoder : Decoder, ¬decoder.RejectsAsUnknown (f.applyTo line)

section Line

variable {line before behind : Bytes} {w : LocatedWord} {ws : List LocatedWord}

/-- A line with another first word from the vocabulary is known. -/
theorem not_rejectsAsUnknown_of_isCut (h : w.IsCut isBlank line before behind)
    (hbefore : before.words isBlank = []) {word : Bytes} (hword : word ∈ startWords)
    (decoder : Decoder) : ¬decoder.RejectsAsUnknown (before ++ (word ++ behind)) := by
  have hwords := words_append_vocabulary (List.mem_append_left followWords hword)
    h.getLast_before h.head_behind
  rw [hbefore, List.nil_append] at hwords
  exact decoder.not_rejectsAsUnknown hwords hword

end Line

namespace Document

variable {uri text : Bytes} {e : Diagnostic}

theorem line?_natCast (d : Document) (i : Nat) : d.line? i = d.lines[i]? := by
  rw [line?, if_pos (Int.natCast_nonneg i), Int.toNat_natCast]

/-- Diagnostics stand on lines of the document. -/
theorem exists_line_of_mem_errors (he : e ∈ (ofText uri text).result.errors) :
    ∃ line, (ofText uri text).line? (e.line - 1) = some line ∧
      (Reading.ofLine line = .rejected e.token e.cause ∨
        e.cause = .nothingToRepeat ∧ ∃ count, Reading.ofLine line = .again e.token count) := by
  obtain ⟨i, line, hline, hnumber, hreading⟩ := KeyScript.exists_line_of_mem_errors he
  have hindex : e.line - 1 = (i : Int) := by omega
  refine ⟨line, ?_, hreading⟩
  rw [hindex, line?_natCast]
  exact hline

/-- The fixes of a line that is rejected as an unknown command. -/
theorem forall₂_repairs_lineFixes {d : Document} {line : Bytes}
    (hline : d.line? (e.line - 1) = some line)
    (hreading : Reading.ofLine line = .rejected e.token .unknownCommand) :
    List.Forall₂ (fun word f => Fix.Repairs d e word f) (suggest e.token)
      (lineFixes (e.line - 1) line) := by
  obtain ⟨rest, hwords, -⟩ := Reading.ofLine_eq_unknown_iff.mp hreading
  have hmap := map_text_wordsAt isBlank line
  rw [hwords] at hmap
  obtain ⟨w, ws, hlocated, htext, -⟩ := List.map_eq_cons_iff.mp hmap
  obtain ⟨before, behind, hcut, hbefore, -⟩ := exists_isCut (i := 0) (by rw [hlocated]; rfl)
  simp only [lineFixes, hlocated, htext]
  rw [List.forall₂_map_right_iff, List.forall₂_same]
  intro word hword
  have happly : (Fix.mk (.onLine (e.line - 1) w.start w.finish) word).applyTo line =
      before ++ (word ++ behind) := hcut.replaceUnits_eq word
  refine ⟨rfl, line, before, behind, hline, ?_, ?_, hbefore, ?_, happly, ?_⟩
  · rw [← htext]
    exact hcut.line_eq
  · rw [hwords]
    rfl
  · rw [hcut.start_eq, hcut.finish_eq, htext]
    rfl
  · intro decoder
    rw [happly]
    exact not_rejectsAsUnknown_of_isCut hcut hbefore (mem_startWords_of_mem_suggest hword) decoder

/-- The fixes of a document are those of the unknown commands of its text, with no cap on
repetitions. -/
theorem fixes_ofText (uri text : Bytes) (first last : Int) :
    (ofText uri text).fixes first last = (unknownOn text first last).flatMap fun e =>
      (((ofText uri text).line? (e.line - 1)).map (lineFixes (e.line - 1))).getD [] := by
  have herrors : (ofText uri text).result.errors = (parse text).errors :=
    errors_parseMaxRepeat text maxRepeat
  rw [fixes, unknownOn, herrors]
  induction (parse text).errors with
  | nil => rfl
  | cons e errors ih =>
    have hskipped : (e.line - 1 < first || e.line - 1 > last ||
        e.cause.errorClass ≠ .unknownCommand) = true ↔
        ¬(e.cause.errorClass = .unknownCommand ∧ first ≤ e.line - 1 ∧ e.line - 1 ≤ last) := by
      simp only [Bool.or_eq_true, decide_eq_true_eq, ne_eq]
      by_cases hclass : e.cause.errorClass = .unknownCommand
      · simp only [hclass, not_true_eq_false, or_false, true_and]
        omega
      · simp only [hclass, not_false_eq_true, or_true, false_and]
    rw [List.flatMap_cons, ih, List.filter_cons]
    by_cases hwanted : e.cause.errorClass = .unknownCommand ∧
        first ≤ e.line - 1 ∧ e.line - 1 ≤ last
    · rw [if_pos (decide_eq_true hwanted), List.flatMap_cons,
        if_neg (fun h => hskipped.mp h hwanted)]
    · rw [if_neg (fun h => hwanted (of_decide_eq_true h)), if_pos (hskipped.mpr hwanted),
        List.nil_append]

theorem forall₂_flatMap {α β γ : Type} {R : β → γ → Prop} {f : α → List β} {g : α → List γ}
    {as : List α} (h : ∀ a ∈ as, List.Forall₂ R (f a) (g a)) :
    List.Forall₂ R (as.flatMap f) (as.flatMap g) := by
  induction as with
  | nil => exact .nil
  | cons a as ih =>
    rw [List.flatMap_cons, List.flatMap_cons]
    apply List.rel_append (h a List.mem_cons_self)
    apply ih
    intro b hb
    exact h b (List.mem_cons_of_mem a hb)

/-- Every diagnostic stands on a line of the document. The fixes on the lines from `first` to `last`
are, in the order of the diagnostics, one for each word that is suggested for the token of an
unknown command there, and each of them repairs its line. -/
theorem forall₂_repairs_fixes (uri text : Bytes) (first last : Int) :
    let d := ofText uri text
    (∀ e ∈ d.result.errors, ∃ line, d.line? (e.line - 1) = some line) ∧
    List.Forall₂ (fun offer f => Fix.Repairs d offer.1 offer.2 f)
      ((unknownOn text first last).flatMap fun e => (suggest e.token).map fun word => (e, word))
      (d.fixes first last) := by
  intro d
  constructor
  · intro e he
    obtain ⟨line, hline, -⟩ := exists_line_of_mem_errors he
    exact ⟨line, hline⟩
  · rw [fixes_ofText]
    apply forall₂_flatMap
    intro e he
    obtain ⟨hmem, hunknown⟩ := List.mem_filter.mp he
    rw [← errors_parseMaxRepeat text maxRepeat] at hmem
    have hclass := (of_decide_eq_true hunknown).1
    have hcause := Cause.errorClass_eq_unknownCommand_iff.mp hclass
    obtain ⟨line, hline, hreading | ⟨hother, -⟩⟩ := exists_line_of_mem_errors hmem
    · rw [hcause] at hreading
      rw [hline, Option.map_some, Option.getD_some, List.forall₂_map_left_iff]
      exact forall₂_repairs_lineFixes hline hreading
    · rw [hcause] at hother
      cases hother

/-- A misspelt command behind two blanks, for which one fix is offered. -/
theorem forall₂_repairs_fixes_misspelt :
    let d := ofText "a" "TAB\n  dely 5"
    d.fixes 1 1 = [⟨.onLine 1 2 6, "DELAY"⟩] ∧
    (Fix.mk (.onLine 1 2 6) "DELAY").applyTo "  dely 5" = "  DELAY 5" ∧
    ∃ e ∈ unknownOn "TAB\n  dely 5" 1 1, Fix.Repairs d e "DELAY" ⟨.onLine 1 2 6, "DELAY"⟩ := by
  intro d
  have hfixes : d.fixes 1 1 = [⟨.onLine 1 2 6, "DELAY"⟩] := by
    rw [show d = ofText "a" "TAB\n  dely 5" from rfl, ofText, setText, parseMaxRepeat_eq_result]
    decide +kernel
  refine ⟨hfixes, by decide +kernel, ?_⟩
  obtain ⟨-, hrepairs⟩ := forall₂_repairs_fixes "a" "TAB\n  dely 5" 1 1
  rw [hfixes, List.forall₂_cons_right_iff] at hrepairs
  obtain ⟨⟨e, word⟩, offers, hrepair, -, hoffers⟩ := hrepairs
  have hoffer : (e, word) ∈ (unknownOn "TAB\n  dely 5" 1 1).flatMap fun e =>
      (suggest e.token).map fun word => (e, word) := hoffers ▸ List.mem_cons_self
  obtain ⟨e', he, hmem⟩ := List.mem_flatMap.mp hoffer
  obtain ⟨word', -, hpair⟩ := List.mem_map.mp hmem
  obtain ⟨rfl, rfl⟩ := Prod.mk.inj hpair
  obtain rfl : "DELAY" = word' := hrepair.word_eq
  exact ⟨e', he, hrepair⟩

end Document

end KeyScript
