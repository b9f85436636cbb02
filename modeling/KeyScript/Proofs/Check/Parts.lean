import Mathlib.Data.List.Basic
import KeyScript.Check.Basic
import KeyScript.Proofs.Script.Lines
import KeyScript.Proofs.Text.Division

/-!
# The parts of a check

A check that was put together from a subject, an operator and a wanted value, with any white space
in front and between, is taken apart into the same three parts. The parts may be any bytes: a part
that breaks off inside a character does not take in the white space behind it, since white space
begins with a byte that continues nothing, and white space is complete, so that it takes in nothing
of the part behind it.

## Main results

- `Check.ofLine_append` — the parts of a line, up to the white space before the wanted value
- `Check.ofLine_parts` — a check that was put together from its parts
-/

namespace KeyScript

open Bytes (lineFeed)

/-- White space and nothing else. -/
def Bytes.IsGap (s : Bytes) : Prop := ∀ r ∈ runes s, isSpace r.char = true

/-- At least one byte, and no white space. -/
def Bytes.IsWord (s : Bytes) : Prop := s ≠ [] ∧ ∀ r ∈ runes s, isSpace r.char = false

instance (s : Bytes) : Decidable s.IsGap := inferInstanceAs (Decidable (∀ r ∈ runes s, _))

instance (s : Bytes) : Decidable s.IsWord := inferInstanceAs (Decidable (_ ∧ ∀ r ∈ runes s, _))

section Seams

variable {s t gap : Bytes}

theorem ne_replacement_of_isSpace {c : Char} (h : isSpace c = true) : c ≠ replacement := by
  rintro rfl
  revert h
  decide

/-- White space begins a character, whatever stands before it. -/
theorem runes_append_of_isSpace_head (ht : ∀ r ∈ (runes t).head?, isSpace r.char = true)
    (s : Bytes) : runes (s ++ t) = runes s ++ runes t :=
  runes_append_of_head_ne (fun r hr => ne_replacement_of_isSpace (ht r hr)) s

/-- White space is complete, whatever follows it. -/
theorem runes_gap_append (hgap : gap.IsGap) (t : Bytes) : runes (gap ++ t) = runes gap ++ runes t :=
  runes_append_of_forall_ne (fun r hr => ne_replacement_of_isSpace (hgap r hr)) t

theorem isSpace_head_gap_append (hgap : gap.IsGap) (hne : gap ≠ []) (t : Bytes) :
    ∀ r ∈ (runes (gap ++ t)).head?, isSpace r.char = true := by
  rw [runes_gap_append hgap, List.head?_append_of_ne_nil _ (mt runes_eq_nil_iff.mp hne)]
  exact fun r hr => hgap r (List.mem_of_mem_head? hr)

end Seams

/-- A word is cut off together with the white space around it. -/
theorem cutWord_append {gap word rest : List Rune} (hgap : ∀ r ∈ gap, isSpace r.char = true)
    (hne : word ≠ []) (hword : ∀ r ∈ word, isSpace r.char = false)
    (hrest : ∀ r ∈ rest.head?, isSpace r.char = true) :
    cutWord (gap ++ (word ++ rest)) = (word, skipSpace isSpace rest) := by
  have hhead : ∀ r ∈ (word ++ rest).head?, isSpace r.char = false := by
    rw [List.head?_append_of_ne_nil _ hne]
    exact fun r hr => hword r (List.mem_of_mem_head? hr)
  rw [cutWord, afterFirstWord, skipSpace_gap_append hgap hhead, takeWord_word_append hword hrest,
    skipWord_word_append hword hrest]

namespace Check

variable {lead subject gap operator space want rest : Bytes}

/-- The parts of a line, where `rest` is what stands behind the operator. -/
theorem ofLine_append (hlead : lead.IsGap) (hsubject : subject.IsWord) (hgap : gap.IsGap)
    (hne : gap ≠ []) (hoperator : operator.IsWord)
    (hrest : ∀ r ∈ (runes rest).head?, isSpace r.char = true) :
    ofLine (lead ++ (subject ++ (gap ++ (operator ++ rest)))) =
      ⟨subject, operator, (Rune.join (skipSpace isSpace (runes rest))).dropEnd [lineFeed]⟩ := by
  have hbehind := isSpace_head_gap_append hgap hne (operator ++ rest)
  have hsubject_ne : runes subject ≠ [] := mt runes_eq_nil_iff.mp hsubject.1
  have hoperator_ne : runes operator ≠ [] := mt runes_eq_nil_iff.mp hoperator.1
  have hrunes : runes (lead ++ (subject ++ (gap ++ (operator ++ rest)))) =
      runes lead ++ (runes subject ++ runes (gap ++ (operator ++ rest))) := by
    rw [runes_gap_append hlead, runes_append_of_isSpace_head hbehind]
  have hfirst : cutWord (runes (lead ++ (subject ++ (gap ++ (operator ++ rest))))) =
      (runes subject, runes operator ++ runes rest) := by
    rw [hrunes, cutWord_append hlead hsubject_ne hsubject.2 hbehind, runes_gap_append hgap,
      runes_append_of_isSpace_head hrest, skipSpace_gap_append hgap]
    rw [List.head?_append_of_ne_nil _ hoperator_ne]
    exact fun r hr => hoperator.2 r (List.mem_of_mem_head? hr)
  have hsecond : cutWord (runes operator ++ runes rest) =
      (runes operator, skipSpace isSpace (runes rest)) :=
    @cutWord_append [] _ _ (by simp) hoperator_ne hoperator.2 hrest
  simp only [ofLine, hfirst, hsecond, join_runes]
  rfl

/-- A line feed behind the wanted value is dropped, and nothing else. -/
theorem ofLine_append_gap (hlead : lead.IsGap) (hsubject : subject.IsWord) (hgap : gap.IsGap)
    (hgap_ne : gap ≠ []) (hoperator : operator.IsWord) (hspace : space.IsGap)
    (hspace_ne : space ≠ []) (hrest : ∀ r ∈ (runes rest).head?, isSpace r.char = false) :
    ofLine (lead ++ subject ++ gap ++ operator ++ space ++ rest) =
      ⟨subject, operator, rest.dropEnd [lineFeed]⟩ := by
  simp only [List.append_assoc]
  rw [ofLine_append hlead hsubject hgap hgap_ne hoperator
      (isSpace_head_gap_append hspace hspace_ne rest),
    runes_gap_append hspace, skipSpace_gap_append hspace hrest, join_runes]

/-- A check that was put together from its parts has these parts, with and without a line feed at
its end. -/
theorem ofLine_parts (hlead : lead.IsGap) (hsubject : subject.IsWord) (hgap : gap.IsGap)
    (hgap_ne : gap ≠ []) (hoperator : operator.IsWord) (hspace : space.IsGap)
    (hspace_ne : space ≠ []) (hwant : ∀ r ∈ (runes want).head?, isSpace r.char = false)
    (hend : want.getLast? ≠ some lineFeed) :
    let line := lead ++ subject ++ gap ++ operator ++ space ++ want
    ofLine line = ⟨subject, operator, want⟩ ∧
      (want ≠ [] → ofLine (line ++ [lineFeed]) = ⟨subject, operator, want⟩) := by
  intro line
  constructor
  · rw [ofLine_append_gap hlead hsubject hgap hgap_ne hoperator hspace hspace_ne hwant,
      Bytes.dropEnd_singleton, if_neg hend]
  · intro hne
    have hfeed : runes (want ++ [lineFeed]) = runes want ++ runes [lineFeed] :=
      runes_append_ascii (by decide) want []
    have hhead : ∀ r ∈ (runes (want ++ [lineFeed])).head?, isSpace r.char = false := by
      rw [hfeed, List.head?_append_of_ne_nil _ (mt runes_eq_nil_iff.mp hne)]
      exact hwant
    rw [List.append_assoc, ofLine_append_gap hlead hsubject hgap hgap_ne hoperator hspace hspace_ne
      hhead, Bytes.dropEnd_singleton, if_pos List.getLast?_concat, List.dropLast_concat]

/-- The subject and the operator break off inside a character, the wanted value begins with a byte
that continues one and ends in a space, and white space takes one to three bytes a character. -/
theorem ofLine_parts_broken :
    let line : Bytes := [0xC2, 0x85] ++ [0x23, 0xE2, 0x80] ++ [0xE2, 0x80, 0x83] ++ [0x3D, 0xC2] ++
      [0x20, 0xC2, 0xA0] ++ [0x80, 0x20, 0x20, 0x62, 0x20]
    ofLine line = ⟨[0x23, 0xE2, 0x80], [0x3D, 0xC2], [0x80, 0x20, 0x20, 0x62, 0x20]⟩ ∧
      ofLine (line ++ [lineFeed]) =
        ⟨[0x23, 0xE2, 0x80], [0x3D, 0xC2], [0x80, 0x20, 0x20, 0x62, 0x20]⟩ := by
  have hparts := @ofLine_parts [0xC2, 0x85] [0x23, 0xE2, 0x80] [0xE2, 0x80, 0x83] [0x3D, 0xC2]
    [0x20, 0xC2, 0xA0] [0x80, 0x20, 0x20, 0x62, 0x20] (by decide) (by decide) (by decide)
    (by decide) (by decide) (by decide) (by decide) (by decide) (by decide)
  exact ⟨hparts.1, hparts.2 (by decide)⟩

end Check

end KeyScript
