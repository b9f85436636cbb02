import KeyScript.Proofs.Text.Encoding
import KeyScript.Script.Line
import KeyScript.Text.Case

/-!
# Upper case is final

Upper case of upper case is upper case, and the upper case of a character is blank exactly if the
character is. Both are facts about the table of case mappings, and both are checked on its ranges:
the numbers that a range maps to lie apart from the numbers that any range maps, and apart from the
numbers of blanks.

## Main definitions

- `CaseRange.first`, `CaseRange.last` — the least and the greatest number that a range maps to
- `CaseRange.isApart` — a range maps to nothing that another range maps
- `CaseRange.avoids` — a range maps to nothing in an interval

## Main results

- `upper_upper`, `isBlank_upper_eq` — the two facts for characters
- `Bytes.runes_upper` — the characters of an upper case text
- `Bytes.upper_upper` — upper case of an upper case text
-/

namespace KeyScript

namespace CaseRange

variable {r t : CaseRange} {n m : Nat}

/-- The least number that a range maps to. -/
def first (r : CaseRange) : Nat := (r.lo + r.shift).toNat

/-- The greatest number that a range maps to. -/
def last (r : CaseRange) : Nat := (r.hi + r.shift).toNat

/-- Whether a range maps to no number from `a` to `b`. -/
def avoids (r : CaseRange) (a b : Nat) : Bool := Nat.blt r.last a || Nat.blt b r.first

/-- Whether a range maps to no number that `t` maps: the two intervals are apart, or `t` maps every
second number and the others are those that the range maps to. -/
def isApart (r t : CaseRange) : Bool :=
  r.avoids t.lo t.hi ||
    ((r.lo == r.hi || r.step % 2 == 0) && t.step % 2 == 0 && (r.first + t.lo) % 2 == 1)

theorem image?_eq_some_iff :
    r.image? n = some m ↔
      r.lo ≤ n ∧ n ≤ r.hi ∧ (n - r.lo) % r.step = 0 ∧ m = (n + r.shift).toNat := by
  rw [image?]
  split
  · next h => simp [h, eq_comm]
  · next h => simp only [reduceCtorEq, false_iff]; tauto

theorem first_le_of_image? (h : r.image? n = some m) : r.first ≤ m ∧ m ≤ r.last := by
  obtain ⟨hlo, hhi, -, rfl⟩ := image?_eq_some_iff.mp h
  rw [first, last]
  omega

theorem not_mem_of_avoids {a b : Nat} (havoids : r.avoids a b = true) (h : r.image? n = some m) :
    ¬(a ≤ m ∧ m ≤ b) := by
  have hbounds := first_le_of_image? h
  simp only [avoids, Bool.or_eq_true, Nat.blt_eq] at havoids
  omega

/-- Numbers of a range that takes every second number differ from each other by even numbers. -/
theorem even_sub_of_image? (hstep : r.step % 2 = 0) (h : r.image? n = some m) :
    r.lo ≤ n ∧ (n - r.lo) % 2 = 0 := by
  obtain ⟨hlo, -, hdvd, -⟩ := image?_eq_some_iff.mp h
  refine ⟨hlo, Nat.mod_eq_zero_of_dvd ?_⟩
  exact Nat.dvd_trans (Nat.dvd_of_mod_eq_zero hstep) (Nat.dvd_of_mod_eq_zero hdvd)

/-- What a range maps to is an even number away from the least of it, if the range takes one number
or every second number. -/
theorem even_sub_first (hpos : 0 ≤ r.lo + r.shift) (hstep : r.lo = r.hi ∨ r.step % 2 = 0)
    (h : r.image? n = some m) : r.first ≤ m ∧ (m - r.first) % 2 = 0 := by
  obtain ⟨hlo, hhi, -, hm⟩ := image?_eq_some_iff.mp h
  have heven : (n - r.lo) % 2 = 0 := by
    rcases hstep with hone | hstep
    · omega
    · exact (even_sub_of_image? hstep h).2
  rw [first, hm]
  omega

theorem image?_eq_none_of_isApart (hpos : 0 ≤ r.lo + r.shift) (hapart : r.isApart t = true)
    (h : r.image? n = some m) : t.image? m = none := by
  by_contra hmapped
  obtain ⟨k, hk⟩ := Option.ne_none_iff_exists'.mp hmapped
  obtain ⟨hlo, hhi, -, -⟩ := image?_eq_some_iff.mp hk
  simp only [isApart, Bool.or_eq_true, Bool.and_eq_true, beq_iff_eq] at hapart
  rcases hapart with havoids | ⟨⟨hone, htwo⟩, hodd⟩
  · exact not_mem_of_avoids havoids h ⟨hlo, hhi⟩
  · have hfirst := even_sub_first hpos hone h
    have hsecond := even_sub_of_image? htwo hk
    omega

end CaseRange

section Table

variable {ranges : List CaseRange} {n m : Nat}

theorem exists_image?_of_caseImage? (h : caseImage? n ranges = some m) :
    ∃ r ∈ ranges, r.image? n = some m := by
  induction ranges with
  | nil => simp [caseImage?] at h
  | cons r ranges ih =>
    rw [caseImage?] at h
    split at h
    · simp at h
    split at h
    · next k hk => exact ⟨r, List.mem_cons_self, hk.trans h⟩
    · obtain ⟨t, ht, hm⟩ := ih h
      exact ⟨t, List.mem_cons_of_mem _ ht, hm⟩

theorem caseImage?_eq_none (h : ∀ r ∈ ranges, r.image? n = none) :
    caseImage? n ranges = none := by
  by_contra hmapped
  obtain ⟨k, hk⟩ := Option.ne_none_iff_exists'.mp hmapped
  obtain ⟨r, hr, hm⟩ := exists_image?_of_caseImage? hk
  rw [h r hr] at hm
  contradiction

/-- The intervals of numbers that are blanks or no characters at all. -/
def reserved : List (Nat × Nat) :=
  [(0x09, 0x0D), (0x20, 0x20), (0x85, 0x85), (0xA0, 0xA0), (0x1680, 0x1680), (0x2000, 0x200A),
   (0x2028, 0x2029), (0x202F, 0x202F), (0x205F, 0x205F), (0x3000, 0x3000), (0xFEFF, 0xFEFF),
   (0xD800, 0xDFFF)]

/-- What is checked of a range in the table of upper case. -/
def CaseRange.isFinal (r : CaseRange) : Bool :=
  0 ≤ r.lo + r.shift && r.last < 0x110000 && upperRanges.all r.isApart &&
    reserved.all fun interval => r.avoids interval.1 interval.2

theorem isFinal_upperRanges : upperRanges.all CaseRange.isFinal = true := by decide +kernel

/-- A number that is an upper case has no other upper case, is the number of a character, and is not
blank. -/
theorem final_of_caseImage?_upperRanges (h : caseImage? n upperRanges = some m) :
    caseImage? m upperRanges = none ∧ m < 0x110000 ∧
      ∀ interval ∈ reserved, ¬(interval.1 ≤ m ∧ m ≤ interval.2) := by
  obtain ⟨r, hr, hm⟩ := exists_image?_of_caseImage? h
  have hfinal := List.all_eq_true.mp isFinal_upperRanges r hr
  simp only [CaseRange.isFinal, Bool.and_eq_true, decide_eq_true_eq, List.all_eq_true] at hfinal
  obtain ⟨⟨⟨hpos, hlast⟩, hapart⟩, havoids⟩ := hfinal
  refine ⟨caseImage?_eq_none fun t ht => ?_, ?_, fun interval hinterval => ?_⟩
  · exact CaseRange.image?_eq_none_of_isApart hpos (hapart t ht) hm
  · exact Nat.lt_of_le_of_lt (CaseRange.first_le_of_image? hm).2 hlast
  · exact CaseRange.not_mem_of_avoids (havoids interval hinterval) hm

end Table

/-- A blank has a number in one of the reserved intervals. -/
theorem exists_reserved_of_isBlank {c : Char} (h : isBlank c = true) :
    ∃ interval ∈ reserved, interval.1 ≤ c.toNat ∧ c.toNat ≤ interval.2 := by
  simp only [isBlank, isSpace, Bool.or_eq_true, Bool.and_eq_true, decide_eq_true_eq,
    beq_iff_eq] at h
  simp only [reserved, List.mem_cons, List.not_mem_nil, or_false, exists_eq_or_imp,
    exists_eq_left]
  omega

/-- A character with an upper case of its own, or without one. -/
theorem upper_cases (c : Char) :
    (caseImage? c.toNat upperRanges = none ∧ upper c = c) ∨
      ∃ m, caseImage? c.toNat upperRanges = some m ∧ (upper c).toNat = m := by
  rw [upper]
  cases h : caseImage? c.toNat upperRanges with
  | none => exact .inl ⟨rfl, rfl⟩
  | some m =>
    obtain ⟨-, hlt, hreserved⟩ := final_of_caseImage?_upperRanges h
    have hpair : ¬(0xD800 ≤ m ∧ m ≤ 0xDFFF) := hreserved (0xD800, 0xDFFF) (by simp [reserved])
    have hvalid : m.isValidChar := by
      rw [Nat.isValidChar]
      omega
    exact .inr ⟨m, rfl, toNat_charOfNat hvalid⟩

/-- Upper case of upper case is upper case. -/
theorem upper_upper (c : Char) : upper (upper c) = upper c := by
  rcases upper_cases c with ⟨-, hsame⟩ | ⟨m, hm, himage⟩
  · rw [hsame, hsame]
  · have hnone := (final_of_caseImage?_upperRanges hm).1
    conv_lhs => rw [upper, himage, hnone]

/-- A character that is not blank has an upper case that is not blank. -/
theorem isBlank_upper {c : Char} (h : isBlank c = false) : isBlank (upper c) = false := by
  rcases upper_cases c with ⟨-, hsame⟩ | ⟨m, hm, himage⟩
  · rw [hsame, h]
  · by_contra hblank
    rw [Bool.not_eq_false] at hblank
    obtain ⟨interval, hinterval, hmem⟩ := exists_reserved_of_isBlank hblank
    rw [himage] at hmem
    exact (final_of_caseImage?_upperRanges hm).2.2 interval hinterval hmem

/-- The intervals of numbers that case leaves alone: the signs and digits of numerals, and those
that are reserved. -/
def caseless : List (Nat × Nat) := (0x2B, 0x39) :: reserved

/-- Whether a range maps no number from `a` to `b`. -/
def CaseRange.spares (r : CaseRange) (a b : Nat) : Bool := Nat.blt r.hi a || Nat.blt b r.lo

theorem caseless_upperRanges : upperRanges.all (fun r => caseless.all fun interval =>
    r.spares interval.1 interval.2 && r.avoids interval.1 interval.2) = true := by decide +kernel

section Caseless

variable {c : Char} {interval : Nat × Nat}

theorem upper_eq_self (hinterval : interval ∈ caseless)
    (h : interval.1 ≤ c.toNat ∧ c.toNat ≤ interval.2) : upper c = c := by
  rcases upper_cases c with ⟨-, hsame⟩ | ⟨m, hm, -⟩
  · exact hsame
  · obtain ⟨r, hr, himage⟩ := exists_image?_of_caseImage? hm
    obtain ⟨hlo, hhi, -, -⟩ := CaseRange.image?_eq_some_iff.mp himage
    have hclear := List.all_eq_true.mp (List.all_eq_true.mp caseless_upperRanges r hr) _ hinterval
    simp only [CaseRange.spares, Bool.and_eq_true, Bool.or_eq_true, Nat.blt_eq] at hclear
    omega

theorem upper_eq_self_of_upper (hinterval : interval ∈ caseless)
    (h : interval.1 ≤ (upper c).toNat ∧ (upper c).toNat ≤ interval.2) : upper c = c := by
  rcases upper_cases c with ⟨-, hsame⟩ | ⟨m, hm, himage⟩
  · exact hsame
  · obtain ⟨r, hr, hmapped⟩ := exists_image?_of_caseImage? hm
    have hclear := List.all_eq_true.mp (List.all_eq_true.mp caseless_upperRanges r hr) _ hinterval
    have havoids := (Bool.and_eq_true_iff.mp hclear).2
    rw [himage] at h
    exact absurd h (CaseRange.not_mem_of_avoids havoids hmapped)

/-- Upper case neither makes nor removes blanks. -/
theorem isBlank_upper_eq (c : Char) : isBlank (upper c) = isBlank c := by
  cases hblank : isBlank c with
  | false => exact isBlank_upper hblank
  | true =>
    obtain ⟨interval, hinterval, hmem⟩ := exists_reserved_of_isBlank hblank
    rw [upper_eq_self (List.mem_cons_of_mem _ hinterval) hmem, hblank]

end Caseless

namespace Bytes

theorem upper_eq_ofChars (s : Bytes) : s.upper = ofChars (s.chars.map KeyScript.upper) := by
  rw [upper, ofChars, chars, List.map_map, List.flatMap_map]
  rfl

/-- The characters of a text in upper case are the characters in upper case. -/
theorem runes_upper (s : Bytes) :
    runes s.upper = (runes s).map fun r => Rune.ofChar (KeyScript.upper r.char) := by
  rw [upper_eq_ofChars, runes_ofChars, chars, List.map_map, List.map_map]
  rfl

theorem upper_upper (s : Bytes) : s.upper.upper = s.upper := by
  rw [upper, runes_upper, List.flatMap_map, upper]
  simp only [Rune.ofChar, KeyScript.upper_upper]

theorem upper_append {s : Bytes} (h : ∀ b ∈ s, b < 0x80) (t : Bytes) :
    (s ++ t).upper = s.upper ++ t.upper := by
  have hs := runes_ascii_append h []
  rw [List.append_nil, runes_nil, List.append_nil] at hs
  rw [upper, runes_ascii_append h, ← hs, List.flatMap_append, upper, upper]

/-- A beginning in ASCII capitals is still there in upper case. -/
theorem startsWith_upper {s start : Bytes} (hascii : start.all (· < 0x80) = true)
    (hstart : start.upper = start) (h : s.startsWith start = true) :
    s.upper.startsWith start = true := by
  rw [startsWith, List.isPrefixOf_iff_prefix] at h ⊢
  obtain ⟨rest, rfl⟩ := h
  rw [upper_append (by simpa using hascii), hstart]
  exact List.prefix_append start _

end Bytes

end KeyScript
