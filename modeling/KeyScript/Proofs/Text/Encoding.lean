import KeyScript.Proofs.Text.Runes

/-!
# Reading encoded characters

The UTF-8 bytes of a character are read as this character, whatever follows them. So a text that was
written character by character has exactly these characters.

## Main results

- `runes_encode_append` — an encoded character in front of any bytes
- `runes_ofChars_append` — characters written one by one in front of any bytes
- `toNat_eq_of_mem_encode` — a byte below 0x80 stands for itself only
- `le_toNat_leadingRune` — and no other byte begins a character below 0x80
-/

namespace KeyScript

theorem toNat_charOfNat {n : Nat} (h : n.isValidChar) : (Char.ofNat n).toNat = n := by
  have hchar : Char.ofNat n = Char.ofNatAux n h := dif_pos h
  exact congrArg Char.toNat hchar

section Sequences

variable {n : Nat}

theorem toNat_byte (h : n < 256) : (UInt8.ofNat n).toNat = n := by
  rw [UInt8.toNat_ofNat']
  exact Nat.mod_eq_of_lt h

theorem leadingRune_one (h : n ≤ 0x7F) (rest : Bytes) :
    leadingRune (UInt8.ofNat n) rest = (Char.ofNat n, 0) := by
  have hlead := toNat_byte (n := n) (by omega)
  simp only [leadingRune, UInt8.lt_iff_toNat_lt, hlead, UInt8.reduceToNat]
  rw [if_pos (by omega)]

theorem leadingRune_two (hlow : 0x7F < n) (hhigh : n ≤ 0x7FF) (rest : Bytes) :
    leadingRune (UInt8.ofNat (n / 64 % 32 + 192)) (UInt8.ofNat (n % 64 + 128) :: rest) =
      (Char.ofNat n, 1) := by
  have hlead := toNat_byte (n := n / 64 % 32 + 192) (by omega)
  have hb := toNat_byte (n := n % 64 + 128) (by omega)
  simp only [leadingRune, isContinuation, payload, UInt8.lt_iff_toNat_lt, UInt8.le_iff_toNat_le,
    Bool.and_eq_true, decide_eq_true_eq, hlead, hb, UInt8.reduceToNat]
  have hvalue : (n / 64 % 32 + 192) % 32 * 64 + (n % 64 + 128) % 64 = n := by omega
  rw [if_neg (by omega), if_pos (by omega), if_pos (by omega), hvalue]

/-- The second byte of three is in its bounds, because the character is no surrogate and does not
fit into two bytes. -/
theorem maySecond_three (hlow : 0x7FF < n) (hhigh : n ≤ 0xFFFF) (hpair : n < 0xD800 ∨ 0xDFFF < n) :
    maySecond (UInt8.ofNat (n / 4096 % 16 + 224)) (UInt8.ofNat (n / 64 % 64 + 128)) = true := by
  have hlead := toNat_byte (n := n / 4096 % 16 + 224) (by omega)
  have hb := toNat_byte (n := n / 64 % 64 + 128) (by omega)
  simp only [maySecond, isContinuation, ← UInt8.toNat_inj, UInt8.le_iff_toNat_le, hlead, hb,
    UInt8.reduceToNat]
  split
  · simp only [Bool.and_eq_true, decide_eq_true_eq]
    omega
  split
  · simp only [Bool.and_eq_true, decide_eq_true_eq]
    omega
  rw [if_neg (by omega), if_neg (by omega)]
  simp only [Bool.and_eq_true, decide_eq_true_eq]
  omega

theorem leadingRune_three (hlow : 0x7FF < n) (hhigh : n ≤ 0xFFFF)
    (hpair : n < 0xD800 ∨ 0xDFFF < n) (rest : Bytes) :
    leadingRune (UInt8.ofNat (n / 4096 % 16 + 224))
        (UInt8.ofNat (n / 64 % 64 + 128) :: UInt8.ofNat (n % 64 + 128) :: rest) =
      (Char.ofNat n, 2) := by
  have hsecond := maySecond_three hlow hhigh hpair
  have hlead := toNat_byte (n := n / 4096 % 16 + 224) (by omega)
  have hb := toNat_byte (n := n / 64 % 64 + 128) (by omega)
  have hc := toNat_byte (n := n % 64 + 128) (by omega)
  simp only [leadingRune, hsecond, isContinuation, payload, UInt8.lt_iff_toNat_lt,
    UInt8.le_iff_toNat_le, Bool.true_and, Bool.and_eq_true, decide_eq_true_eq, hlead, hb, hc,
    UInt8.reduceToNat]
  have hvalue : (n / 4096 % 16 + 224) % 16 * 4096 + (n / 64 % 64 + 128) % 64 * 64 +
      (n % 64 + 128) % 64 = n := by omega
  rw [if_neg (by omega), if_neg (by omega), if_pos (by omega), if_pos (by omega), hvalue]

/-- The second byte of four is in its bounds, because the character is at most U+10FFFF and does not
fit into three bytes. -/
theorem maySecond_four (hlow : 0xFFFF < n) (hhigh : n < 0x110000) :
    maySecond (UInt8.ofNat (n / 262144 % 8 + 240)) (UInt8.ofNat (n / 4096 % 64 + 128)) = true := by
  have hlead := toNat_byte (n := n / 262144 % 8 + 240) (by omega)
  have hb := toNat_byte (n := n / 4096 % 64 + 128) (by omega)
  simp only [maySecond, isContinuation, ← UInt8.toNat_inj, UInt8.le_iff_toNat_le, hlead, hb,
    UInt8.reduceToNat]
  rw [if_neg (by omega), if_neg (by omega)]
  split
  · simp only [Bool.and_eq_true, decide_eq_true_eq]
    omega
  split
  · simp only [Bool.and_eq_true, decide_eq_true_eq]
    omega
  simp only [Bool.and_eq_true, decide_eq_true_eq]
  omega

theorem leadingRune_four (hlow : 0xFFFF < n) (hhigh : n < 0x110000) (rest : Bytes) :
    leadingRune (UInt8.ofNat (n / 262144 % 8 + 240))
        (UInt8.ofNat (n / 4096 % 64 + 128) :: UInt8.ofNat (n / 64 % 64 + 128) ::
          UInt8.ofNat (n % 64 + 128) :: rest) =
      (Char.ofNat n, 3) := by
  have hsecond := maySecond_four hlow hhigh
  have hlead := toNat_byte (n := n / 262144 % 8 + 240) (by omega)
  have hb := toNat_byte (n := n / 4096 % 64 + 128) (by omega)
  have hc := toNat_byte (n := n / 64 % 64 + 128) (by omega)
  have hd := toNat_byte (n := n % 64 + 128) (by omega)
  simp only [leadingRune, hsecond, isContinuation, payload, UInt8.lt_iff_toNat_lt,
    UInt8.le_iff_toNat_le, Bool.true_and, Bool.and_eq_true, decide_eq_true_eq, hlead, hb, hc, hd,
    UInt8.reduceToNat]
  have hvalue : (n / 262144 % 8 + 240) % 8 * 262144 + (n / 4096 % 64 + 128) % 64 * 4096 +
      (n / 64 % 64 + 128) % 64 * 64 + (n % 64 + 128) % 64 = n := by omega
  rw [if_neg (by omega), if_neg (by omega), if_neg (by omega), if_pos (by omega),
    if_pos (by omega), hvalue]

end Sequences

/-- The bytes of a character, first the one that says how many follow, are read as the character. -/
theorem exists_leadingRune_encode (c : Char) :
    ∃ lead tail, encode c = lead :: tail ∧
      ∀ rest, leadingRune lead (tail ++ rest) = (c, tail.length) := by
  have hvalid : c.toNat < 0xD800 ∨ 0xDFFF < c.toNat ∧ c.toNat < 0x110000 := c.valid
  have hchar : Char.ofNat c.toNat = c := Char.ofNat_toNat c
  rw [encode, String.utf8EncodeChar.eq_1, show c.val.toNat = c.toNat from rfl]
  split
  · next hone =>
    refine ⟨_, _, rfl, fun rest => ?_⟩
    rw [List.nil_append, leadingRune_one hone, hchar]
    rfl
  next hone =>
  split
  · next htwo =>
    refine ⟨_, _, rfl, fun rest => ?_⟩
    rw [List.singleton_append, leadingRune_two (by omega) htwo, hchar]
    rfl
  next htwo =>
  split
  · next hthree =>
    refine ⟨_, _, rfl, fun rest => ?_⟩
    rw [List.cons_append, List.singleton_append,
      leadingRune_three (by omega) hthree (by omega), hchar]
    rfl
  next hthree =>
  refine ⟨_, _, rfl, fun rest => ?_⟩
  rw [List.cons_append, List.cons_append, List.singleton_append,
    leadingRune_four (by omega) (by omega), hchar]
  rfl

/-- An encoded character in front of any bytes is read as this character. -/
theorem runes_encode_append (c : Char) (rest : Bytes) :
    runes (encode c ++ rest) = Rune.ofChar c :: runes rest := by
  obtain ⟨lead, tail, hencode, hlead⟩ := exists_leadingRune_encode c
  rw [Rune.ofChar, hencode, List.cons_append, runes_cons, hlead, List.take_left, List.drop_left]

/-- Characters written one by one in front of any bytes are read as these characters. -/
theorem runes_ofChars_append (cs : List Char) (rest : Bytes) :
    runes (Bytes.ofChars cs ++ rest) = cs.map Rune.ofChar ++ runes rest := by
  induction cs with
  | nil => rfl
  | cons c cs ih =>
    rw [Bytes.ofChars, List.flatMap_cons, List.append_assoc, runes_encode_append]
    exact congrArg (Rune.ofChar c :: ·) ih

theorem runes_ofChars (cs : List Char) : runes (Bytes.ofChars cs) = cs.map Rune.ofChar := by
  simpa using runes_ofChars_append cs []

theorem join_map_ofChar (cs : List Char) : Rune.join (cs.map Rune.ofChar) = Bytes.ofChars cs := by
  rw [Rune.join, List.flatMap_map]
  rfl

theorem toNat_charOfNat_ascii {b : UInt8} (h : b < 0x80) :
    (Char.ofNat b.toNat).toNat = b.toNat := by
  have hlt : b.toNat < 0x80 := UInt8.lt_iff_toNat_lt.mp h
  apply toNat_charOfNat
  left
  omega

theorem encode_ascii {b : UInt8} (h : b < 0x80) : encode (Char.ofNat b.toNat) = [b] := by
  have hlt : b.toNat < 0x80 := UInt8.lt_iff_toNat_lt.mp h
  have hnumber : (Char.ofNat b.toNat).val.toNat = b.toNat := toNat_charOfNat_ascii h
  rw [encode, String.utf8EncodeChar.eq_1, hnumber, if_pos (by omega), UInt8.ofNat_toNat]

/-- A byte below 0x80 stands for itself only: it is never part of a longer sequence. -/
theorem toNat_eq_of_mem_encode {c : Char} {b : UInt8} (h : b ∈ encode c) (hb : b < 0x80) :
    c.toNat = b.toNat := by
  have hlong : ∀ n, 0x80 ≤ n → n < 0x100 → b ≠ UInt8.ofNat n := by
    rintro n hlow hhigh rfl
    rw [UInt8.lt_iff_toNat_lt, toNat_byte hhigh] at hb
    exact absurd hb (Nat.not_lt.mpr hlow)
  rw [encode, String.utf8EncodeChar.eq_1, show c.val.toNat = c.toNat from rfl] at h
  split at h
  · next hone =>
    rw [List.mem_singleton] at h
    rw [h, toNat_byte (by omega)]
  next hone =>
  -- Any other sequence consists of bytes from 0x80 on.
  exfalso
  split at h
  · simp only [List.mem_cons, List.not_mem_nil, or_false] at h
    rcases h with h | h <;> exact hlong _ (by omega) (by omega) h
  split at h
  · simp only [List.mem_cons, List.not_mem_nil, or_false] at h
    rcases h with h | h | h <;> exact hlong _ (by omega) (by omega) h
  · simp only [List.mem_cons, List.not_mem_nil, or_false] at h
    rcases h with h | h | h | h <;> exact hlong _ (by omega) (by omega) h

/-- What a second byte can be, by the first. -/
theorem maySecond_bounds {lead b : UInt8} (h : maySecond lead b = true) :
    (0x80 ≤ b.toNat ∧ b.toNat ≤ 0xBF) ∧ (lead.toNat = 0xE0 → 0xA0 ≤ b.toNat) ∧
      (lead.toNat = 0xED → b.toNat ≤ 0x9F) ∧ (lead.toNat = 0xF0 → 0x90 ≤ b.toNat) ∧
      (lead.toNat = 0xF4 → b.toNat ≤ 0x8F) := by
  simp only [maySecond, isContinuation, ← UInt8.toNat_inj, UInt8.le_iff_toNat_le,
    UInt8.reduceToNat] at h
  repeat' split at h
  all_goals
    simp only [Bool.and_eq_true, decide_eq_true_eq] at h
    omega

/-- A byte from 0x80 on begins no character in ASCII, whatever follows it. -/
theorem le_toNat_leadingRune {lead : UInt8} (h : 0x80 ≤ lead) (rest : Bytes) :
    0x80 ≤ (leadingRune lead rest).1.toNat := by
  have hreplacement : 0x80 ≤ replacement.toNat := by decide
  have hnot : ¬lead < 0x80 := UInt8.not_lt.mpr h
  have hchar : ∀ n, 0x80 ≤ n → n.isValidChar → 0x80 ≤ (Char.ofNat n).toNat := by
    intro n hn hvalid
    rwa [toNat_charOfNat hvalid]
  simp only [leadingRune, if_neg hnot]
  by_cases htwo : 0xC2 ≤ lead && lead ≤ 0xDF
  · rw [if_pos htwo]
    simp only [UInt8.le_iff_toNat_le, Bool.and_eq_true, decide_eq_true_eq,
      UInt8.reduceToNat] at htwo
    split
    · split
      · next b s hb =>
        simp only [isContinuation, UInt8.le_iff_toNat_le, Bool.and_eq_true, decide_eq_true_eq,
          UInt8.reduceToNat] at hb
        apply hchar <;> simp only [payload, Nat.isValidChar] <;> omega
      · exact hreplacement
    · exact hreplacement
  rw [if_neg htwo]
  by_cases hthree : 0xE0 ≤ lead && lead ≤ 0xEF
  · rw [if_pos hthree]
    simp only [UInt8.le_iff_toNat_le, Bool.and_eq_true, decide_eq_true_eq,
      UInt8.reduceToNat] at hthree
    split
    · split
      · next b c s hb =>
        have hsecond := maySecond_bounds (Bool.and_eq_true_iff.mp hb).1
        apply hchar <;> simp only [payload, Nat.isValidChar] <;> omega
      · exact hreplacement
    · exact hreplacement
  rw [if_neg hthree]
  by_cases hfour : 0xF0 ≤ lead && lead ≤ 0xF4
  · rw [if_pos hfour]
    simp only [UInt8.le_iff_toNat_le, Bool.and_eq_true, decide_eq_true_eq,
      UInt8.reduceToNat] at hfour
    split
    · split
      · next b c d s hb =>
        simp only [Bool.and_eq_true] at hb
        have hsecond := maySecond_bounds hb.1.1
        apply hchar <;> simp only [payload, Nat.isValidChar] <;> omega
      · exact hreplacement
    · exact hreplacement
  · rw [if_neg hfour]
    exact hreplacement

end KeyScript
