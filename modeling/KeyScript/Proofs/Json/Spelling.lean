import KeyScript.Json.Decode
import KeyScript.Proofs.Text.Utf8

/-!
# Texts and their spellings

The spelling of a text in JSON is read back character by character. What is not UTF-8 does not
survive: each byte outside a character is spelled as U+FFFD. So a text comes back from its spelling
exactly if it is well-formed UTF-8.

## Main results

- `Json.unescapeFrom_escapeRune_append` — the spelling of one character in front of any bytes
- `Json.unescape_escape_eq_iff` — when a text comes back from its spelling
-/

namespace KeyScript.Json

/-- A byte other than a backslash stands for itself. -/
theorem unescapeFrom_cons {b : UInt8} (hb : b ≠ 92) (done s : Bytes) :
    unescapeFrom done (b :: s) = unescapeFrom (b :: done) s := by
  rw [unescapeFrom.eq_4] <;> simp [hb]

theorem unescapeFrom_append {t : Bytes} (ht : 92 ∉ t) (done s : Bytes) :
    unescapeFrom done (t ++ s) = unescapeFrom (t.reverse ++ done) s := by
  induction t generalizing done with
  | nil => rfl
  | cons b t ih =>
    rw [List.mem_cons, not_or] at ht
    rw [List.cons_append, unescapeFrom_cons (Ne.symm ht.1), ih ht.2, List.reverse_cons,
      List.append_assoc]
    rfl

theorem unescapeFrom_short {e : UInt8} (he : e ≠ 117) (done s : Bytes) :
    unescapeFrom done (92 :: e :: s) = unescapeFrom (shortEscape e :: done) s := by
  rw [unescapeFrom.eq_3] <;> simp [he]

/-- Four digits whose number is no first half of a pair are read by themselves, whatever follows. -/
theorem unescapeFrom_number {a b c d : UInt8} (h : isHighHalf (hexNumber a b c d) = false)
    (done s : Bytes) :
    unescapeFrom done (92 :: 117 :: a :: b :: c :: d :: s) =
      unescapeFrom ((encode (unitChar (hexNumber a b c d))).reverse ++ done) s := by
  by_cases hs : ∃ e f g h t, s = 92 :: 117 :: e :: f :: g :: h :: t
  · obtain ⟨e, f, g, h', t, rfl⟩ := hs
    rw [unescapeFrom.eq_1]
    simp only [h, Bool.false_and, Bool.false_eq_true, if_false]
  · rw [unescapeFrom.eq_2]
    intro e f g h' t heq
    exact hs ⟨e, f, g, h', t, heq⟩

theorem hexValue?_hexDigit (n : Nat) :
    Numeral.hexValue? (Numeral.hexDigit (n % 16)) = some (n % 16) := by
  have hall : ∀ k < 16, Numeral.hexValue? (Numeral.hexDigit k) = some k := by decide
  exact hall _ (Nat.mod_lt n (by decide))

theorem exists_hex_eq {n : Nat} (h : n < 65536) :
    ∃ a b c d, Numeral.hex 4 n = [a, b, c, d] ∧ hexNumber a b c d = n := by
  refine ⟨_, _, _, _, rfl, ?_⟩
  simp only [hexNumber, List.foldl_cons, List.foldl_nil, hexValue?_hexDigit, Option.getD_some]
  omega

theorem unescapeFrom_numberedEscape_append {c : Char} (h : c.toNat < 0xD800) (done s : Bytes) :
    unescapeFrom done (numberedEscape c.toNat ++ s) =
      unescapeFrom ((encode c).reverse ++ done) s := by
  obtain ⟨a, b, d, e, hhex, hnumber⟩ := exists_hex_eq (n := c.toNat) (by omega)
  have hhigh : isHighHalf c.toNat = false := by
    simp only [isHighHalf, Bool.and_eq_false_iff, decide_eq_false_iff_not]
    omega
  have hlow : isLowHalf c.toNat = false := by
    simp only [isLowHalf, Bool.and_eq_false_iff, decide_eq_false_iff_not]
    omega
  have hchar : unitChar c.toNat = c := by
    rw [unitChar, hhigh, hlow]
    exact Char.ofNat_toNat c
  have htext : numberedEscape c.toNat ++ s = 92 :: 117 :: a :: b :: d :: e :: s := by
    rw [numberedEscape, hhex]
    rfl
  rw [htext, unescapeFrom_number (by rw [hnumber, hhigh]), hnumber, hchar]

/-- The spelling of a character in front of any bytes is read as this character. -/
theorem unescapeFrom_escapeRune_append (c : Char) (done s : Bytes) :
    unescapeFrom done (escapeRune (.ofChar c) ++ s) =
      unescapeFrom ((encode c).reverse ++ done) s := by
  have hformed : (Rune.ofChar c).isWellFormed = true := by simp [Rune.isWellFormed, Rune.ofChar]
  have heq : ∀ n, c.toNat = n → c = Char.ofNat n := by
    rintro n rfl
    exact (Char.ofNat_toNat c).symm
  -- The characters with a letter of their own, one by one.
  simp only [escapeRune, hformed, Bool.not_true, Bool.false_eq_true, if_false,
    show (Rune.ofChar c).char = c from rfl]
  split
  · next hc =>
    subst hc
    exact unescapeFrom_short (by decide) done s
  split
  · next hc =>
    subst hc
    exact unescapeFrom_short (by decide) done s
  next hbackslash =>
  split
  · next hc =>
    cases heq 8 hc
    exact unescapeFrom_short (by decide) done s
  split
  · next hc =>
    cases heq 12 hc
    exact unescapeFrom_short (by decide) done s
  split
  · next hc =>
    cases heq 10 hc
    exact unescapeFrom_short (by decide) done s
  split
  · next hc =>
    cases heq 13 hc
    exact unescapeFrom_short (by decide) done s
  split
  · next hc =>
    cases heq 9 hc
    exact unescapeFrom_short (by decide) done s
  split
  · next hnumber =>
    apply unescapeFrom_numberedEscape_append
    simp only [isMarkup, Bool.or_eq_true, decide_eq_true_eq, beq_iff_eq] at hnumber
    rcases hnumber with h | (((rfl | rfl) | rfl) | h) | h
    · omega
    · decide
    · decide
    · decide
    · omega
    · omega
  · -- No byte of the character is a backslash.
    apply unescapeFrom_append
    intro hmem
    exact hbackslash (heq 92 (toNat_eq_of_mem_encode hmem (by decide)))

theorem unescapeFrom_escape (cs : List Char) (done : Bytes) :
    unescapeFrom done (escape (Bytes.ofChars cs)) = done.reverse ++ Bytes.ofChars cs := by
  rw [escape, runes_ofChars]
  induction cs generalizing done with
  | nil =>
    rw [List.map_nil, List.flatMap_nil, unescapeFrom.eq_5]
    exact (List.append_nil _).symm
  | cons c cs ih =>
    rw [List.map_cons, List.flatMap_cons, unescapeFrom_escapeRune_append, ih, List.reverse_append,
      List.reverse_reverse, List.append_assoc]
    rfl

theorem isUtf8_unescape (spelling : Bytes) : (unescape spelling).isUtf8 = true := by
  apply Bytes.isUtf8_flatMap
  intro r _
  exact Bytes.isUtf8_encode r.char

/-- A text comes back from its spelling exactly if it is well-formed UTF-8. -/
theorem unescape_escape_eq_iff (s : Bytes) : unescape (escape s) = s ↔ s.isUtf8 = true := by
  constructor
  · intro h
    rw [← h]
    exact isUtf8_unescape _
  · intro h
    obtain ⟨cs, rfl⟩ := Bytes.isUtf8_iff.mp h
    rw [unescape, unescapeFrom_escape, List.reverse_nil, List.nil_append, runes_ofChars,
      List.flatMap_map]
    rfl

end KeyScript.Json
