import KeyScript.Proofs.Text.Case
import KeyScript.Proofs.Text.Numeral
import KeyScript.Proofs.Text.WrittenWords

/-!
# Well-formed UTF-8

A byte string is well-formed UTF-8 exactly if it was written character by character. So is every
piece of it that is cut out between characters, and the parts on both sides of a byte below 0x80,
since such a byte is never part of a longer sequence.

## Main results

- `Bytes.isUtf8_iff` — well-formed UTF-8 is what characters are written as
- `Bytes.isUtf8_append_ascii` — the parts around a byte below 0x80
- `Bytes.isUtf8_join_of_infix` — pieces between characters
-/

namespace KeyScript

namespace Bytes

variable {s t : Bytes}

/-- A byte string is well-formed UTF-8 exactly if it is some characters one after the other. -/
theorem isUtf8_iff : s.isUtf8 = true ↔ ∃ cs, s = ofChars cs := by
  constructor
  · intro h
    refine ⟨s.chars, ?_⟩
    have hrunes : ∀ r ∈ runes s, r = Rune.ofChar r.char := by
      intro r hr
      have hbytes : r.bytes = encode r.char := by
        simpa [Rune.isWellFormed] using List.all_eq_true.mp h r hr
      cases r
      simp only at hbytes
      rw [Rune.ofChar, hbytes]
    have hmap : s.chars.map Rune.ofChar = runes s := by
      rw [chars, List.map_map]
      exact (List.map_congr_left fun r hr => (hrunes r hr).symm).trans (List.map_id _)
    rw [← join_map_ofChar, hmap, join_runes]
  · rintro ⟨cs, rfl⟩
    rw [isUtf8, runes_ofChars, List.all_eq_true]
    intro r hr
    obtain ⟨c, -, rfl⟩ := List.mem_map.mp hr
    simp [Rune.isWellFormed, Rune.ofChar]

theorem isUtf8_ofChars (cs : List Char) : (ofChars cs).isUtf8 = true := isUtf8_iff.mpr ⟨cs, rfl⟩

theorem isUtf8_encode (c : Char) : (encode c).isUtf8 = true :=
  isUtf8_iff.mpr ⟨[c], (List.append_nil _).symm⟩

theorem isUtf8_ofString (s : String) : (ofString s).isUtf8 = true := by
  obtain ⟨cs, hcs⟩ := s.isValidUTF8
  apply isUtf8_iff.mpr
  refine ⟨cs, ?_⟩
  rw [ofString, String.toUTF8_eq_toByteArray, hcs, List.utf8Encode, List.data_toByteArray]
  rfl

theorem isUtf8_append (hs : s.isUtf8 = true) (ht : t.isUtf8 = true) : (s ++ t).isUtf8 = true := by
  obtain ⟨cs, rfl⟩ := isUtf8_iff.mp hs
  obtain ⟨ds, rfl⟩ := isUtf8_iff.mp ht
  rw [ofChars, ofChars, ← List.flatMap_append]
  exact isUtf8_ofChars (cs ++ ds)

theorem isUtf8_flatMap {α : Type} {f : α → Bytes} {xs : List α}
    (h : ∀ x ∈ xs, (f x).isUtf8 = true) : isUtf8 (xs.flatMap f) = true := by
  induction xs with
  | nil => rfl
  | cons x xs ih =>
    rw [List.flatMap_cons]
    exact isUtf8_append (h x List.mem_cons_self) (ih fun y hy => h y (List.mem_cons_of_mem _ hy))

theorem isUtf8_of_ascii (h : ∀ b ∈ s, b < 0x80) : s.isUtf8 = true := by
  have hs := runes_ascii_append h []
  rw [List.append_nil, runes_nil, List.append_nil] at hs
  rw [isUtf8, hs, List.all_eq_true]
  intro r hr
  obtain ⟨b, hb, rfl⟩ := List.mem_map.mp hr
  simp [Rune.isWellFormed, encode_ascii (h b hb)]

/-- The parts before and behind a byte below 0x80 are well formed if the whole is, and no sooner. -/
theorem isUtf8_append_ascii {b : UInt8} (hb : b < 0x80) (s t : Bytes) :
    (s ++ b :: t).isUtf8 = (s.isUtf8 && t.isUtf8) := by
  rw [isUtf8, runes_append_ascii hb, runes_cons_ascii hb, List.all_append, List.all_cons]
  simp [Rune.isWellFormed, encode_ascii hb, isUtf8]

/-- A piece between two places where characters end is well formed if the whole is. -/
theorem isUtf8_join_of_infix {rs : List Rune} (hs : s.isUtf8 = true) (h : rs <:+: runes s) :
    (Rune.join rs).isUtf8 = true := by
  rw [isUtf8, runes_join_piece h, List.all_eq_true]
  intro r hr
  exact List.all_eq_true.mp hs r (h.subset hr)

theorem isUtf8_of_mem_words {sep : Char → Bool} {word : Bytes} (hs : s.isUtf8 = true)
    (h : word ∈ s.words sep) : word.isUtf8 = true := by
  obtain ⟨run, hpiece, -, -, rfl⟩ := exists_run_of_mem_words h
  exact isUtf8_join_of_infix hs hpiece

theorem isUtf8_upper (s : Bytes) : s.upper.isUtf8 = true := by
  rw [upper_eq_ofChars]
  exact isUtf8_ofChars _

theorem isUtf8_dropEnd {b : UInt8} (hb : b < 0x80) (hs : s.isUtf8 = true) :
    (s.dropEnd [b]).isUtf8 = true := by
  rw [dropEnd]
  split
  · next hsuffix =>
    obtain ⟨front, rfl⟩ := List.isSuffixOf_iff_suffix.mp hsuffix
    rw [isUtf8_append_ascii hb, Bool.and_eq_true] at hs
    simpa using hs.1
  · exact hs

/-- Pieces that are joined with a byte below 0x80 are well formed if the whole is. -/
theorem isUtf8_of_mem_joinWith {b : UInt8} (hb : b < 0x80) {pieces : List Bytes}
    (h : (joinWith [b] pieces).isUtf8 = true) : ∀ piece ∈ pieces, piece.isUtf8 = true := by
  induction pieces with
  | nil => simp
  | cons first pieces ih =>
    cases pieces with
    | nil => exact List.forall_mem_singleton.mpr h
    | cons second pieces =>
      rw [joinWith, List.append_assoc, List.singleton_append, isUtf8_append_ascii hb,
        Bool.and_eq_true] at h
      exact List.forall_mem_cons.mpr ⟨h.1, ih h.2⟩

end Bytes

namespace Numeral

theorem isUtf8_ofNat (n : Nat) : (ofNat n).isUtf8 = true := by
  apply Bytes.isUtf8_of_ascii
  intro b hb
  have hdigit := isDigit_of_mem_ofNat n b hb
  simp only [isDigit, Bool.and_eq_true, decide_eq_true_eq] at hdigit
  exact UInt8.lt_of_le_of_lt hdigit.2 (by decide)

theorem isUtf8_ofInt (v : Int) : (ofInt v).isUtf8 = true := by
  rw [ofInt]
  split
  · exact Bytes.isUtf8_append (s := [minus]) (by decide) (isUtf8_ofNat _)
  · exact isUtf8_ofNat _

end Numeral

end KeyScript
