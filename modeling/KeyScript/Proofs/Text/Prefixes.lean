import KeyScript.Proofs.Text.Columns

/-!
# The longest beginning that fits into some columns

Cutting a byte string at a column keeps as many whole characters as fit before the column. Among the
beginnings that end between two characters this is the longest one that fits, for any bytes and any
column. A column inside a character of two units is the only one that is not reached, and it is
missed by one unit.

## Main definitions

- `Bytes.IsRunePrefix` — a beginning that ends where a character ends

## Main results

- `Bytes.isRunePrefix_iff` — such a beginning has the first characters of the whole
- `isPrefix_takeUnits` — a beginning that fits is part of the one that is taken
- `Bytes.takeUnits_longest` — what is kept in front of a column
-/

namespace KeyScript

section TakeUnits

theorem Rune.units_le_two (r : Rune) : r.units ≤ 2 := by
  rw [units]
  split <;> omega

theorem takeUnits_isPrefix (n : Nat) (rs : List Rune) : takeUnits n rs <+: rs := by
  induction rs generalizing n with
  | nil => exact List.prefix_rfl
  | cons r rs ih =>
    rw [takeUnits]
    split
    · exact List.cons_prefix_cons.mpr ⟨rfl, ih _⟩
    · exact List.nil_prefix

theorem unitsOf_takeUnits_le (n : Nat) (rs : List Rune) : unitsOf (takeUnits n rs) ≤ n := by
  induction rs generalizing n with
  | nil => exact Nat.zero_le n
  | cons r rs ih =>
    rw [takeUnits]
    split
    · next hfits =>
      have hrest := ih (n - r.units)
      rw [unitsOf]
      omega
    · exact Nat.zero_le n

/-- Characters at the start that fit are all taken. -/
theorem isPrefix_takeUnits {n : Nat} {pre rs : List Rune} (hpre : pre <+: rs)
    (hfits : unitsOf pre ≤ n) : pre <+: takeUnits n rs := by
  induction rs generalizing n pre with
  | nil => exact hpre
  | cons r rs ih =>
    cases pre with
    | nil => exact List.nil_prefix
    | cons p pre =>
      obtain ⟨rfl, htail⟩ := List.cons_prefix_cons.mp hpre
      rw [unitsOf] at hfits
      rw [takeUnits, if_pos (by omega)]
      exact List.cons_prefix_cons.mpr ⟨rfl, ih htail (by omega)⟩

/-- No more than one unit is lost to a character that does not fit. -/
theorem le_unitsOf_takeUnits {n : Nat} {rs : List Rune} (h : n ≤ unitsOf rs) :
    n ≤ unitsOf (takeUnits n rs) + 1 := by
  induction rs generalizing n with
  | nil => exact Nat.le_succ_of_le h
  | cons r rs ih =>
    rw [unitsOf] at h
    rw [takeUnits]
    split
    · next hfits =>
      have hrest := ih (n := n - r.units) (by omega)
      rw [unitsOf]
      omega
    · next hwide =>
      -- A character that does not fit leaves less than its two units free.
      have htwo := r.units_le_two
      omega

theorem takeUnits_eq_self_iff {n : Nat} {rs : List Rune} :
    takeUnits n rs = rs ↔ unitsOf rs ≤ n := by
  constructor
  · intro h
    rw [← h]
    exact unitsOf_takeUnits_le n rs
  · intro hfits
    have hall : rs <+: takeUnits n rs := isPrefix_takeUnits List.prefix_rfl hfits
    exact (takeUnits_isPrefix n rs).eq_of_length_le hall.length_le

theorem takeUnits_isPrefix_takeUnits {m n : Nat} (h : m ≤ n) (rs : List Rune) :
    takeUnits m rs <+: takeUnits n rs :=
  isPrefix_takeUnits (takeUnits_isPrefix m rs) (Nat.le_trans (unitsOf_takeUnits_le m rs) h)

end TakeUnits

namespace Bytes

/-- A beginning of a byte string that ends where one of its characters ends, or that is empty. -/
def IsRunePrefix (p s : Bytes) : Prop :=
  ∃ front back, runes s = front ++ back ∧ p = Rune.join front

/-- A beginning that ends between characters is a beginning that has the same characters as the
whole, as far as it goes. -/
theorem isRunePrefix_iff {p s : Bytes} : p.IsRunePrefix s ↔ runes p <+: runes s := by
  constructor
  · rintro ⟨front, back, hsplit, rfl⟩
    rw [runes_join_left hsplit]
    exact ⟨back, hsplit.symm⟩
  · rintro ⟨back, hsplit⟩
    exact ⟨runes p, back, hsplit.symm, (join_runes p).symm⟩

theorem isPrefix_of_runes_isPrefix {p q : Bytes} (h : runes p <+: runes q) : p <+: q := by
  obtain ⟨back, hback⟩ := h
  refine ⟨Rune.join back, ?_⟩
  rw [← join_runes q, ← hback, Rune.join_append, join_runes]

/-- The characters that are kept stay what they were, although the cut shortens what can be seen
behind them. -/
theorem runes_takeUnits (n : Int) (s : Bytes) :
    runes (s.takeUnits n) = KeyScript.takeUnits n.toNat (runes s) := by
  obtain ⟨back, hsplit⟩ := takeUnits_isPrefix n.toNat (runes s)
  exact runes_join_left hsplit.symm

theorem units_takeUnits (n : Int) (s : Bytes) :
    (s.takeUnits n).units = unitsOf (KeyScript.takeUnits n.toNat (runes s)) := by
  rw [units, runes_takeUnits]

theorem units_eq_zero_iff {s : Bytes} : s.units = 0 ↔ s = [] := by
  rw [← runes_eq_nil_iff, units]
  constructor
  · intro hzero
    by_contra hne
    exact absurd hzero (Nat.ne_of_gt (unitsOf_pos hne))
  · intro hnil
    rw [hnil, unitsOf_nil]

/-- Only the empty byte string fits in front of a negative column. -/
theorem takeUnits_eq_self_iff {n : Int} {s : Bytes} :
    s.takeUnits n = s ↔ (s.units : Int) ≤ n ∨ s = [] := by
  have hrunes : s.takeUnits n = s ↔ KeyScript.takeUnits n.toNat (runes s) = runes s := by
    rw [← runes_takeUnits]
    constructor
    · intro h
      rw [h]
    · intro h
      rw [← join_runes (s.takeUnits n), h, join_runes]
  rw [hrunes, KeyScript.takeUnits_eq_self_iff, ← units, ← units_eq_zero_iff]
  omega

/-- What a byte string keeps in front of a column: the longest of its beginnings that end between
characters and take no more units than there are in front of the column, none if the column is
negative. A later column keeps at least as much. Everything is kept if the column is not inside the
byte string, and only then or if there is nothing to keep. A column inside the byte string is missed
by one unit at most. -/
theorem takeUnits_longest (s : Bytes) :
    (∀ n : Int, (s.takeUnits n).IsRunePrefix s ∧ ((s.takeUnits n).units : Int) ≤ max n 0 ∧
      ∀ p : Bytes, p.IsRunePrefix s → (p.units : Int) ≤ max n 0 → p <+: s.takeUnits n) ∧
    (∀ m n : Int, m ≤ n → s.takeUnits m <+: s.takeUnits n) ∧
    (∀ n : Int, s.takeUnits n = s ↔ (s.units : Int) ≤ n ∨ s = []) ∧
    ∀ n : Int, 0 ≤ n → n ≤ s.units → n - 1 ≤ (s.takeUnits n).units := by
  refine ⟨fun n => ⟨?_, ?_, fun p hp hfits => ?_⟩, fun m n hmn => ?_,
    fun n => takeUnits_eq_self_iff, fun n hn hle => ?_⟩
  · rw [isRunePrefix_iff, runes_takeUnits]
    exact takeUnits_isPrefix n.toNat (runes s)
  · have hfits := unitsOf_takeUnits_le n.toNat (runes s)
    rw [units_takeUnits]
    omega
  · have hunits : unitsOf (runes p) ≤ n.toNat := by
      rw [units] at hfits
      omega
    apply isPrefix_of_runes_isPrefix
    rw [runes_takeUnits]
    exact isPrefix_takeUnits (isRunePrefix_iff.mp hp) hunits
  · apply isPrefix_of_runes_isPrefix
    rw [runes_takeUnits, runes_takeUnits]
    exact takeUnits_isPrefix_takeUnits (Int.toNat_le_toNat hmn) (runes s)
  · have hinside : n.toNat ≤ unitsOf (runes s) := by
      rw [units] at hle
      omega
    have hmissed := le_unitsOf_takeUnits hinside
    rw [units_takeUnits]
    omega

/-- A letter, a character of two units, and two bytes that are no character. -/
def pairedText : Bytes := ("a🦆" : Bytes) ++ ([0xF0, 0x9F] : Bytes)

/-- Column 2 stands inside the second character, so the cut falls back to column 1. Column 4 keeps
the first of the two odd bytes. -/
theorem takeUnits_longest_paired :
    pairedText.units = 5 ∧
    pairedText.takeUnits 2 = "a" ∧ (2 : Int) - 1 ≤ (pairedText.takeUnits 2).units ∧
    ("a" : Bytes) <+: pairedText.takeUnits 2 ∧
    pairedText.takeUnits 2 <+: pairedText.takeUnits 4 ∧
    pairedText.takeUnits 4 = ("a🦆" : Bytes) ++ ([0xF0] : Bytes) :=
  ⟨by decide, by decide, (takeUnits_longest pairedText).2.2.2 2 (by decide) (by decide),
    ((takeUnits_longest pairedText).1 2).2.2 "a"
      ⟨(runes pairedText).take 1, (runes pairedText).drop 1, by decide, by decide⟩ (by decide),
    (takeUnits_longest pairedText).2.1 2 4 (by decide), by decide⟩

end Bytes

end KeyScript
