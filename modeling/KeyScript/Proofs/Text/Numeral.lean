import Mathlib.Data.List.Induction
import Mathlib.Data.List.TakeWhile
import KeyScript.Text.Numeral

/-!
# Canonical numerals

Cutting the canonical numeral out of a byte string gives the same as reading the integer and writing
it again, for integers of any size. So the tests that are made on the text of a numeral are tests on
its value.

## Main definitions

- `Numeral.IsCanonical` — what a canonical numeral looks like

## Main results

- `Numeral.ofNat_valueOf`, `Numeral.valueOf_ofNat` — writing and reading are inverse to each other
- `Numeral.leadingText?_eq_map_leading?` — cutting out is reading and writing
- `Numeral.isCanonical_of_leadingText?` — what is cut out is canonical
- `Numeral.leadingText?_of_isCanonical` — what is canonical is cut out as it is
-/

namespace KeyScript.Numeral

/-- A decimal integer with an optional minus sign, without leading zeros and without a sign on
zero. -/
def IsCanonical (s : Bytes) : Prop :=
  s = [zero] ∨ ∃ digits : Bytes, (s = digits ∨ s = minus :: digits) ∧ digits ≠ [] ∧
    (∀ d ∈ digits, isDigit d = true) ∧ digits.head? ≠ some zero

section Digits

theorem digitValue_lt_ten {d : UInt8} (h : isDigit d = true) : digitValue d < 10 := by
  simp only [isDigit, Bool.and_eq_true, decide_eq_true_eq, UInt8.le_iff_toNat_le] at h
  have hhigh : d.toNat ≤ 57 := h.2
  rw [digitValue]
  omega

theorem digit_digitValue {d : UInt8} (h : isDigit d = true) : digit (digitValue d) = d := by
  simp only [isDigit, Bool.and_eq_true, decide_eq_true_eq, UInt8.le_iff_toNat_le] at h
  have hlow : 48 ≤ d.toNat := h.1
  rw [digit, digitValue, Nat.add_sub_cancel' hlow, UInt8.ofNat_toNat]

theorem toNat_digit {n : Nat} (h : n < 10) : (digit n).toNat = 48 + n := by
  rw [digit, UInt8.toNat_ofNat']
  omega

theorem isDigit_digit {n : Nat} (h : n < 10) : isDigit (digit n) = true := by
  simp only [isDigit, Bool.and_eq_true, decide_eq_true_eq, UInt8.le_iff_toNat_le, toNat_digit h]
  constructor
  · exact Nat.le_add_right 48 n
  · change 48 + n ≤ 57
    omega

theorem digitValue_digit {n : Nat} (h : n < 10) : digitValue (digit n) = n := by
  rw [digitValue, toNat_digit h]
  omega

theorem ne_sign_of_isDigit {d : UInt8} (h : isDigit d = true) : d ≠ minus ∧ d ≠ plus := by
  constructor
  · rintro rfl
    exact absurd h (by decide)
  · rintro rfl
    exact absurd h (by decide)

end Digits

section Writing

/-- Fuel above the number makes no difference. -/
theorem digitsInto_congr_fuel {fuel fuel' n : Nat} (h : n < fuel) (h' : n < fuel') (tail : Bytes) :
    digitsInto fuel n tail = digitsInto fuel' n tail := by
  induction fuel generalizing fuel' n tail with
  | zero => omega
  | succ fuel ih =>
    cases fuel' with
    | zero => omega
    | succ fuel' =>
      rw [digitsInto, digitsInto]
      split
      · rfl
      · exact ih (by omega) (by omega) _

theorem digitsInto_append (fuel n : Nat) (tail : Bytes) :
    digitsInto fuel n tail = digitsInto fuel n [] ++ tail := by
  induction fuel generalizing n tail with
  | zero => rfl
  | succ fuel ih =>
    rw [digitsInto, digitsInto]
    split
    · rfl
    · rw [ih (n / 10) (digit (n % 10) :: tail), ih (n / 10) [digit (n % 10)], List.append_assoc]
      rfl

theorem ofNat_of_lt_ten {n : Nat} (h : n < 10) : ofNat n = [digit n] := by
  rw [ofNat, digitsInto, if_pos h]

/-- The last digit of a numeral and the digits before it. -/
theorem ofNat_of_ten_le {n : Nat} (h : 10 ≤ n) : ofNat n = ofNat (n / 10) ++ [digit (n % 10)] := by
  have hfuel : n / 10 < n := by omega
  rw [ofNat, digitsInto, if_neg (by omega), digitsInto_append, ofNat,
    digitsInto_congr_fuel hfuel (Nat.lt_succ_self (n / 10))]

theorem ofNat_ne_nil (n : Nat) : ofNat n ≠ [] := by
  by_cases h : n < 10
  · rw [ofNat_of_lt_ten h]
    simp
  · rw [ofNat_of_ten_le (by omega)]
    simp

theorem isDigit_of_mem_ofNat (n : Nat) : ∀ d ∈ ofNat n, isDigit d = true := by
  induction n using Nat.strongRecOn with
  | _ n ih =>
    by_cases h : n < 10
    · rw [ofNat_of_lt_ten h]
      simpa using isDigit_digit h
    · rw [ofNat_of_ten_le (by omega)]
      intro d hd
      rcases List.mem_append.mp hd with hd | hd
      · exact ih (n / 10) (by omega) d hd
      · rw [List.mem_singleton.mp hd]
        exact isDigit_digit (Nat.mod_lt _ (by omega))

end Writing

section Reading

theorem valueOf_concat (digits : Bytes) (d : UInt8) :
    valueOf (digits ++ [d]) = valueOf digits * 10 + digitValue d := by
  simp [valueOf]

theorem valueOf_ofNat (n : Nat) : valueOf (ofNat n) = n := by
  induction n using Nat.strongRecOn with
  | _ n ih =>
    by_cases h : n < 10
    · rw [ofNat_of_lt_ten h]
      simpa [valueOf] using digitValue_digit h
    · rw [ofNat_of_ten_le (by omega), valueOf_concat, ih (n / 10) (by omega),
        digitValue_digit (Nat.mod_lt _ (by omega))]
      omega

/-- Leading zeros do not change the value. -/
theorem valueOf_dropZeros (digits : Bytes) :
    valueOf (digits.dropWhile fun d => d == zero) = valueOf digits := by
  induction digits with
  | nil => rfl
  | cons d digits ih =>
    by_cases hd : d = zero
    · subst hd
      rw [List.dropWhile_cons_of_pos (by simp), ih]
      rfl
    · rw [List.dropWhile_cons_of_neg (by simpa using hd)]

/-- Digits that do not begin with zero have a positive value and are its numeral. -/
theorem ofNat_valueOf {digits : Bytes} (hne : digits ≠ [])
    (hdigits : ∀ d ∈ digits, isDigit d = true) (hhead : digits.head? ≠ some zero) :
    0 < valueOf digits ∧ ofNat (valueOf digits) = digits := by
  induction digits using List.reverseRecOn with
  | nil => contradiction
  | append_singleton digits d ih =>
    have hd : isDigit d = true := hdigits d (by simp)
    have hlt := digitValue_lt_ten hd
    rw [valueOf_concat]
    cases digits with
    | nil =>
      have hpos : digitValue d ≠ 0 := by
        intro hzero
        have := digit_digitValue hd
        rw [hzero] at this
        exact hhead (by rw [← this]; rfl)
      refine ⟨by omega, ?_⟩
      rw [show valueOf [] * 10 + digitValue d = digitValue d by simp [valueOf], ofNat_of_lt_ten hlt,
        digit_digitValue hd]
      rfl
    | cons c digits =>
      obtain ⟨hpos, hwritten⟩ := ih (by simp) (fun e he => hdigits e (List.mem_append_left _ he))
        (by simpa using hhead)
      refine ⟨by omega, ?_⟩
      rw [ofNat_of_ten_le (by omega),
        show (valueOf (c :: digits) * 10 + digitValue d) / 10 = valueOf (c :: digits) by omega,
        show (valueOf (c :: digits) * 10 + digitValue d) % 10 = digitValue d by omega, hwritten,
        digit_digitValue hd]

end Reading

theorem ofInt_natCast (n : Nat) : ofInt n = ofNat n := by
  rw [ofInt, if_neg (by omega), Int.natAbs_natCast]

theorem ofInt_neg_natCast {n : Nat} (h : 0 < n) : ofInt (-(n : Int)) = minus :: ofNat n := by
  rw [ofInt, if_pos (by omega), Int.natAbs_neg, Int.natAbs_natCast]

/-- The digits that the integer at the start of a byte string is read from. -/
def leadingDigits (s : Bytes) : Bytes := (unsignedPart s).takeWhile isDigit

theorem isDigit_of_mem_leadingDigits {s : Bytes} : ∀ d ∈ leadingDigits s, isDigit d = true :=
  fun _ hd => List.mem_takeWhile_imp hd

theorem map_unsigned? (f : Nat → Int) (s : Bytes) :
    (unsigned? s).map f =
      if s.takeWhile isDigit = [] then none else some (f (valueOf (s.takeWhile isDigit))) := by
  simp only [unsigned?, List.isEmpty_iff]
  split <;> rfl

/-- The integer at the start of a byte string, from its digits and its sign. -/
theorem leading?_eq (s : Bytes) :
    leading? s =
      if leadingDigits s = [] then none
      else some (if s.head? = some minus then -(valueOf (leadingDigits s) : Int)
        else valueOf (leadingDigits s)) := by
  rw [leadingDigits]
  cases s with
  | nil => rfl
  | cons c rest =>
    have hsign : plus ≠ minus := by decide
    by_cases hminus : c = minus
    · simp [leading?, unsignedPart, map_unsigned?, hminus]
    by_cases hplus : c = plus
    · simp [leading?, unsignedPart, map_unsigned?, hplus, hsign]
    · simp [leading?, unsignedPart, map_unsigned?, hminus, hplus]

/-- Digits without the zeros in front are empty or the numeral of a positive number. -/
theorem dropZeros_cases {digits : Bytes} (hdigits : ∀ d ∈ digits, isDigit d = true) :
    (digits.dropWhile (fun d => d == zero) = [] ∧ valueOf digits = 0) ∨
      ∃ significant, digits.dropWhile (fun d => d == zero) = significant ∧ significant ≠ [] ∧
        (∀ d ∈ significant, isDigit d = true) ∧ significant.head? ≠ some zero ∧
        0 < valueOf digits ∧ ofNat (valueOf digits) = significant := by
  rw [← valueOf_dropZeros digits]
  have hhead := List.head?_dropWhile_not (fun d => d == zero) digits
  have hkept : ∀ d ∈ digits.dropWhile (fun d => d == zero), isDigit d = true :=
    fun d hd => hdigits d ((List.dropWhile_suffix _).subset hd)
  cases hdrop : digits.dropWhile fun d => d == zero with
  | nil => exact .inl ⟨rfl, rfl⟩
  | cons d significant =>
    rw [hdrop] at hhead hkept
    have hne : (d :: significant).head? ≠ some zero := by simpa using hhead
    exact .inr ⟨d :: significant, rfl, by simp, hkept, hne, ofNat_valueOf (by simp) hkept hne⟩

/-- What can be cut out of a byte string: zero, or digits that do not begin with zero, with the sign
that stands before them. -/
theorem leadingText?_cases (s : Bytes) :
    (leadingDigits s = [] ∧ leadingText? s = none) ∨
      (leadingDigits s ≠ [] ∧ valueOf (leadingDigits s) = 0 ∧ leadingText? s = some [zero]) ∨
      ∃ significant, leadingDigits s ≠ [] ∧ significant ≠ [] ∧
        (∀ d ∈ significant, isDigit d = true) ∧ significant.head? ≠ some zero ∧
        0 < valueOf (leadingDigits s) ∧ ofNat (valueOf (leadingDigits s)) = significant ∧
        leadingText? s =
          some (if s.head? = some minus then minus :: significant else significant) := by
  have hcases := dropZeros_cases (isDigit_of_mem_leadingDigits (s := s))
  unfold leadingText?
  rw [← leadingDigits]
  cases hdigits : leadingDigits s with
  | nil => exact .inl ⟨rfl, rfl⟩
  | cons d digits =>
    rw [hdigits] at hcases
    rcases hcases with ⟨hdrop, hzero⟩ | ⟨significant, hdrop, hne, hall, hhead, hpos, hwritten⟩
    · exact .inr (.inl ⟨by simp, hzero, by simp only [hdrop]⟩)
    · refine .inr (.inr ⟨significant, by simp, hne, hall, hhead, hpos, hwritten, ?_⟩)
      cases significant with
      | nil => contradiction
      | cons e significant => simp only [hdrop]

/-- Cutting out the canonical numeral is reading the integer and writing it again. -/
theorem leadingText?_eq_map_leading? (s : Bytes) : leadingText? s = (leading? s).map ofInt := by
  rw [leading?_eq]
  rcases leadingText?_cases s with
    ⟨hnil, htext⟩ | ⟨hne, hzero, htext⟩ | ⟨significant, hne, -, -, -, hpos, hwritten, htext⟩
  · rw [htext, if_pos hnil]
    rfl
  · rw [htext, if_neg hne, hzero]
    simp
    rfl
  · rw [htext, if_neg hne, Option.map_some]
    split
    · rw [ofInt_neg_natCast hpos, hwritten]
    · rw [ofInt_natCast, hwritten]

theorem isCanonical_of_leadingText? {s t : Bytes} (h : leadingText? s = some t) :
    IsCanonical t := by
  rcases leadingText?_cases s with
    ⟨-, htext⟩ | ⟨-, -, htext⟩ | ⟨significant, -, hne, hall, hhead, -, -, htext⟩
  · rw [htext] at h
    contradiction
  · rw [htext, Option.some.injEq] at h
    exact .inl h.symm
  · rw [htext, Option.some.injEq] at h
    refine .inr ⟨significant, ?_, hne, hall, hhead⟩
    rw [← h]
    split
    · exact .inr rfl
    · exact .inl rfl

/-- A canonical numeral is cut out as it is. -/
theorem leadingText?_of_isCanonical {s : Bytes} (h : IsCanonical s) : leadingText? s = some s := by
  rcases h with rfl | ⟨digits, hsign, hne, hdigits, hhead⟩
  · rfl
  have htake : digits.takeWhile isDigit = digits := List.takeWhile_eq_self_iff.mpr hdigits
  obtain ⟨d, digits, rfl⟩ := List.exists_cons_of_ne_nil hne
  obtain ⟨hminus, hplus⟩ := ne_sign_of_isDigit (hdigits d (by simp))
  have hdrop : (d :: digits).dropWhile (fun d => d == zero) = d :: digits :=
    List.dropWhile_cons_of_neg (by simpa using hhead)
  rcases hsign with rfl | rfl
  · have hunsigned : unsignedPart (d :: digits) = d :: digits := by
      simp [unsignedPart, hminus, hplus]
    rw [leadingText?, hunsigned, htake]
    simp only [hdrop, List.head?_cons, Option.some.injEq, if_neg hminus]
  · have hunsigned : unsignedPart (minus :: d :: digits) = d :: digits := by simp [unsignedPart]
    rw [leadingText?, hunsigned, htake]
    simp only [hdrop, List.head?_cons, if_true]

/-- The text of an integer tells whether the integer is positive. -/
theorem ofInt_nonpositive_iff (v : Int) :
    (ofInt v = [zero] ∨ (ofInt v).startsWith [minus] = true) ↔ v ≤ 0 := by
  rw [ofInt]
  split
  · next hneg => simp [Bytes.startsWith]; omega
  · next hnonneg =>
    constructor
    · rintro (hzero | hminus)
      · have := valueOf_ofNat v.natAbs
        rw [hzero, show valueOf [zero] = 0 from rfl] at this
        omega
      · rw [Bytes.startsWith, List.isPrefixOf_iff_prefix] at hminus
        have hdigit := isDigit_of_mem_ofNat v.natAbs minus (hminus.subset (by simp))
        exact absurd hdigit (by decide)
    · intro hle
      rw [show v.natAbs = 0 by omega]
      exact .inl rfl

theorem valueOf_ofInt {v : Int} (h : 0 < v) : valueOf (ofInt v) = v.toNat := by
  rw [ofInt, if_neg (by omega), valueOf_ofNat]
  omega

end KeyScript.Numeral
