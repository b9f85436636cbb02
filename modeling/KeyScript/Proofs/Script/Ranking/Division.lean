import KeyScript.Proofs.Script.Ranking.Exchange

/-!
# Dividing a range around a pivot

A range is divided from both of its ends: items on the wrong side are exchanged until the two scans
meet. What belongs to the left is told by the rank alone, since the pivot waits before the range, so
both ways to divide a range are one scan with different tests.

## Main definitions

- `Ranking.AreSides` — the items on the left and on the right that the scans have passed
- `Ranking.IsDivided` — an item with lower ones before it and higher ones behind it

## Main results

- `Ranking.exchangeSides_spec` — the scans meet with every item on its side
- `Ranking.divide_spec` — items below the pivot, the pivot and the other items
- `Ranking.divideEqual_spec` — items not above the pivot and the other items
-/

namespace KeyScript.Ranking

variable {α : Type} {rank : α → Nat} {xs ys zs : Array α} {a b first i j : Nat}

theorem ascend_spec (p : Nat → Bool) {fuel : Nat} (hij : i ≤ j + 1) (hfuel : j < i + fuel) :
    (i ≤ ascend p fuel i j ∧ ascend p fuel i j ≤ j + 1) ∧
      (∀ k, i ≤ k → k < ascend p fuel i j → p k = true) ∧
      (ascend p fuel i j ≤ j → p (ascend p fuel i j) = false) := by
  induction fuel generalizing i with
  | zero =>
    rw [ascend]
    refine ⟨by omega, by omega, by omega⟩
  | succ fuel ih =>
    rw [ascend]
    split
    case isTrue h =>
      obtain ⟨hle, hpi⟩ := Bool.and_eq_true_iff.mp h
      have hle : i ≤ j := of_decide_eq_true hle
      obtain ⟨hbounds, hpassed, hstop⟩ := ih (i := i + 1) (by omega) (by omega)
      refine ⟨by omega, ?_, hstop⟩
      intro k hk hlt
      by_cases heq : k = i
      · rwa [heq]
      · exact hpassed k (by omega) hlt
    case isFalse h =>
      refine ⟨by omega, by omega, ?_⟩
      intro hle
      rw [Bool.and_eq_true, decide_eq_true_eq, not_and] at h
      exact Bool.eq_false_iff.mpr (h hle)

theorem descend_spec (p : Nat → Bool) {fuel : Nat} (hi : 0 < i) (hij : i ≤ j + 1)
    (hfuel : j < i + fuel) :
    (i ≤ descend p fuel i j + 1 ∧ descend p fuel i j ≤ j) ∧
      (∀ k, descend p fuel i j < k → k ≤ j → p k = true) ∧
      (i ≤ descend p fuel i j → p (descend p fuel i j) = false) := by
  induction fuel generalizing j with
  | zero =>
    rw [descend]
    refine ⟨by omega, by omega, by omega⟩
  | succ fuel ih =>
    rw [descend]
    split
    case isTrue h =>
      obtain ⟨hle, hpj⟩ := Bool.and_eq_true_iff.mp h
      have hle : i ≤ j := of_decide_eq_true hle
      obtain ⟨hbounds, hpassed, hstop⟩ := ih (j := j - 1) (by omega) (by omega)
      refine ⟨by omega, ?_, hstop⟩
      intro k hk hle
      by_cases heq : k = j
      · rwa [heq]
      · exact hpassed k hk (by omega)
    case isFalse h =>
      refine ⟨by omega, by omega, ?_⟩
      intro hle
      rw [Bool.and_eq_true, decide_eq_true_eq, not_and] at h
      exact Bool.eq_false_iff.mpr (h hle)

/-- The items from `first` up to `i` belong to the left and those behind `j` to the right. -/
structure AreSides (rank : α → Nat) (isLow : Nat → Bool) (first b i j : Nat) (xs : Array α) :
    Prop where
  first_le : first ≤ i
  le_succ : i ≤ j + 1
  lt : j < b
  left : ∀ k, first ≤ k → k < i → isLow (rankAt rank xs k) = true
  right : ∀ k, j < k → k < b → isLow (rankAt rank xs k) = false

namespace AreSides

variable {isLow : Nat → Bool}

theorem ascend {p : Nat → Bool} {fuel : Nat} (h : AreSides rank isLow first b i j xs)
    (hp : ∀ k, first ≤ k → k < b → p k = isLow (rankAt rank xs k)) (hfuel : j < i + fuel) :
    AreSides rank isLow first b (Ranking.ascend p fuel i j) j xs ∧
      i ≤ Ranking.ascend p fuel i j ∧
      (Ranking.ascend p fuel i j ≤ j →
        isLow (rankAt rank xs (Ranking.ascend p fuel i j)) = false) := by
  have hfirst := h.first_le
  have hlt := h.lt
  obtain ⟨hbounds, hpassed, hstop⟩ := ascend_spec p h.le_succ hfuel
  refine ⟨⟨by omega, hbounds.2, hlt, ?_, h.right⟩, hbounds.1, ?_⟩
  · intro k hk hki
    by_cases hold : k < i
    · exact h.left k hk hold
    · rw [← hp k hk (by omega)]
      exact hpassed k (by omega) hki
  · intro hle
    rw [← hp _ (by omega) (by omega)]
    exact hstop hle

theorem descend {p : Nat → Bool} {fuel : Nat} (h : AreSides rank isLow first b i j xs)
    (hp : ∀ k, first ≤ k → k < b → p k = !isLow (rankAt rank xs k)) (hpos : 0 < first)
    (hfuel : j < i + fuel) :
    AreSides rank isLow first b i (Ranking.descend p fuel i j) xs ∧
      Ranking.descend p fuel i j ≤ j ∧
      (i ≤ Ranking.descend p fuel i j →
        isLow (rankAt rank xs (Ranking.descend p fuel i j)) = true) := by
  have hfirst := h.first_le
  have hlt := h.lt
  obtain ⟨hbounds, hpassed, hstop⟩ := descend_spec p (by omega) h.le_succ hfuel
  refine ⟨⟨hfirst, hbounds.1, by omega, h.left, ?_⟩, hbounds.2, ?_⟩
  · intro k hk hkb
    by_cases hold : j < k
    · exact h.right k hold hkb
    · have hk' := hpassed k hk (by omega)
      rwa [hp k (by omega) hkb, Bool.not_eq_true'] at hk'
  · intro hle
    have hj := hstop hle
    rwa [hp _ (by omega) (by omega), Bool.not_eq_false'] at hj

/-- Two items on the wrong side change places. -/
theorem swap (h : AreSides rank isLow first b i j xs) (hb : b ≤ xs.size) (hpos : 0 < first)
    (hij : i ≤ j) (hi : isLow (rankAt rank xs i) = false) (hj : isLow (rankAt rank xs j) = true) :
    AreSides rank isLow first b (i + 1) (j - 1) (xs.swapIfInBounds i j) := by
  have hfirst := h.first_le
  have hlt := h.lt
  have hne : i ≠ j := by
    rintro rfl
    rw [hi] at hj
    exact Bool.false_ne_true hj
  have hswap := rankAt_swap rank (show i < xs.size by omega) (show j < xs.size by omega)
  refine ⟨by omega, by omega, by omega, ?_, ?_⟩
  · intro k hk hki
    rw [hswap]
    by_cases heq : k = i
    · rwa [if_pos heq]
    · rw [if_neg heq, if_neg (by omega)]
      exact h.left k hk (by omega)
  · intro k hk hkb
    rw [hswap, if_neg (by omega)]
    by_cases heq : k = j
    · rwa [if_pos heq]
    · rw [if_neg heq]
      exact h.right k (by omega) hkb

end AreSides

/-- The scans meet with every item on its side, where `isLow` says of a rank which side it is. -/
theorem exchangeSides_spec {low high : Array α → Nat → Bool} {isLow : Nat → Bool} {fuel : Nat}
    (moved : Bool) (hpos : 0 < first) (hb : b ≤ xs.size)
    (hlow : ∀ ys, Exchanged first b xs ys → ∀ k, first ≤ k → k < b →
      low ys k = isLow (rankAt rank ys k))
    (hhigh : ∀ ys, Exchanged first b xs ys → ∀ k, first ≤ k → k < b →
      high ys k = !isLow (rankAt rank ys k))
    (h : AreSides rank isLow first b i j xs) (hfuel : j < i + fuel) :
    ∃ mid moved' ys, exchangeSides low high fuel i j moved xs = (mid + 1, mid, moved', ys) ∧
      Exchanged first b xs ys ∧ AreSides rank isLow first b (mid + 1) mid ys := by
  induction fuel generalizing i j moved xs with
  | zero =>
    have hle := h.le_succ
    obtain rfl : i = j + 1 := by omega
    exact ⟨j, moved, xs, rfl, .refl, h⟩
  | succ fuel ih =>
    have hfirst := h.first_le
    have hlt := h.lt
    obtain ⟨hleft, hil, hi⟩ := h.ascend (hlow xs .refl) (show j < i + (xs.size + 1) by omega)
    generalize hleftEq : ascend (low xs) (xs.size + 1) i j = left at *
    obtain ⟨hboth, hrj, hj⟩ := hleft.descend (hhigh xs .refl) hpos
      (show j < left + (xs.size + 1) by omega)
    generalize hrightEq : descend (high xs) (xs.size + 1) left j = right at *
    have hmeet := hboth.le_succ
    rw [exchangeSides]
    simp only [hleftEq, hrightEq]
    by_cases hdone : left > right
    · obtain rfl : left = right + 1 := by omega
      rw [if_pos hdone]
      exact ⟨right, moved, xs, rfl, .refl, hboth⟩
    · rw [if_neg hdone]
      have hfirst' := hboth.first_le
      have hlt' := hboth.lt
      have hstep : Exchanged first b xs (xs.swapIfInBounds left right) :=
        .swap .refl (by omega) (by omega)
      have hswapped := hboth.swap hb hpos (by omega) (hi (by omega)) (hj (by omega))
      obtain ⟨mid, moved', ys, heq, hrest, hfinal⟩ := ih true
        (by rwa [hstep.size_eq]) (fun ys hys => hlow ys (hstep.trans hys))
        (fun ys hys => hhigh ys (hstep.trans hys)) hswapped (by omega)
      exact ⟨mid, moved', ys, heq, hstep.trans hrest, hfinal⟩

/-- The scans of a range whose pivot waits at its first index. -/
theorem exchangeSides_around {low high : Array α → Nat → Bool} (test : Nat → Nat → Bool)
    (hab : a < b) (hb : b ≤ xs.size)
    (hlow : ∀ ys : Array α, ys.size = xs.size → ∀ k, k < b →
      low ys k = test (rankAt rank ys a) (rankAt rank ys k))
    (hhigh : ∀ ys : Array α, ys.size = xs.size → ∀ k, k < b →
      high ys k = !test (rankAt rank ys a) (rankAt rank ys k)) :
    ∃ mid moved ys,
      exchangeSides low high (xs.size + 1) (a + 1) (b - 1) false xs = (mid + 1, mid, moved, ys) ∧
      Exchanged (a + 1) b xs ys ∧
      AreSides rank (test (rankAt rank xs a)) (a + 1) b (mid + 1) mid ys := by
  apply exchangeSides_spec false (Nat.succ_pos a) hb
  · intro ys hys k hk hkb
    rw [hlow ys hys.size_eq k hkb, hys.rankAt_eq (.inl (Nat.lt_succ_self a))]
  · intro ys hys k hk hkb
    rw [hhigh ys hys.size_eq k hkb, hys.rankAt_eq (.inl (Nat.lt_succ_self a))]
  · exact ⟨Nat.le_refl _, by omega, by omega, by omega, by omega⟩
  · omega

/-- No item before `mid` ranks above the one there, and no item behind it ranks below. -/
structure IsDivided (rank : α → Nat) (a b mid : Nat) (xs : Array α) : Prop where
  left : ∀ k, a ≤ k → k < mid → rankAt rank xs k ≤ rankAt rank xs mid
  right : ∀ k, mid < k → k < b → rankAt rank xs mid ≤ rankAt rank xs k

namespace IsDivided

variable {mid : Nat}

theorem exchanged_left (h : IsDivided rank a b mid xs) (hexchanged : Exchanged a mid xs ys) :
    IsDivided rank a b mid ys := by
  constructor
  · rw [hexchanged.rankAt_eq (.inr (Nat.le_refl mid))]
    exact hexchanged.forall_rankAt (p := (· ≤ rankAt rank xs mid)) h.left
  · intro k hk hkb
    rw [hexchanged.rankAt_eq (.inr (Nat.le_refl mid)), hexchanged.rankAt_eq (.inr (by omega))]
    exact h.right k hk hkb

theorem exchanged_right (h : IsDivided rank a b mid xs)
    (hexchanged : Exchanged (mid + 1) b xs ys) : IsDivided rank a b mid ys := by
  constructor
  · intro k hk hkm
    rw [hexchanged.rankAt_eq (.inl (Nat.lt_succ_self mid)), hexchanged.rankAt_eq (.inl (by omega))]
    exact h.left k hk hkm
  · rw [hexchanged.rankAt_eq (.inl (Nat.lt_succ_self mid))]
    exact hexchanged.forall_rankAt (p := (rankAt rank xs mid ≤ ·)) h.right

/-- A divided range is sorted when both of its sides are. -/
theorem isSorted (h : IsDivided rank a b mid xs) (hleft : IsSorted rank a mid xs)
    (hright : IsSorted rank (mid + 1) b xs) : IsSorted rank a b xs := by
  intro i j hi hij hj
  by_cases hjm : j < mid
  · exact hleft i j hi hij hjm
  by_cases him : mid < i
  · exact hright i j him hij hj
  have hile : rankAt rank xs i ≤ rankAt rank xs mid := by
    by_cases heq : i = mid
    · exact Nat.le_of_eq (congrArg _ heq)
    · exact h.left i hi (by omega)
  have hjle : rankAt rank xs mid ≤ rankAt rank xs j := by
    by_cases heq : j = mid
    · exact Nat.le_of_eq (congrArg _ heq.symm)
    · exact h.right j (by omega) hj
  exact Nat.le_trans hile hjle

/-- Sorting the left side and then the right side sorts a divided range. -/
theorem sort_left_right (h : IsDivided rank a b mid xs) (hmid : a ≤ mid ∧ mid < b)
    (hleft : Exchanged a mid xs ys ∧ IsSorted rank a mid ys)
    (hright : Exchanged (mid + 1) b ys zs ∧ IsSorted rank (mid + 1) b zs) :
    Exchanged a b xs zs ∧ IsSorted rank a b zs := by
  have hfirst : Exchanged a b xs ys := hleft.1.mono (Nat.le_refl a) (by omega)
  have hsecond : Exchanged a b ys zs := hright.1.mono (by omega) (Nat.le_refl b)
  have hkept : IsSorted rank a mid zs :=
    hleft.2.congr fun k _ hk => hright.1.rankAt_eq (.inl (by omega))
  exact ⟨hfirst.trans hsecond,
    ((h.exchanged_left hleft.1).exchanged_right hright.1).isSorted hkept hright.2⟩

/-- So does sorting the right side and then the left side. -/
theorem sort_right_left (h : IsDivided rank a b mid xs) (hmid : a ≤ mid ∧ mid < b)
    (hright : Exchanged (mid + 1) b xs ys ∧ IsSorted rank (mid + 1) b ys)
    (hleft : Exchanged a mid ys zs ∧ IsSorted rank a mid zs) :
    Exchanged a b xs zs ∧ IsSorted rank a b zs := by
  have hfirst : Exchanged a b xs ys := hright.1.mono (by omega) (Nat.le_refl b)
  have hsecond : Exchanged a b ys zs := hleft.1.mono (Nat.le_refl a) (by omega)
  have hkept : IsSorted rank (mid + 1) b zs :=
    hright.2.congr fun k hk _ => hleft.1.rankAt_eq (.inr (by omega))
  exact ⟨hfirst.trans hsecond,
    ((h.exchanged_right hright.1).exchanged_left hleft.1).isSorted hleft.2 hkept⟩

end IsDivided

/-- The items below the pivot stand before it, and the others behind it. -/
theorem divide_spec (rank : α → Nat) {pivot : Nat} (hb : b ≤ xs.size)
    (hpivot : a ≤ pivot ∧ pivot < b) :
    ∃ mid divided ys, divide rank a b pivot xs = (mid, divided, ys) ∧ (a ≤ mid ∧ mid < b) ∧
      Exchanged a b xs ys ∧ IsDivided rank a b mid ys := by
  have hstart : Exchanged a b xs (xs.swapIfInBounds a pivot) := .swap .refl (by omega) hpivot
  have hsize := hstart.size_eq
  rw [divide]
  generalize xs.swapIfInBounds a pivot = zs at *
  have hlow : ∀ ys : Array α, ys.size = zs.size → ∀ k, k < b →
      below rank ys k a = decide (rankAt rank ys k < rankAt rank ys a) := by
    intro ys hys k hk
    exact below_eq_decide rank (by omega) (by omega)
  obtain ⟨mid, moved, ys, heq, hscan, hsides⟩ := exchangeSides_around (fun p r => decide (r < p))
    (show a < b by omega) (by omega) hlow fun ys hys k hk => congrArg Bool.not (hlow ys hys k hk)
  have hfirst := hsides.first_le
  have hlt := hsides.lt
  have hsize' := hscan.size_eq
  have hswap := rankAt_swap rank (show mid < ys.size by omega) (show a < ys.size by omega)
  have hmid : rankAt rank (ys.swapIfInBounds mid a) mid = rankAt rank zs a := by
    rw [hswap, if_pos rfl, hscan.rankAt_eq (.inl (Nat.lt_succ_self a))]
  rw [heq]
  refine ⟨mid, !moved, ys.swapIfInBounds mid a, rfl, by omega, ?_, ?_, ?_⟩
  · exact .swap (hstart.trans (hscan.mono (by omega) (Nat.le_refl _))) (by omega) (by omega)
  · intro k hk hkm
    rw [hmid, hswap, if_neg (by omega)]
    by_cases heq : k = a
    · rw [if_pos heq]
      exact Nat.le_of_lt (of_decide_eq_true (hsides.left mid (by omega) (by omega)))
    · rw [if_neg heq]
      exact Nat.le_of_lt (of_decide_eq_true (hsides.left k (by omega) (by omega)))
  · intro k hk hkb
    rw [hmid, hswap, if_neg (by omega), if_neg (by omega)]
    exact Nat.le_of_not_lt (of_decide_eq_false (hsides.right k hk hkb))

/-- The items that do not rank above the pivot stand before the others. -/
theorem divideEqual_spec (rank : α → Nat) {pivot : Nat} (hb : b ≤ xs.size)
    (hpivot : a ≤ pivot ∧ pivot < b) :
    ∃ mid ys, divideEqual rank a b pivot xs = (mid, ys) ∧ (a < mid ∧ mid ≤ b) ∧
      Exchanged a b xs ys ∧
      (∀ k, a ≤ k → k < mid → rankAt rank ys k ≤ rankAt rank xs pivot) ∧
      (∀ k, mid ≤ k → k < b → rankAt rank xs pivot < rankAt rank ys k) := by
  have hstart : Exchanged a b xs (xs.swapIfInBounds a pivot) := .swap .refl (by omega) hpivot
  have hsize := hstart.size_eq
  have hfirst : rankAt rank (xs.swapIfInBounds a pivot) a = rankAt rank xs pivot := by
    rw [rankAt_swap rank (by omega) (by omega), if_pos rfl]
  rw [divideEqual]
  generalize xs.swapIfInBounds a pivot = zs at *
  have hhigh : ∀ ys : Array α, ys.size = zs.size → ∀ k, k < b →
      below rank ys a k = decide (rankAt rank ys a < rankAt rank ys k) := by
    intro ys hys k hk
    exact below_eq_decide rank (by omega) (by omega)
  obtain ⟨mid, moved, ys, heq, hscan, hsides⟩ := exchangeSides_around (fun p r => !decide (p < r))
    (show a < b by omega) (by omega) (fun ys hys k hk => congrArg Bool.not (hhigh ys hys k hk))
    fun ys hys k hk => (hhigh ys hys k hk).trans (Bool.not_not _).symm
  have hle := hsides.first_le
  have hlt := hsides.lt
  rw [heq, ← hfirst]
  refine ⟨mid + 1, ys, rfl, by omega, ?_, ?_, ?_⟩
  · exact hstart.trans (hscan.mono (by omega) (Nat.le_refl _))
  · intro k hk hkm
    by_cases heq : k = a
    · subst heq
      exact Nat.le_of_eq (hscan.rankAt_eq (.inl (Nat.lt_succ_self k)))
    · have hlow := hsides.left k (by omega) hkm
      rw [Bool.not_eq_true', decide_eq_false_iff_not] at hlow
      exact Nat.le_of_not_lt hlow
  · intro k hk hkb
    have hhigh := hsides.right k (by omega) hkb
    rw [Bool.not_eq_false', decide_eq_true_eq] at hhigh
    exact hhigh

end KeyScript.Ranking
