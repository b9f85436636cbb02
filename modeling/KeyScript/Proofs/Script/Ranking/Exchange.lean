import Mathlib.Tactic.Common
import KeyScript.Script.Ranking

/-!
# Exchanges within a range

Sorting a range exchanges items within it. Whatever the exchanges are, the items outside the range
stay where they are and every item of the range has been in the range before, so that bounds on the
ranks in a range survive any exchange within it. Insertion is the first of the ways to sort a range:
one item sinks into the sorted items before it.

## Main definitions

- `Ranking.rankAt` — the rank of the item at an index
- `Ranking.Exchanged` — one array comes from the other by exchanges within a range
- `Ranking.IsSorted` — the ranks in a range do not fall

## Main results

- `Ranking.isSorted_sink` — an item sinks to its place
- `Ranking.insertionSort_spec` — insertion sorts a range
-/

namespace KeyScript.Ranking

variable {α : Type} {rank : α → Nat} {xs ys zs : Array α} {a b : Nat}

/-- The rank of the item at an index, and 0 behind the last item. -/
def rankAt (rank : α → Nat) (xs : Array α) (i : Nat) : Nat := (xs[i]?.map rank).getD 0

theorem rankAt_of_lt (rank : α → Nat) {i : Nat} (hi : i < xs.size) :
    rankAt rank xs i = rank xs[i] := by
  rw [rankAt, Array.getElem?_eq_getElem hi]
  rfl

theorem below_eq_decide (rank : α → Nat) {i j : Nat} (hi : i < xs.size) (hj : j < xs.size) :
    below rank xs i j = decide (rankAt rank xs i < rankAt rank xs j) := by
  rw [rankAt_of_lt rank hi, rankAt_of_lt rank hj, below, Array.getElem?_eq_getElem hi,
    Array.getElem?_eq_getElem hj]

theorem below_eq_true_iff (rank : α → Nat) {i j : Nat} (hi : i < xs.size) (hj : j < xs.size) :
    below rank xs i j = true ↔ rankAt rank xs i < rankAt rank xs j := by
  rw [below_eq_decide rank hi hj, decide_eq_true_eq]

theorem rankAt_swap (rank : α → Nat) {i j : Nat} (hi : i < xs.size) (hj : j < xs.size) (k : Nat) :
    rankAt rank (xs.swapIfInBounds i j) k =
      if k = i then rankAt rank xs j else if k = j then rankAt rank xs i else rankAt rank xs k := by
  rw [rankAt, Array.swapIfInBounds_def, dif_pos hi, dif_pos hj, Array.getElem?_swap]
  by_cases hkj : j = k
  · subst hkj
    rw [if_pos rfl, if_pos rfl]
    by_cases hji : j = i
    · subst hji
      rw [if_pos rfl, rankAt_of_lt rank hj]
      rfl
    · rw [if_neg hji, rankAt_of_lt rank hi]
      rfl
  by_cases hki : i = k
  · subst hki
    rw [if_neg hkj, if_pos rfl, if_pos rfl, rankAt_of_lt rank hj]
    rfl
  · rw [if_neg hkj, if_neg hki, if_neg (Ne.symm hki), if_neg (Ne.symm hkj)]
    rfl

theorem swapIfInBounds_of_not {i j : Nat} (h : ¬(i < xs.size ∧ j < xs.size)) :
    xs.swapIfInBounds i j = xs := by
  rw [Array.swapIfInBounds_def]
  by_cases hi : i < xs.size
  · rw [dif_pos hi, dif_neg fun hj => h ⟨hi, hj⟩]
  · rw [dif_neg hi]

/-- The second array comes from the first by exchanges of items from `a` up to `b`. -/
inductive Exchanged (a b : Nat) (xs : Array α) : Array α → Prop where
  | refl : Exchanged a b xs xs
  | swap {ys : Array α} {i j : Nat} (h : Exchanged a b xs ys) (hi : a ≤ i ∧ i < b)
      (hj : a ≤ j ∧ j < b) : Exchanged a b xs (ys.swapIfInBounds i j)

namespace Exchanged

theorem trans (h : Exchanged a b xs ys) (h' : Exchanged a b ys zs) : Exchanged a b xs zs := by
  induction h' with
  | refl => exact h
  | swap _ hi hj ih => exact .swap ih hi hj

theorem mono {a' b' : Nat} (h : Exchanged a b xs ys) (ha : a' ≤ a) (hb : b ≤ b') :
    Exchanged a' b' xs ys := by
  induction h with
  | refl => exact .refl
  | swap _ hi hj ih => exact .swap ih (by omega) (by omega)

theorem ite {p : Prop} [Decidable p] (hpos : Exchanged a b xs ys) (hneg : Exchanged a b xs zs) :
    Exchanged a b xs (if p then ys else zs) := by
  split
  · exact hpos
  · exact hneg

theorem size_eq (h : Exchanged a b xs ys) : ys.size = xs.size := by
  induction h with
  | refl => rfl
  | swap _ _ _ ih => rw [Array.size_swapIfInBounds, ih]

theorem perm (h : Exchanged a b xs ys) : ys.Perm xs := by
  induction h with
  | refl => exact .refl xs
  | @swap ys i j _ _ _ ih =>
    refine Array.Perm.trans ?_ ih
    rw [Array.swapIfInBounds_def]
    split
    · split
      · exact Array.swap_perm _ _
      · exact .refl ys
    · exact .refl ys

/-- The items outside the range stay where they are. -/
theorem rankAt_eq {k : Nat} (h : Exchanged a b xs ys) (hk : k < a ∨ b ≤ k) :
    rankAt rank ys k = rankAt rank xs k := by
  induction h with
  | refl => rfl
  | @swap ys i j _ hi hj ih =>
    rw [← ih]
    by_cases hsize : i < ys.size ∧ j < ys.size
    · rw [rankAt_swap rank hsize.1 hsize.2, if_neg (by omega), if_neg (by omega)]
    · rw [swapIfInBounds_of_not hsize]

/-- Every item of the range comes from the range. -/
theorem exists_rankAt_eq {k : Nat} (h : Exchanged a b xs ys) (hk : a ≤ k ∧ k < b) :
    ∃ m, (a ≤ m ∧ m < b) ∧ rankAt rank ys k = rankAt rank xs m := by
  induction h generalizing k with
  | refl => exact ⟨k, hk, rfl⟩
  | @swap ys i j _ hi hj ih =>
    by_cases hsize : i < ys.size ∧ j < ys.size
    · rw [rankAt_swap rank hsize.1 hsize.2]
      split
      · exact ih hj
      split
      · exact ih hi
      · exact ih hk
    · rw [swapIfInBounds_of_not hsize]
      exact ih hk

/-- What holds of all ranks in a range holds of them after exchanges within it. -/
theorem forall_rankAt {p : Nat → Prop} (h : Exchanged a b xs ys)
    (hall : ∀ k, a ≤ k → k < b → p (rankAt rank xs k)) :
    ∀ k, a ≤ k → k < b → p (rankAt rank ys k) := by
  intro k hak hkb
  obtain ⟨m, hm, heq⟩ := h.exists_rankAt_eq ⟨hak, hkb⟩
  rw [heq]
  exact hall m hm.1 hm.2

end Exchanged

/-- The ranks from `a` up to `b` do not fall. -/
def IsSorted (rank : α → Nat) (a b : Nat) (xs : Array α) : Prop :=
  ∀ i j, a ≤ i → i < j → j < b → rankAt rank xs i ≤ rankAt rank xs j

theorem IsSorted.congr (h : IsSorted rank a b xs)
    (heq : ∀ k, a ≤ k → k < b → rankAt rank ys k = rankAt rank xs k) : IsSorted rank a b ys := by
  intro i j hi hij hj
  rw [heq i hi (by omega), heq j (by omega) hj]
  exact h i j hi hij hj

theorem exchanged_sink (first j : Nat) (xs : Array α) :
    Exchanged first (j + 1) xs (sink rank first j xs) := by
  induction j generalizing xs with
  | zero => exact .refl
  | succ j ih =>
    rw [sink]
    split
    case isTrue h =>
      have hfirst : j + 1 > first := of_decide_eq_true (Bool.and_eq_true_iff.mp h).1
      have hswap : Exchanged first (j + 1 + 1) xs (xs.swapIfInBounds (j + 1) j) :=
        .swap .refl (by omega) (by omega)
      exact hswap.trans ((ih _).mono (Nat.le_refl _) (by omega))
    case isFalse => exact .refl

/-- An item sinks to its place if the other items are sorted and those behind it rank no lower. -/
theorem isSorted_sink {first j : Nat} (hb : b ≤ xs.size) (hj : j < b)
    (hothers : ∀ p q, first ≤ p → p < q → q < b → p ≠ j → q ≠ j →
      rankAt rank xs p ≤ rankAt rank xs q)
    (hbehind : ∀ q, j < q → q < b → rankAt rank xs j ≤ rankAt rank xs q) :
    IsSorted rank first b (sink rank first j xs) := by
  induction j generalizing xs with
  | zero =>
    intro p q hp hpq hq
    by_cases hp0 : p = 0
    · subst hp0
      exact hbehind q hpq hq
    · exact hothers p q hp hpq hq hp0 (by omega)
  | succ j ih =>
    have hnext : j + 1 < xs.size := by omega
    have hthis : j < xs.size := by omega
    have hbelow := below_eq_true_iff rank hnext hthis
    rw [sink]
    split
    case isTrue h =>
      obtain ⟨hfirst, hlt⟩ := Bool.and_eq_true_iff.mp h
      have hfirst : j + 1 > first := of_decide_eq_true hfirst
      have hlt := hbelow.mp hlt
      have hswap := rankAt_swap rank hnext hthis
      apply ih
      · rwa [Array.size_swapIfInBounds]
      · omega
      · intro p q hp hpq hq hpj hqj
        rw [hswap, hswap, if_neg hpj, if_neg hqj]
        by_cases hp' : p = j + 1
        · rw [if_pos hp', if_neg (by omega)]
          exact hothers j q (by omega) (by omega) hq (by omega) (by omega)
        by_cases hq' : q = j + 1
        · rw [if_neg hp', if_pos hq']
          exact hothers p j hp (by omega) (by omega) hp' (by omega)
        · rw [if_neg hp', if_neg hq']
          exact hothers p q hp hpq hq hp' hq'
      · intro q hjq hq
        rw [hswap, hswap, if_neg (by omega), if_pos rfl]
        by_cases hq' : q = j + 1
        · rw [if_pos hq']
          exact Nat.le_of_lt hlt
        · rw [if_neg hq', if_neg (by omega)]
          exact hbehind q (by omega) hq
    case isFalse h =>
      -- it stays behind an item that ranks no higher, or it is the first
      intro p q hp hpq hq
      by_cases hp' : p = j + 1
      · subst hp'
        exact hbehind q hpq hq
      by_cases hq' : q = j + 1
      · subst hq'
        have hle : rankAt rank xs j ≤ rankAt rank xs (j + 1) := by
          apply Nat.le_of_not_lt
          intro hlt
          have hfirst : j + 1 > first := by omega
          exact h (Bool.and_eq_true_iff.mpr ⟨decide_eq_true hfirst, hbelow.mpr hlt⟩)
        by_cases hpj : p = j
        · subst hpj
          exact hle
        · exact Nat.le_trans (hothers p j hp (by omega) (by omega) hp' (by omega)) hle
      · exact hothers p q hp hpq hq hp' hq'

theorem isSorted_of_le (h : b ≤ a + 1) : IsSorted rank a b xs := by
  intro i j hi hij hj
  omega

/-- The items up to the next one are sorted at every step of an insertion. -/
theorem foldl_sink_spec (rank : α → Nat) {n : Nat} (hn : a + n ≤ xs.size) :
    Exchanged a (a + n) xs ((List.range n).foldl (fun ys k => sink rank a (a + k) ys) xs) ∧
      IsSorted rank a (a + n)
        ((List.range n).foldl (fun ys k => sink rank a (a + k) ys) xs) := by
  induction n with
  | zero => exact ⟨.refl, isSorted_of_le (by omega)⟩
  | succ n ih =>
    obtain ⟨hexchanged, hsorted⟩ := ih (by omega)
    rw [List.range_succ, List.foldl_append, List.foldl_cons, List.foldl_nil]
    refine ⟨(hexchanged.mono (Nat.le_refl _) (by omega)).trans (exchanged_sink _ _ _), ?_⟩
    apply isSorted_sink
    · rw [hexchanged.size_eq]
      omega
    · omega
    · intro p q hp hpq hq _ hq'
      exact hsorted p q hp hpq (by omega)
    · intro q hq hq'
      omega

/-- Insertion sorts a range. -/
theorem insertionSort_spec (rank : α → Nat) (hb : b ≤ xs.size) :
    Exchanged a b xs (insertionSort rank a b xs) ∧
      IsSorted rank a b (insertionSort rank a b xs) := by
  rw [insertionSort]
  by_cases hab : a ≤ b
  · have hsteps := foldl_sink_spec rank (show a + (b - a) ≤ xs.size by omega)
    rwa [Nat.add_sub_cancel' hab] at hsteps
  · rw [Nat.sub_eq_zero_of_le (by omega)]
    exact ⟨.refl, isSorted_of_le (by omega)⟩

end KeyScript.Ranking
