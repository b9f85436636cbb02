import KeyScript.Script.Vocabulary
import KeyScript.Proofs.Script.Ranking.Division
import KeyScript.Proofs.Script.Ranking.Heap

/-!
# Ranking sorts the items

A long range is divided around a pivot and its sides are sorted, unless it could be repaired by
moving a few items. All of this happens by exchanges within the range. One step relies on more than
the range: an item that is repaired sinks without a look at where the range begins, and stops there
only since no item of the range ranks below the one before it. The divisions keep this bound.

## Main definitions

- `Ranking.IsBounded` — no item of a range ranks below the one before it
- `Ranking.SortsRanges` — sorting with some fuel sorts the ranges that are not too long

## Main results

- `Ranking.repairRange_spec` — a range is sorted after a repair that says so
- `Ranking.sortRange_spec` — sorting a range sorts it by exchanges within it
- `Ranking.sort_perm`, `Ranking.pairwise_sort` — a ranked list has the items of the list, in order
- `mem_startWords_of_mem_suggest` — only words of the vocabulary are suggested
-/

namespace KeyScript

namespace Ranking

variable {α : Type} {rank : α → Nat} {xs ys : Array α} {a b i j : Nat}

theorem exchanged_reverseRange (fuel : Nat) (hi : a ≤ i) (hj : j < b) :
    Exchanged a b xs (reverseRange fuel i j xs) := by
  induction fuel generalizing i j xs with
  | zero => exact .refl
  | succ fuel ih =>
    rw [reverseRange]
    split
    · have hswap : Exchanged a b xs (xs.swapIfInBounds i j) := .swap .refl (by omega) (by omega)
      exact hswap.trans (ih (by omega) (by omega))
    · exact .refl

theorem exchanged_rise (rank : α → Nat) (fuel : Nat) (hj : a < j) :
    Exchanged a b xs (rise rank b fuel j xs) := by
  induction fuel generalizing j xs with
  | zero => exact .refl
  | succ fuel ih =>
    rw [rise]
    split
    case isTrue h =>
      have hlt : j < b := of_decide_eq_true (Bool.and_eq_true_iff.mp h).1
      have hswap : Exchanged a b xs (xs.swapIfInBounds j (j - 1)) :=
        .swap .refl (by omega) (by omega)
      exact hswap.trans (ih (by omega))
    case isFalse => exact .refl

theorem exchanged_breakPattern (hab : a ≤ b) : Exchanged a b xs (breakPattern a b xs) := by
  rw [breakPattern]
  extract_lets middle modulus other r s t first second
  split
  · exact .refl
  case isFalse hlength =>
    have hmodulus : modulus ≤ 2 * (b - a) := by
      have hlog : 2 ^ Nat.log2 (b - a) ≤ b - a := Nat.log2_self_le (by omega)
      have hpow : modulus = 2 ^ Nat.log2 (b - a) * 2 := Nat.pow_succ 2 _
      omega
    have hother : ∀ r, a ≤ other r ∧ other r < b := by
      intro r
      have hlt : r.toNat % modulus < modulus := Nat.mod_lt _ (Nat.two_pow_pos _)
      simp only [other]
      split <;> omega
    have hmiddle : a < middle ∧ middle + 1 < b := by omega
    have hfirst : Exchanged a b xs first := .swap .refl (by omega) (hother r)
    have hsecond : Exchanged a b xs second := .swap hfirst (by omega) (hother s)
    exact .swap hsecond (by omega) (hother t)

theorem order_spec {p : Nat → Prop} (rank : α → Nat) (xs : Array α) (count : Nat) (hi : p i)
    (hj : p j) : p (order rank xs i j count).1 ∧ p (order rank xs i j count).2.1 := by
  rw [order]
  split
  · exact ⟨hj, hi⟩
  · exact ⟨hi, hj⟩

/-- The median of three items is one of them. -/
theorem median_spec {p : Nat → Prop} {k : Nat} (rank : α → Nat) (xs : Array α) (count : Nat)
    (hi : p i) (hj : p j) (hk : p k) : p (median rank xs i j k count).1 := by
  have hfirst := order_spec rank xs count hi hj
  have hsecond := order_spec rank xs (order rank xs i j count).2.2 hfirst.2 hk
  exact (order_spec rank xs _ hfirst.1 hsecond.1).2

theorem choosePivot_spec (rank : α → Nat) (xs : Array α) (h : 8 ≤ b - a) :
    a ≤ (choosePivot rank a b xs).1 ∧ (choosePivot rank a b xs).1 < b := by
  have hmedian : ∀ i j k count, a ≤ i ∧ i < b → a ≤ j ∧ j < b → a ≤ k ∧ k < b →
      a ≤ (median rank xs i j k count).1 ∧ (median rank xs i j k count).1 < b := by
    intro i j k count hi hj hk
    exact median_spec (p := fun m => a ≤ m ∧ m < b) rank xs count hi hj hk
  rw [choosePivot]
  by_cases hlong : b - a ≥ longRange
  · rw [if_pos hlong]
    apply hmedian
    · apply hmedian <;> omega
    · apply hmedian <;> omega
    · apply hmedian <;> omega
  · rw [if_neg hlong, if_pos h]
    apply hmedian <;> omega

/-- No item from `a` up to `b` ranks below the one before `a`, if there is one. -/
def IsBounded (rank : α → Nat) (a b : Nat) (xs : Array α) : Prop :=
  0 < a → ∀ k, a ≤ k → k < b → rankAt rank xs (a - 1) ≤ rankAt rank xs k

theorem IsBounded.exchanged (h : IsBounded rank a b xs) (hexchanged : Exchanged a b xs ys) :
    IsBounded rank a b ys := by
  intro ha
  rw [hexchanged.rankAt_eq (.inl (by omega))]
  exact hexchanged.forall_rankAt (p := (rankAt rank xs (a - 1) ≤ ·)) (h ha)

/-- An item that sinks does not leave a range with this bound. -/
theorem sink_zero_eq (hb : b ≤ xs.size) (haj : a ≤ j) (hjb : j < b) (h : IsBounded rank a b xs) :
    sink rank 0 j xs = sink rank a j xs := by
  induction j generalizing xs with
  | zero => rfl
  | succ j ih =>
    rw [sink, sink]
    by_cases hfirst : a = j + 1
    · subst hfirst
      have hbelow : below rank xs (j + 1) j = false := by
        rw [below_eq_decide rank (by omega) (by omega)]
        exact decide_eq_false (Nat.not_lt.mpr (h (Nat.succ_pos j) (j + 1) haj hjb))
      rw [hbelow, Bool.and_false, Bool.and_false, if_neg Bool.false_ne_true,
        if_neg Bool.false_ne_true]
    · have hswap : Exchanged a b xs (xs.swapIfInBounds (j + 1) j) :=
        .swap .refl (by omega) (by omega)
      have hrest := ih (by rwa [hswap.size_eq]) (by omega) (by omega) (h.exchanged hswap)
      have hzero : decide (j + 1 > 0) = true := decide_eq_true (by omega)
      have hstart : decide (j + 1 > a) = true := decide_eq_true (by omega)
      rw [hrest, hzero, hstart]

theorem IsSorted.extend {n : Nat} (h : IsSorted rank a i xs) (hai : a < i)
    (hsteps : ∀ k, i ≤ k → k < n → rankAt rank xs (k - 1) ≤ rankAt rank xs k) :
    IsSorted rank a n xs := by
  induction n with
  | zero =>
    intro p q _ _ hq
    omega
  | succ n ih =>
    have hn := ih fun k hk hkn => hsteps k hk (by omega)
    intro p q hp hpq hq
    by_cases hqi : q < i
    · exact h p q hp hpq hqi
    by_cases hqn : q < n
    · exact hn p q hp hpq hqn
    have hstep := hsteps q (by omega) hq
    by_cases hpq' : p = q - 1
    · rwa [hpq']
    · exact Nat.le_trans (hn p (q - 1) hp (by omega) (by omega)) hstep

/-- An item that was moved to the end of sorted items sinks to its place among them. -/
theorem sink_into_sorted (hb : b ≤ xs.size) (hai : a < i) (hib : i < b)
    (hbounded : IsBounded rank a b xs) (hsorted : IsSorted rank a (i - 1) xs) :
    Exchanged a b xs (if i - a ≥ 2 then sink rank 0 (i - 1) xs else xs) ∧
      IsSorted rank a i (if i - a ≥ 2 then sink rank 0 (i - 1) xs else xs) := by
  split
  · rw [sink_zero_eq hb (by omega) (by omega) hbounded]
    refine ⟨(exchanged_sink a (i - 1) xs).mono (Nat.le_refl _) (by omega), ?_⟩
    apply isSorted_sink
    · omega
    · omega
    · intro p q hp hpq hq _ hqi
      exact hsorted p q hp hpq (by omega)
    · omega
  · exact ⟨.refl, isSorted_of_le (by omega)⟩

/-- Moving a few items leaves a range sorted if it says so: the items before the next one that is
out of order are sorted at every step. -/
theorem repairRange_spec (rank : α → Nat) (steps : Nat) (hb : b ≤ xs.size) (hai : a < i)
    (hib : i ≤ b) (hbounded : IsBounded rank a b xs) (hsorted : IsSorted rank a i xs) :
    Exchanged a b xs (repairRange rank a b steps i xs).2 ∧
      ((repairRange rank a b steps i xs).1 = true →
        IsSorted rank a b (repairRange rank a b steps i xs).2) := by
  induction steps generalizing i xs with
  | zero => exact ⟨.refl, fun h => absurd h Bool.false_ne_true⟩
  | succ steps ih =>
    obtain ⟨hnext, hpassed, hstop⟩ := ascend_spec (fun k => !below rank xs k (k - 1))
      (show i ≤ b - 1 + 1 by omega) (show b - 1 < i + (xs.size + 1) by omega)
    rw [repairRange]
    generalize ascend (fun k => !below rank xs k (k - 1)) (xs.size + 1) i (b - 1) = next at *
    have hsorted : IsSorted rank a next xs := by
      apply hsorted.extend hai
      intro k hk hkn
      have hk' := hpassed k hk hkn
      rw [below_eq_decide rank (by omega) (by omega), Bool.not_eq_true',
        decide_eq_false_iff_not] at hk'
      exact Nat.le_of_not_lt hk'
    extract_lets moved sunk risen
    by_cases hdone : next ≥ b
    · rw [if_pos hdone]
      obtain rfl : next = b := by omega
      exact ⟨.refl, fun _ => hsorted⟩
    rw [if_neg hdone]
    split
    · exact ⟨.refl, fun h => absurd h Bool.false_ne_true⟩
    have hmoved : Exchanged a b xs moved := .swap .refl (by omega) (by omega)
    have hsunk : Exchanged a b moved sunk ∧ IsSorted rank a next sunk := by
      apply sink_into_sorted
      · rwa [hmoved.size_eq]
      · omega
      · omega
      · exact hbounded.exchanged hmoved
      · intro p q hp hpq hq
        have hswap := rankAt_swap rank (show next < xs.size by omega)
          (show next - 1 < xs.size by omega)
        rw [hswap, hswap, if_neg (by omega), if_neg (by omega), if_neg (by omega),
          if_neg (by omega)]
        exact hsorted p q hp hpq (by omega)
    have hrisen : Exchanged next b sunk risen := by
      exact .ite (exchanged_rise rank _ (Nat.lt_succ_self next)) .refl
    have hall : Exchanged a b xs risen :=
      (hmoved.trans hsunk.1).trans (hrisen.mono (by omega) (Nat.le_refl _))
    obtain ⟨hrest, hfinal⟩ := ih (by rwa [hall.size_eq]) (by omega) (by omega)
      (hbounded.exchanged hall)
      (hsunk.2.congr fun k _ hk => hrisen.rankAt_eq (.inl hk))
    exact ⟨hall.trans hrest, hfinal⟩

theorem IsDivided.isBounded {mid : Nat} (h : IsDivided rank a b mid xs) :
    IsBounded rank (mid + 1) b xs := by
  intro _ k hk hkb
  exact h.right k hk hkb

/-- Sorting the items above the pivot sorts a range in which nothing ranks below it. -/
theorem sort_above {mid r : Nat} (hmid : a < mid ∧ mid ≤ b)
    (hequal : ∀ k, a ≤ k → k < mid → rankAt rank xs k = r)
    (hhigh : ∀ k, mid ≤ k → k < b → r < rankAt rank xs k)
    (hright : Exchanged mid b xs ys ∧ IsSorted rank mid b ys) :
    Exchanged a b xs ys ∧ IsSorted rank a b ys := by
  refine ⟨hright.1.mono (by omega) (Nat.le_refl b), ?_⟩
  have hequal' : ∀ k, a ≤ k → k < mid → rankAt rank ys k = r := by
    intro k hk hkm
    rw [hright.1.rankAt_eq (.inl hkm)]
    exact hequal k hk hkm
  have hhigh' := hright.1.forall_rankAt (p := (r < ·)) hhigh
  intro i j hi hij hj
  by_cases him : mid ≤ i
  · exact hright.2 i j him hij hj
  rw [hequal' i hi (by omega)]
  by_cases hjm : j < mid
  · exact Nat.le_of_eq (hequal' j (by omega) hjm).symm
  · exact Nat.le_of_lt (hhigh' j (by omega) hj)

theorem IsBounded.left {mid : Nat} (h : IsBounded rank a b xs) (hmid : mid ≤ b) :
    IsBounded rank a mid xs :=
  fun ha k hk hkm => h ha k hk (Nat.lt_of_lt_of_le hkm hmid)

/-- A range that is repaired, or left alone, is sorted if it says so. -/
theorem repairIf_spec {wanted : Bool} (hab : a < b) (hb : b ≤ xs.size)
    (hbounded : IsBounded rank a b xs) {sorted : Bool}
    (h : (if wanted then repairRange rank a b maxRepairs (a + 1) xs else (false, xs)) =
      (sorted, ys)) :
    Exchanged a b xs ys ∧ (sorted = true → IsSorted rank a b ys) := by
  split at h
  · have hspec := repairRange_spec rank maxRepairs hb (Nat.lt_succ_self a) hab hbounded
      (isSorted_of_le (Nat.le_refl _))
    rwa [h] at hspec
  · cases h
    exact ⟨.refl, fun h => absurd h Bool.false_ne_true⟩

/-- Sorting with some fuel leaves ranges sorted, by exchanges within them, if they are not too long.
A range must not begin below the item before it, as the ranges that a division leaves do not. -/
def SortsRanges (rank : α → Nat) (fuel : Nat) : Prop :=
  ∀ {a b : Nat} {xs : Array α} (limit : Nat) (balanced divided : Bool), b - a < fuel →
    b ≤ xs.size → IsBounded rank a b xs →
    Exchanged a b xs (sortRange rank fuel a b limit balanced divided xs) ∧
      IsSorted rank a b (sortRange rank fuel a b limit balanced divided xs)

section Sides

variable {fuel mid pivot : Nat} (h : SortsRanges rank fuel) (hfuel : b - a ≤ fuel)
  (hb : b ≤ xs.size) (hbounded : IsBounded rank a b xs) (limit : Nat) (balanced divided : Bool)

include h hfuel hb hbounded

/-- If nothing ranks below the pivot, it is enough to sort the items above it. -/
theorem SortsRanges.above (hpivot : a ≤ pivot ∧ pivot < b)
    (hlowest : (a > 0 && !below rank xs (a - 1) pivot) = true) :
    let parts := divideEqual rank a b pivot xs
    Exchanged a b xs (sortRange rank fuel parts.1 b limit balanced divided parts.2) ∧
      IsSorted rank a b (sortRange rank fuel parts.1 b limit balanced divided parts.2) := by
  obtain ⟨mid, ys, heq, hmid, hdivide, hlow, hhigh⟩ := divideEqual_spec rank hb hpivot
  have hsize := hdivide.size_eq
  rw [heq]
  -- The items before `mid` do not rank above the pivot, so they have its rank.
  have hsame : ∀ k, a ≤ k → k < mid → rankAt rank ys k = rankAt rank xs pivot := by
    obtain ⟨hpos, hnot⟩ := Bool.and_eq_true_iff.mp hlowest
    have hpos : a > 0 := of_decide_eq_true hpos
    rw [below_eq_decide rank (by omega) (by omega), Bool.not_eq_true',
      decide_eq_false_iff_not] at hnot
    intro k hk hkm
    have hbound := hbounded.exchanged hdivide hpos k hk (by omega)
    rw [hdivide.rankAt_eq (.inl (by omega))] at hbound
    have hle := hlow k hk hkm
    omega
  have hmidBounded : IsBounded rank mid b ys := by
    intro _ k hk hkb
    rw [hsame (mid - 1) (by omega) (by omega)]
    exact Nat.le_of_lt (hhigh k hk hkb)
  have hrest := sort_above hmid hsame hhigh
    (h limit balanced divided (by omega) (by omega) hmidBounded)
  exact ⟨hdivide.trans hrest.1, hrest.2⟩

/-- The sides of a division, the left one first. -/
theorem SortsRanges.left_right (hmid : a ≤ mid ∧ mid < b) (hsides : IsDivided rank a b mid xs) :
    let left := sortRange rank fuel a mid limit true true xs
    Exchanged a b xs (sortRange rank fuel (mid + 1) b limit balanced divided left) ∧
      IsSorted rank a b (sortRange rank fuel (mid + 1) b limit balanced divided left) := by
  have hleft := h limit true true (by omega) (by omega) (hbounded.left (Nat.le_of_lt hmid.2))
  have hright := h limit balanced divided (by omega) (by rw [hleft.1.size_eq]; omega)
    (hsides.exchanged_left hleft.1).isBounded
  exact hsides.sort_left_right hmid hleft hright

/-- The sides of a division, the right one first. -/
theorem SortsRanges.right_left (hmid : a ≤ mid ∧ mid < b) (hsides : IsDivided rank a b mid xs) :
    let right := sortRange rank fuel (mid + 1) b limit true true xs
    Exchanged a b xs (sortRange rank fuel a mid limit balanced divided right) ∧
      IsSorted rank a b (sortRange rank fuel a mid limit balanced divided right) := by
  have hright := h limit true true (by omega) hb hsides.isBounded
  have hkept : IsBounded rank a mid (sortRange rank fuel (mid + 1) b limit true true xs) := by
    intro ha k hk hkm
    rw [hright.1.rankAt_eq (.inl (by omega)), hright.1.rankAt_eq (.inl (by omega))]
    exact hbounded ha k hk (by omega)
  have hleft := h limit balanced divided (by omega) (by rw [hright.1.size_eq]; omega) hkept
  exact hsides.sort_right_left hmid hright hleft

end Sides

/-- Sorting a range leaves it sorted, by exchanges within it. -/
theorem sortRange_spec (rank : α → Nat) (fuel : Nat) : SortsRanges rank fuel := by
  induction fuel with
  | zero =>
    intro a b xs limit balanced divided hfuel
    omega
  | succ fuel ih =>
    intro a b xs limit balanced divided hfuel hb hbounded
    rw [sortRange]
    by_cases hshort : b - a ≤ shortRange
    · rw [if_pos hshort]
      exact insertionSort_spec rank hb
    rw [if_neg hshort]
    have hlong : 12 < b - a := Nat.lt_of_not_le hshort
    by_cases hlimit : limit = 0
    · rw [if_pos hlimit]
      exact heapSort_spec rank (by omega) hb
    rw [if_neg hlimit]
    extract_lets broken limit threshold
    -- Breaking a pattern, turning the range and repairing it are exchanges that keep the bound.
    have hbroken : Exchanged a b xs broken := .ite .refl (exchanged_breakPattern (by omega))
    have hchosen := choosePivot_spec rank broken (show 8 ≤ b - a by omega)
    split
    next chosen count hchoose =>
    rw [hchoose] at hchosen
    extract_lets falling turned pivot
    have hturned : Exchanged a b xs turned :=
      hbroken.trans (.ite (exchanged_reverseRange _ (Nat.le_refl a) (by omega)) .refl)
    have hpivot : a ≤ pivot ∧ pivot < b := by
      simp only [pivot]
      split <;> omega
    split
    next sorted ys hrepair =>
    have hys := repairIf_spec (by omega) (by rwa [hturned.size_eq]) (hbounded.exchanged hturned)
      hrepair
    have hall := hturned.trans hys.1
    have hb' : b ≤ ys.size := by rwa [hall.size_eq]
    have hbounded' := hbounded.exchanged hall
    by_cases hdone : sorted = true
    · rw [if_pos hdone]
      exact ⟨hall, hys.2 hdone⟩
    rw [if_neg hdone]
    split
    case isTrue hlowest =>
      refine And.imp_left hall.trans ?_
      exact ih.above (by omega) hb' hbounded' limit balanced divided hpivot hlowest
    case isFalse =>
      obtain ⟨mid, divided, zs, heq, hmid, hdivide, hsides⟩ := divide_spec rank hb' hpivot
      have hsize := hdivide.size_eq
      have hbounded'' := hbounded'.exchanged hdivide
      rw [heq]
      dsimp only
      split <;> refine And.imp_left (hall.trans hdivide).trans ?_
      · exact ih.left_right (by omega) (by omega) hbounded'' limit _ divided hmid hsides
      · exact ih.right_left (by omega) (by omega) hbounded'' limit _ divided hmid hsides

theorem sort_spec (rank : α → Nat) (items : List α) :
    Exchanged 0 items.length items.toArray (sort rank items).toArray ∧
      IsSorted rank 0 items.length (sort rank items).toArray := by
  have hbounded : IsBounded rank 0 items.length items.toArray := fun h => absurd h (Nat.lt_irrefl 0)
  rw [sort, Array.toArray_toList, List.size_toArray]
  exact sortRange_spec rank _ _ true true (by omega) (Nat.le_refl _) hbounded

/-- A ranked list has the items of the list, each as often as before. -/
theorem sort_perm (rank : α → Nat) (items : List α) : (sort rank items).Perm items :=
  (sort_spec rank items).1.perm.toList

/-- The ranks of a ranked list do not fall. -/
theorem pairwise_sort (rank : α → Nat) (items : List α) :
    (sort rank items).Pairwise fun v w => rank v ≤ rank w := by
  have hlength := (sort_perm rank items).length_eq
  rw [List.pairwise_iff_getElem]
  intro i j hi hj hij
  have hle := (sort_spec rank items).2 i j (Nat.zero_le i) hij (by omega)
  have hi' : i < (sort rank items).toArray.size := hi
  have hj' : j < (sort rank items).toArray.size := hj
  rwa [rankAt_of_lt rank hi', rankAt_of_lt rank hj', List.getElem_toArray,
    List.getElem_toArray] at hle

end Ranking

/-- Only words that may start a line are suggested. -/
theorem mem_startWords_of_mem_suggest {token word : Bytes} (h : word ∈ suggest token) :
    word ∈ startWords := by
  rw [suggest] at h
  split at h
  · have hmem := (List.mergeSort_perm _ _).mem_iff.mp (List.mem_of_mem_take h)
    exact (List.mem_filter.mp hmem).1
  · have hmem := (Ranking.sort_perm _ _).mem_iff.mp (List.mem_of_mem_take h)
    exact (List.mem_filter.mp hmem).1

end KeyScript
