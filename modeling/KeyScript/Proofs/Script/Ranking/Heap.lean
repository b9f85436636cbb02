import KeyScript.Proofs.Script.Ranking.Exchange

/-!
# Sorting with a heap

A range is a heap if no item ranks above its parent. Moving an item down repairs a heap that is
wrong at this item only, so that the range becomes a heap from its last parent to its first item.
The first item of a heap ranks highest, and it is moved behind the others again and again.

## Main definitions

- `Ranking.IsHeap` — a range is a heap, from some parent on
- `Ranking.IsHeapBut` — a heap that may be wrong at the children of one item

## Main results

- `Ranking.isHeap_siftDown` — moving an item down makes a heap
- `Ranking.heapSort_spec` — a range is sorted with a heap
-/

namespace KeyScript.Ranking

variable {α : Type} {rank : α → Nat} {xs ys : Array α} {a b first size root : Nat}

/-- The one index is a child of the other, both counted from the first item of a heap. -/
def IsChild (p c : Nat) : Prop := c = 2 * p + 1 ∨ c = 2 * p + 2

theorem IsChild.lt {p c : Nat} (h : IsChild p c) : p < c := by
  unfold IsChild at h
  omega

theorem IsChild.eq {p q c : Nat} (hp : IsChild p c) (hq : IsChild q c) : p = q := by
  unfold IsChild at hp hq
  omega

/-- The `size` items from `first` on are a heap at the parents from `root` on. -/
def IsHeap (rank : α → Nat) (first size root : Nat) (xs : Array α) : Prop :=
  ∀ p c, root ≤ p → IsChild p c → c < size →
    rankAt rank xs (first + c) ≤ rankAt rank xs (first + p)

/-- A heap at all parents from `root` on except for `hole`, whose children may rank above it but
not above its own parent. -/
structure IsHeapBut (rank : α → Nat) (first size root hole : Nat) (xs : Array α) : Prop where
  others : ∀ p c, root ≤ p → p ≠ hole → IsChild p c → c < size →
    rankAt rank xs (first + c) ≤ rankAt rank xs (first + p)
  grand : ∀ p c, root ≤ p → IsChild p hole → IsChild hole c → c < size →
    rankAt rank xs (first + c) ≤ rankAt rank xs (first + p)

/-- The child that takes the place of its parent. -/
def greaterChild (rank : α → Nat) (first size root : Nat) (xs : Array α) : Nat :=
  if 2 * root + 1 + 1 < size &&
      below rank xs (first + (2 * root + 1)) (first + (2 * root + 1) + 1) then 2 * root + 1 + 1
  else 2 * root + 1

theorem siftDown_succ (fuel : Nat) :
    siftDown rank first size (fuel + 1) root xs =
      if 2 * root + 1 ≥ size then xs
      else if below rank xs (first + root) (first + greaterChild rank first size root xs) then
        siftDown rank first size fuel (greaterChild rank first size root xs)
          (xs.swapIfInBounds (first + root) (first + greaterChild rank first size root xs))
      else xs := rfl

theorem greaterChild_spec (rank : α → Nat) (hsize : first + size ≤ xs.size)
    (hleft : 2 * root + 1 < size) :
    IsChild root (greaterChild rank first size root xs) ∧
      greaterChild rank first size root xs < size ∧
      ∀ c, IsChild root c → c < size →
        rankAt rank xs (first + c) ≤
          rankAt rank xs (first + greaterChild rank first size root xs) := by
  rw [greaterChild]
  split
  case isTrue h =>
    obtain ⟨hright, hbelow⟩ := Bool.and_eq_true_iff.mp h
    have hright : 2 * root + 1 + 1 < size := of_decide_eq_true hright
    rw [below_eq_true_iff rank (by omega) (by omega)] at hbelow
    refine ⟨.inr rfl, hright, ?_⟩
    intro c hc hlt
    obtain rfl | rfl := hc
    · exact Nat.le_of_lt hbelow
    · exact Nat.le_refl _
  case isFalse h =>
    refine ⟨.inl rfl, hleft, ?_⟩
    intro c hc hlt
    obtain rfl | rfl := hc
    · exact Nat.le_refl _
    · apply Nat.le_of_not_lt
      intro hbelow
      rw [← below_eq_true_iff rank (by omega) (by omega)] at hbelow
      exact h (Bool.and_eq_true_iff.mpr ⟨decide_eq_true hlt, hbelow⟩)

theorem exchanged_siftDown (rank : α → Nat) (fuel root : Nat) (hsize : first + size ≤ xs.size) :
    Exchanged first (first + size) xs (siftDown rank first size fuel root xs) := by
  induction fuel generalizing root xs with
  | zero => exact .refl
  | succ fuel ih =>
    rw [siftDown_succ]
    by_cases hleft : 2 * root + 1 ≥ size
    · rw [if_pos hleft]
      exact .refl
    rw [if_neg hleft]
    obtain ⟨hchild, hlt, -⟩ := greaterChild_spec rank hsize (Nat.lt_of_not_le hleft)
    generalize greaterChild rank first size root xs = child at *
    have hroot := hchild.lt
    split
    · have hswap : Exchanged first (first + size) xs
          (xs.swapIfInBounds (first + root) (first + child)) :=
        .swap .refl (by omega) (by omega)
      exact hswap.trans (ih child (by rwa [Array.size_swapIfInBounds]))
    · exact .refl

/-- One move down: the child that ranks highest takes the place of its parent. -/
theorem IsHeapBut.move {hole child : Nat} (h : IsHeapBut rank first size root hole xs)
    (hroot : root ≤ hole) (hsize : first + size ≤ xs.size) (hchild : IsChild hole child)
    (hlt : child < size) (hbelow : rankAt rank xs (first + hole) < rankAt rank xs (first + child))
    (hgreatest : ∀ c, IsChild hole c → c < size →
      rankAt rank xs (first + c) ≤ rankAt rank xs (first + child)) :
    IsHeapBut rank first size root child
      (xs.swapIfInBounds (first + hole) (first + child)) := by
  have hhole := hchild.lt
  have hswap := rankAt_swap rank (show first + hole < xs.size by omega)
    (show first + child < xs.size by omega)
  generalize xs.swapIfInBounds (first + hole) (first + child) = ys at *
  have hup : rankAt rank ys (first + hole) = rankAt rank xs (first + child) := by
    rw [hswap, if_pos rfl]
  have hdown : rankAt rank ys (first + child) = rankAt rank xs (first + hole) := by
    rw [hswap, if_neg (by omega), if_pos rfl]
  have hsame : ∀ k, k ≠ hole → k ≠ child →
      rankAt rank ys (first + k) = rankAt rank xs (first + k) := by
    intro k hk hk'
    rw [hswap, if_neg (by omega), if_neg (by omega)]
  constructor
  · intro p c hp hne hpc hc
    have hpc' := hpc.lt
    by_cases hph : p = hole
    · subst hph
      rw [hup]
      by_cases hcc : c = child
      · rw [hcc, hdown]
        exact Nat.le_of_lt hbelow
      · rw [hsame c (by omega) hcc]
        exact hgreatest c hpc hc
    · rw [hsame p hph hne]
      by_cases hch : c = hole
      · rw [hch, hup]
        exact h.grand p child hp (hch ▸ hpc) hchild hlt
      · have hcc : c ≠ child := by
          intro heq
          exact hph (hpc.eq (heq ▸ hchild))
        rw [hsame c hch hcc]
        exact h.others p c hp hph hpc hc
  · intro p c hp hpc hcc hc
    have hcc' := hcc.lt
    obtain rfl : p = hole := hpc.eq hchild
    rw [hup, hsame c (by omega) (by omega)]
    exact h.others child c (by omega) (by omega) hcc hc

theorem IsHeapBut.isHeap {hole : Nat} (h : IsHeapBut rank first size root hole xs)
    (hhole : ∀ c, IsChild hole c → c < size →
      rankAt rank xs (first + c) ≤ rankAt rank xs (first + hole)) :
    IsHeap rank first size root xs := by
  intro p c hp hpc hc
  by_cases hph : p = hole
  · subst hph
    exact hhole c hpc hc
  · exact h.others p c hp hph hpc hc

/-- Moving an item down makes a heap of one that is wrong at this item only. -/
theorem isHeap_siftDown {fuel hole : Nat} (hfuel : size ≤ hole + fuel) (hroot : root ≤ hole)
    (hsize : first + size ≤ xs.size) (h : IsHeapBut rank first size root hole xs) :
    IsHeap rank first size root (siftDown rank first size fuel hole xs) := by
  induction fuel generalizing hole xs with
  | zero =>
    rw [siftDown]
    apply h.isHeap
    intro c hc hlt
    have hlt' := hc.lt
    omega
  | succ fuel ih =>
    rw [siftDown_succ]
    by_cases hleft : 2 * hole + 1 ≥ size
    · rw [if_pos hleft]
      apply h.isHeap
      intro c hc hlt
      unfold IsChild at hc
      omega
    rw [if_neg hleft]
    obtain ⟨hchild, hlt, hgreatest⟩ := greaterChild_spec rank hsize (Nat.lt_of_not_le hleft)
    generalize greaterChild rank first size hole xs = child at *
    have hhole := hchild.lt
    have hbelow := below_eq_true_iff rank (show first + hole < xs.size by omega)
      (show first + child < xs.size by omega)
    split
    case isTrue hup =>
      apply ih
      · omega
      · omega
      · rwa [Array.size_swapIfInBounds]
      · exact h.move hroot hsize hchild hlt (hbelow.mp hup) hgreatest
    case isFalse hstay =>
      apply h.isHeap
      intro c hc hlt
      exact Nat.le_trans (hgreatest c hc hlt) (Nat.le_of_not_lt (mt hbelow.mpr hstay))

/-- The first item of a heap ranks highest. -/
theorem IsHeap.le_first (h : IsHeap rank first size 0 xs) {c : Nat} (hc : c < size) :
    rankAt rank xs (first + c) ≤ rankAt rank xs first := by
  induction c using Nat.strongRecOn with
  | ind c ih =>
    by_cases hc0 : c = 0
    · subst hc0
      exact Nat.le_refl _
    · have hparent : IsChild ((c - 1) / 2) c := by
        unfold IsChild
        omega
      have hle := h _ c (Nat.zero_le _) hparent hc
      have hlt := hparent.lt
      exact Nat.le_trans hle (ih _ hlt (by omega))

/-- The range becomes a heap at one parent after the other, from the last to the first. -/
theorem foldl_siftDown_spec (hsize : first + size ≤ xs.size) {n : Nat}
    (h : IsHeap rank first size n xs) :
    Exchanged first (first + size) xs ((List.range n).reverse.foldl
        (fun ys root => siftDown rank first size size root ys) xs) ∧
      IsHeap rank first size 0 ((List.range n).reverse.foldl
        (fun ys root => siftDown rank first size size root ys) xs) := by
  induction n generalizing xs with
  | zero => exact ⟨.refl, h⟩
  | succ n ih =>
    rw [List.range_succ, List.reverse_concat, List.foldl_cons]
    have hbut : IsHeapBut rank first size n n xs := by
      constructor
      · intro p c hp hne hpc hc
        exact h p c (by omega) hpc hc
      · intro p c hp hpn _ _
        have hlt := hpn.lt
        omega
    have hexchanged := exchanged_siftDown rank size n hsize
    have hheap := isHeap_siftDown (show size ≤ n + size by omega) (Nat.le_refl n) hsize hbut
    obtain ⟨hrest, hfinal⟩ := ih (by rwa [hexchanged.size_eq]) hheap
    exact ⟨hexchanged.trans hrest, hfinal⟩

/-- The first `n` items are a heap, and the items behind them are sorted and rank no lower. -/
structure IsDrained (rank : α → Nat) (first size n : Nat) (xs : Array α) : Prop where
  heap : IsHeap rank first n 0 xs
  sorted : IsSorted rank (first + n) (first + size) xs
  bounded : ∀ i j, i < n → n ≤ j → j < size →
    rankAt rank xs (first + i) ≤ rankAt rank xs (first + j)

theorem IsDrained.step {n : Nat} (h : IsDrained rank first size (n + 1) xs) (hn : n < size)
    (hsize : first + size ≤ xs.size) :
    IsDrained rank first size n
      (siftDown rank first n size 0 (xs.swapIfInBounds first (first + n))) := by
  have hexchanged : Exchanged first (first + (n + 1)) xs (xs.swapIfInBounds first (first + n)) :=
    .swap .refl (by omega) (by omega)
  have hswap := rankAt_swap rank (show first < xs.size by omega)
    (show first + n < xs.size by omega)
  have hsize' : first + n ≤ (xs.swapIfInBounds first (first + n)).size := by
    rw [Array.size_swapIfInBounds]
    omega
  generalize xs.swapIfInBounds first (first + n) = ys at *
  have hlast : rankAt rank ys (first + n) = rankAt rank xs first := by
    rw [hswap]
    split
    case isTrue heq => rw [heq]
    case isFalse => rw [if_pos rfl]
  have hsame : ∀ k, k ≠ first → k ≠ first + n → rankAt rank ys k = rankAt rank xs k := by
    intro k hk hk'
    rw [hswap, if_neg hk, if_neg hk']
  have hbut : IsHeapBut rank first n 0 0 ys := by
    constructor
    · intro p c hp hne hpc hc
      have hlt := hpc.lt
      rw [hsame _ (by omega) (by omega), hsame _ (by omega) (by omega)]
      exact h.heap p c hp hpc (by omega)
    · intro p c hp hpc _ _
      have hlt := hpc.lt
      omega
  have hsift := exchanged_siftDown rank size 0 hsize'
  have hheap := isHeap_siftDown (show n ≤ 0 + size by omega) (Nat.le_refl 0) hsize' hbut
  generalize siftDown rank first n size 0 ys = zs at *
  have htail : ∀ k, first + n ≤ k → rankAt rank zs k = rankAt rank ys k := by
    intro k hk
    exact hsift.rankAt_eq (.inr hk)
  refine ⟨hheap, ?_, ?_⟩
  · intro i j hi hij hj
    obtain ⟨j, rfl⟩ : ∃ m, j = first + m := ⟨j - first, by omega⟩
    rw [htail i hi, htail _ (by omega), hsame (first + j) (by omega) (by omega)]
    by_cases heq : i = first + n
    · rw [heq, hlast]
      exact h.bounded 0 j (by omega) (by omega) (by omega)
    · rw [hsame i (by omega) heq]
      exact h.sorted i _ (by omega) hij hj
  · intro i j hi hj hlt
    have hbound : ∀ k, first ≤ k → k < first + (n + 1) →
        rankAt rank xs k ≤ rankAt rank ys (first + j) := by
      intro k hk hk'
      obtain ⟨k, rfl⟩ : ∃ m, k = first + m := ⟨k - first, by omega⟩
      by_cases heq : j = n
      · rw [heq, hlast]
        exact h.heap.le_first (by omega)
      · rw [hsame (first + j) (by omega) (by omega)]
        exact h.bounded k j (by omega) (by omega) hlt
    have hys := hexchanged.forall_rankAt (p := (· ≤ rankAt rank ys (first + j))) hbound
    rw [htail (first + j) (by omega)]
    refine hsift.forall_rankAt (p := (· ≤ rankAt rank ys (first + j))) ?_ _ (by omega) (by omega)
    intro k hk hk'
    exact hys k hk (by omega)

/-- The items that rank highest are moved behind the others, one after the other. -/
theorem foldl_drain_spec (hsize : first + size ≤ xs.size) {n : Nat} (hn : n ≤ size)
    (h : IsDrained rank first size n xs) :
    Exchanged first (first + size) xs ((List.range n).reverse.foldl (fun ys last =>
        siftDown rank first last size 0 (ys.swapIfInBounds first (first + last))) xs) ∧
      IsDrained rank first size 0 ((List.range n).reverse.foldl (fun ys last =>
        siftDown rank first last size 0 (ys.swapIfInBounds first (first + last))) xs) := by
  induction n generalizing xs with
  | zero => exact ⟨.refl, h⟩
  | succ n ih =>
    rw [List.range_succ, List.reverse_concat, List.foldl_cons]
    have hswap : Exchanged first (first + size) xs (xs.swapIfInBounds first (first + n)) :=
      .swap .refl (by omega) (by omega)
    have hsift := exchanged_siftDown rank size 0
      (show first + n ≤ (xs.swapIfInBounds first (first + n)).size by rw [hswap.size_eq]; omega)
    have hstep := hswap.trans (hsift.mono (Nat.le_refl _) (by omega))
    obtain ⟨hrest, hfinal⟩ :=
      ih (by rwa [hstep.size_eq]) (by omega) (h.step (by omega) hsize)
    exact ⟨hstep.trans hrest, hfinal⟩

/-- A range is sorted with a heap. -/
theorem heapSort_spec (rank : α → Nat) (hab : a ≤ b) (hb : b ≤ xs.size) :
    Exchanged a b xs (heapSort rank a b xs) ∧ IsSorted rank a b (heapSort rank a b xs) := by
  obtain ⟨size, rfl⟩ : ∃ size, b = a + size := ⟨b - a, by omega⟩
  rw [heapSort, Nat.add_sub_cancel_left]
  have hstart : IsHeap rank a size ((size - 1) / 2 + 1) xs := by
    intro p c hp hpc hc
    unfold IsChild at hpc
    omega
  obtain ⟨hbuilt, hheap⟩ := foldl_siftDown_spec hb hstart
  have hdrained : IsDrained rank a size size _ := ⟨hheap, isSorted_of_le (by omega), by omega⟩
  obtain ⟨hrest, hfinal⟩ := foldl_drain_spec (by rwa [hbuilt.size_eq]) (Nat.le_refl _) hdrained
  exact ⟨hbuilt.trans hrest, hfinal.sorted⟩

end KeyScript.Ranking
