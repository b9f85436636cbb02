/-!
# Ranking by exchanges

Items are brought into the order of a rank by exchanging pairs of them in place. Short ranges are
sorted by insertion, which keeps the order of items of equal rank. Longer ranges are divided around
the median of three of their items, and there items of equal rank may change places. Every step is
an exchange, so that no item is lost.

## Main definitions

- `Ranking.insertionSort` — sorts a range by insertion
- `Ranking.divide` — the items below a pivot, the pivot and the other items
- `Ranking.sortRange` — sorts a range of any length
- `Ranking.sort` — the items of a list in the order of their ranks
-/

namespace KeyScript.Ranking

/-- Whether the rank at one index is below the rank at another. -/
def below (rank : α → Nat) (xs : Array α) (i j : Nat) : Bool :=
  match xs[i]?, xs[j]? with
  | some a, some b => rank a < rank b
  | _, _ => false

/-- Exchanges the item at index `j` with its predecessor while it ranks lower, down to `first`. -/
def sink (rank : α → Nat) (first : Nat) : (j : Nat) → Array α → Array α
  | 0, xs => xs
  | j + 1, xs =>
    if j + 1 > first && below rank xs (j + 1) j then
      sink rank first j (xs.swapIfInBounds (j + 1) j)
    else xs

/-- Sorts the range from `a` up to `b` by insertion. -/
def insertionSort (rank : α → Nat) (a b : Nat) (xs : Array α) : Array α :=
  (List.range (b - a)).foldl (fun ys k => sink rank a (a + k) ys) xs

/-- Moves the item at `root` of a heap down, where the heap begins at `first` and has `size`
items. -/
def siftDown (rank : α → Nat) (first size : Nat) : (fuel root : Nat) → Array α → Array α
  | 0, _, xs => xs
  | fuel + 1, root, xs =>
    let left := 2 * root + 1
    if left ≥ size then xs
    else
      let child :=
        if left + 1 < size && below rank xs (first + left) (first + left + 1) then left + 1
        else left
      if below rank xs (first + root) (first + child) then
        siftDown rank first size fuel child (xs.swapIfInBounds (first + root) (first + child))
      else xs

/-- Sorts the range from `a` up to `b` with a heap. -/
def heapSort (rank : α → Nat) (a b : Nat) (xs : Array α) : Array α :=
  let size := b - a
  let heap := (List.range ((size - 1) / 2 + 1)).reverse.foldl
    (fun ys root => siftDown rank a size size root ys) xs
  (List.range size).reverse.foldl
    (fun ys last => siftDown rank a last size 0 (ys.swapIfInBounds a (a + last))) heap

/-- The indices of two items in the order of their ranks, and the number of exchanges so far. -/
def order (rank : α → Nat) (xs : Array α) (i j count : Nat) : Nat × Nat × Nat :=
  if below rank xs j i then (j, i, count + 1) else (i, j, count)

/-- The index of the median of three items, and the number of exchanges so far. -/
def median (rank : α → Nat) (xs : Array α) (i j k count : Nat) : Nat × Nat :=
  let (i, j, count) := order rank xs i j count
  let (j, _, count) := order rank xs j k count
  let (_, j, count) := order rank xs i j count
  (j, count)

/-- The length from which on the pivot is a median of medians, and out of order pairs of a nearly
sorted range are moved. -/
def longRange : Nat := 50

/-- The index of the pivot of a range and the number of exchanges that the search for it asked
for. -/
def choosePivot (rank : α → Nat) (a b : Nat) (xs : Array α) : Nat × Nat :=
  let quarter := (b - a) / 4
  let i := a + quarter
  let j := a + quarter * 2
  let k := a + quarter * 3
  if b - a ≥ longRange then
    let (i, count) := median rank xs (i - 1) i (i + 1) 0
    let (j, count) := median rank xs (j - 1) j (j + 1) count
    let (k, count) := median rank xs (k - 1) k (k + 1) count
    median rank xs i j k count
  else if b - a ≥ 8 then median rank xs i j k 0
  else (j, 0)

/-- The number of exchanges in the search for a pivot that shows a falling range. -/
def fallingCount : Nat := 12

/-- Reverses the range from `i` to `j`. -/
def reverseRange : (fuel i j : Nat) → Array α → Array α
  | 0, _, _, xs => xs
  | fuel + 1, i, j, xs =>
    if i < j then reverseRange fuel (i + 1) (j - 1) (xs.swapIfInBounds i j) else xs

/-- The first index from `i` to `j` at which `p` fails, or the one behind `j`. -/
def ascend (p : Nat → Bool) : (fuel i j : Nat) → Nat
  | 0, i, _ => i
  | fuel + 1, i, j => if i ≤ j && p i then ascend p fuel (i + 1) j else i

/-- The last index from `i` to `j` at which `p` fails, or the one before `i`. -/
def descend (p : Nat → Bool) : (fuel i j : Nat) → Nat
  | 0, _, j => j
  | fuel + 1, i, j => if i ≤ j && p j then descend p fuel i (j - 1) else j

/-- Exchanges the outermost items between `i` and `j` that stand on the wrong side until there are
none: an item that satisfies `low` belongs to the left and one that satisfies `high` to the right.
Returns where the two sides meet and whether an exchange was made. -/
def exchangeSides (low high : Array α → Nat → Bool) :
    (fuel : Nat) → (i j : Nat) → (moved : Bool) → Array α → Nat × Nat × Bool × Array α
  | 0, i, j, moved, xs => (i, j, moved, xs)
  | fuel + 1, i, j, moved, xs =>
    let i := ascend (low xs) (xs.size + 1) i j
    let j := descend (high xs) (xs.size + 1) i j
    if i > j then (i, j, moved, xs)
    else exchangeSides low high fuel (i + 1) (j - 1) true (xs.swapIfInBounds i j)

/-- Divides a range around the item at `pivot`: items that rank below it, the item itself, the other
items. Returns its new index and whether the range was divided already. -/
def divide (rank : α → Nat) (a b pivot : Nat) (xs : Array α) : Nat × Bool × Array α :=
  let xs := xs.swapIfInBounds a pivot
  let (_, j, moved, xs) := exchangeSides (fun ys i => below rank ys i a)
    (fun ys j => !below rank ys j a) (xs.size + 1) (a + 1) (b - 1) false xs
  (j, !moved, xs.swapIfInBounds j a)

/-- Divides a range in which no item ranks below the one at `pivot` into the items of the same rank
and the others. Returns the index of the first of the others. -/
def divideEqual (rank : α → Nat) (a b pivot : Nat) (xs : Array α) : Nat × Array α :=
  let xs := xs.swapIfInBounds a pivot
  let (i, _, _, xs) := exchangeSides (fun ys i => !below rank ys a i)
    (fun ys j => below rank ys a j) (xs.size + 1) (a + 1) (b - 1) false xs
  (i, xs)

/-- Exchanges the item at index `j` with its predecessor while it ranks lower, up to `last`. -/
def rise (rank : α → Nat) (last : Nat) : (fuel j : Nat) → Array α → Array α
  | 0, _, xs => xs
  | fuel + 1, j, xs =>
    if j < last && below rank xs j (j - 1) then
      rise rank last fuel (j + 1) (xs.swapIfInBounds j (j - 1))
    else xs

/-- Sorts a range that is nearly sorted by moving a few items. Returns whether the range is sorted
then; a short range is left as it is. -/
def repairRange (rank : α → Nat) (a b : Nat) : (steps i : Nat) → Array α → Bool × Array α
  | 0, _, xs => (false, xs)
  | steps + 1, i, xs =>
    let i := ascend (fun k => !below rank xs k (k - 1)) (xs.size + 1) i (b - 1)
    if i ≥ b then (true, xs)
    else if b - a < longRange then (false, xs)
    else
      let xs := xs.swapIfInBounds i (i - 1)
      let xs := if i - a ≥ 2 then sink rank 0 (i - 1) xs else xs
      let xs := if b - i ≥ 2 then rise rank b xs.size (i + 1) xs else xs
      repairRange rank a b steps i xs

/-- The most out of order pairs that are moved in a nearly sorted range. -/
def maxRepairs : Nat := 5

/-- The next of a sequence of scattered numbers. -/
def scatter (r : UInt64) : UInt64 :=
  let r := r ^^^ (r <<< 13)
  let r := r ^^^ (r >>> 7)
  r ^^^ (r <<< 17)

/-- Exchanges three items in the middle of a range with scattered ones, so that the next pivot does
not divide it badly again. -/
def breakPattern (a b : Nat) (xs : Array α) : Array α :=
  let length := b - a
  if length < 8 then xs
  else
    let middle := a + length / 4 * 2 - 1
    let modulus := Nat.pow 2 (Nat.log2 length + 1)
    let other := fun (r : UInt64) =>
      let n := r.toNat % modulus
      a + (if n ≥ length then n - length else n)
    let r := scatter (UInt64.ofNat length)
    let s := scatter r
    let t := scatter s
    let xs := xs.swapIfInBounds (middle - 1) (other r)
    let xs := xs.swapIfInBounds middle (other s)
    xs.swapIfInBounds (middle + 1) (other t)

/-- The greatest length of a range that is sorted by insertion. -/
def shortRange : Nat := 12

/-- Sorts the range from `a` up to `b`. After `limit` bad divisions the range is sorted with a heap;
`balanced` and `divided` say whether the last division was a good one and whether the items were
divided before it. Each round leaves shorter ranges. -/
def sortRange (rank : α → Nat) :
    (fuel : Nat) → (a b limit : Nat) → (balanced divided : Bool) → Array α → Array α
  | 0, _, _, _, _, _, xs => xs
  | fuel + 1, a, b, limit, balanced, divided, xs =>
    if b - a ≤ shortRange then insertionSort rank a b xs
    else if limit = 0 then heapSort rank a b xs
    else
      let xs := if balanced then xs else breakPattern a b xs
      let limit := if balanced then limit else limit - 1
      let (pivot, count) := choosePivot rank a b xs
      let falling := count == fallingCount
      let xs := if falling then reverseRange xs.size a (b - 1) xs else xs
      let pivot := if falling then b - 1 - (pivot - a) else pivot
      let (sorted, xs) :=
        if balanced && divided && (falling || count == 0) then
          repairRange rank a b maxRepairs (a + 1) xs
        else (false, xs)
      if sorted then xs
      else if a > 0 && !below rank xs (a - 1) pivot then
        let (mid, xs) := divideEqual rank a b pivot xs
        sortRange rank fuel mid b limit balanced divided xs
      else
        let (mid, divided, xs) := divide rank a b pivot xs
        let threshold := (b - a) / 8
        if mid - a < b - mid then
          let xs := sortRange rank fuel a mid limit true true xs
          sortRange rank fuel (mid + 1) b limit (decide (threshold ≤ mid - a)) divided xs
        else
          let xs := sortRange rank fuel (mid + 1) b limit true true xs
          sortRange rank fuel a mid limit (decide (threshold ≤ b - mid)) divided xs

/-- The items of a list in the order of their ranks. -/
def sort (rank : α → Nat) (items : List α) : List α :=
  let xs := items.toArray
  (sortRange rank (xs.size + 1) 0 xs.size (Nat.log2 xs.size + 1) true true xs).toList

end KeyScript.Ranking
