/-!
# Edit distance

The least number of insertions, deletions and replacements of single items that turn one list into
another, computed row by row.

## Main definitions

- `nextRow` — the distances to the beginnings of a list after one more item
- `editDistance` — the distance of two lists
-/

namespace KeyScript

variable {α : Type} [DecidableEq α]

/-- The rest of a row of distances: `left` is the distance to its left, `diag` the one above that,
and `row` what is above the rest. -/
def fillRow (a : α) : (left diag : Nat) → List α → (row : List Nat) → List Nat
  | left, diag, b :: t, up :: row =>
    let d := min (min (left + 1) (up + 1)) (diag + if a = b then 0 else 1)
    d :: fillRow a d up t row
  | _, _, _, _ => []

/-- The distances of a list to the beginnings of `t` after the item `a`, from those before it. -/
def nextRow (t : List α) (row : List Nat) (a : α) : List Nat :=
  match row with
  | [] => []
  | d :: rest => (d + 1) :: fillRow a (d + 1) d t rest

/-- The least number of single changes that turn `s` into `t`. -/
def editDistance (s t : List α) : Nat :=
  (s.foldl (nextRow t) (List.range (t.length + 1))).getLastD 0

end KeyScript
