import Mathlib.Order.Bounds.Defs
import Mathlib.Tactic.Common
import KeyScript.Text.Distance

/-!
# Edit distance is the least number of changes

The distance of two lists is computed row by row. Each entry of a row is the distance of a beginning
of the one list to a beginning of the other, by a recursion over their ends. This module shows that
no shorter sequence of insertions, deletions and replacements of single items leads from the one
list to the other, and that there is one of this length.

## Main definitions

- `Change`, `Changes` — one change of a single item, and a number of them one after the other
- `changeCount` — the number of changes, by recursion over both lists

## Main results

- `editDistance_eq_changeCount` — the rows follow the recursion
- `changes_changeCount`, `changeCount_le` — the recursion gives the least number
- `isLeast_editDistance` — so does the distance
-/

namespace KeyScript

section

variable {α : Type}

/-- One change of a single item, with `front` before it and `back` behind it. -/
inductive Change : List α → List α → Prop where
  | insert (front back : List α) (b : α) : Change (front ++ back) (front ++ b :: back)
  | delete (front back : List α) (a : α) : Change (front ++ a :: back) (front ++ back)
  | replace (front back : List α) (a b : α) : Change (front ++ a :: back) (front ++ b :: back)

/-- A number of changes one after the other. -/
inductive Changes : Nat → List α → List α → Prop where
  | none (s : List α) : Changes 0 s s
  | more {n : Nat} {s t u : List α} (h : Changes n s t) (hstep : Change t u) : Changes (n + 1) s u

variable {n : Nat} {s t u : List α}

theorem Change.cons (a : α) (h : Change s t) : Change (a :: s) (a :: t) := by
  cases h with
  | insert front back b => exact .insert (a :: front) back b
  | delete front back b => exact .delete (a :: front) back b
  | replace front back b c => exact .replace (a :: front) back b c

theorem Change.reverse (h : Change s t) : Change s.reverse t.reverse := by
  cases h with
  | insert front back b =>
    simpa using Change.insert back.reverse front.reverse b
  | delete front back a =>
    simpa using Change.delete back.reverse front.reverse a
  | replace front back a b =>
    simpa using Change.replace back.reverse front.reverse a b

namespace Changes

theorem cons (a : α) (h : Changes n s t) : Changes n (a :: s) (a :: t) := by
  induction h with
  | none s => exact .none (a :: s)
  | more _ hstep ih => exact .more ih (hstep.cons a)

theorem reverse (h : Changes n s t) : Changes n s.reverse t.reverse := by
  induction h with
  | none s => exact .none s.reverse
  | more _ hstep ih => exact .more ih hstep.reverse

/-- A change may also come before the others. -/
theorem head (hstep : Change s t) (h : Changes n t u) : Changes (n + 1) s u := by
  induction h with
  | none t => exact .more (.none s) hstep
  | more _ hlast ih => exact .more (ih hstep) hlast

theorem min {m : Nat} (hm : Changes m s t) (hn : Changes n s t) : Changes (min m n) s t := by
  rw [Nat.min_def]
  split
  · exact hm
  · exact hn

theorem insertAll (t : List α) : Changes t.length [] t := by
  induction t with
  | nil => exact .none []
  | cons b t ih => exact .more ih (.insert [] t b)

theorem deleteAll (s : List α) : Changes s.length s [] := by
  induction s with
  | nil => exact .none []
  | cons a s ih => exact .head (.delete [] s a) ih

end Changes

/-- The beginnings of a list, each reversed and in front of `done`, except for the empty one. -/
def beginnings (done : List α) : List α → List (List α)
  | [] => []
  | b :: t => (b :: done) :: beginnings (b :: done) t

theorem map_length_beginnings (done t : List α) :
    (beginnings done t).map List.length = List.range' (done.length + 1) t.length := by
  induction t generalizing done with
  | nil => rfl
  | cons b t ih => rw [beginnings, List.map_cons, ih, List.length_cons, List.length_cons]; rfl

theorem getLast_beginnings (done t : List α) :
    (done :: beginnings done t).getLast (List.cons_ne_nil _ _) = t.reverse ++ done := by
  induction t generalizing done with
  | nil => rfl
  | cons b t ih =>
    rw [beginnings, List.getLast_cons (List.cons_ne_nil _ _), ih, List.reverse_cons,
      List.append_assoc]
    rfl

end

variable {α : Type} [DecidableEq α]

/-- The number of changes that turn the one list into the other, by recursion over both. -/
def changeCount : List α → List α → Nat
  | [], t => t.length
  | a :: s, [] => (a :: s).length
  | a :: s, b :: t =>
    min (min (changeCount (a :: s) t + 1) (changeCount s (b :: t) + 1))
      (changeCount s t + if a = b then 0 else 1)
termination_by s t => s.length + t.length

theorem changeCount_nil_left (t : List α) : changeCount [] t = t.length := by
  rw [changeCount]

theorem changeCount_nil_right (s : List α) : changeCount s [] = s.length := by
  cases s <;> rw [changeCount]

theorem changeCount_cons (a b : α) (s t : List α) :
    changeCount (a :: s) (b :: t) =
      min (min (changeCount (a :: s) t + 1) (changeCount s (b :: t) + 1))
        (changeCount s t + if a = b then 0 else 1) := by
  rw [changeCount]

/-- There are as many changes as the recursion counts. -/
theorem changes_changeCount (s t : List α) : Changes (changeCount s t) s t := by
  fun_induction changeCount s t with
  | case1 t => exact .insertAll t
  | case2 a s => exact .deleteAll (a :: s)
  | case3 a s b t hinsert hdelete hboth =>
    have hinsert := Changes.more hinsert (.insert [] t b)
    have hdelete := Changes.head (.delete [] s a) hdelete
    apply (hinsert.min hdelete).min
    split
    case isTrue heq =>
      subst heq
      exact hboth.cons a
    case isFalse => exact .more (hboth.cons a) (.replace [] t a b)

section Least

variable {s t u : List α}

theorem changeCount_self (s : List α) : changeCount s s = 0 := by
  induction s with
  | nil => exact changeCount_nil_left []
  | cons a s ih =>
    rw [changeCount_cons, if_pos rfl, ih]
    omega

theorem changeCount_insert (s : List α) (b : α) (t : List α) :
    changeCount s (b :: t) ≤ changeCount s t + 1 := by
  cases s with
  | nil => simp [changeCount_nil_left]
  | cons a s =>
    rw [changeCount_cons]
    omega

theorem changeCount_cons_left (a : α) (s t : List α) :
    changeCount (a :: s) t ≤ changeCount s t + 1 := by
  cases t with
  | nil => simp [changeCount_nil_right]
  | cons b t =>
    rw [changeCount_cons]
    omega

theorem changeCount_delete (s : List α) (b : α) (t : List α) :
    changeCount s t ≤ changeCount s (b :: t) + 1 := by
  induction s with
  | nil =>
    simp only [changeCount_nil_left, List.length_cons]
    omega
  | cons a s ih =>
    have hcons := changeCount_cons_left a s t
    rw [changeCount_cons]
    omega

theorem changeCount_replace (s : List α) (b c : α) (t : List α) :
    changeCount s (c :: t) ≤ changeCount s (b :: t) + 1 := by
  induction s with
  | nil =>
    simp only [changeCount_nil_left, List.length_cons]
    omega
  | cons a s ih =>
    rw [changeCount_cons, changeCount_cons]
    split <;> split <;> omega

/-- A bound that holds for two lists holds with the same item in front of both. -/
theorem changeCount_cons_le (h : ∀ s, changeCount s u ≤ changeCount s t + 1) (b : α) (s : List α) :
    changeCount s (b :: u) ≤ changeCount s (b :: t) + 1 := by
  induction s with
  | nil =>
    have hnil := h []
    simp only [changeCount_nil_left, List.length_cons] at hnil ⊢
    omega
  | cons a s ih =>
    have hcons := h (a :: s)
    have hrest := h s
    rw [changeCount_cons, changeCount_cons]
    omega

theorem changeCount_append_le (h : ∀ s, changeCount s u ≤ changeCount s t + 1) (front s : List α) :
    changeCount s (front ++ u) ≤ changeCount s (front ++ t) + 1 := by
  induction front generalizing s with
  | nil => exact h s
  | cons b front ih => exact changeCount_cons_le ih b s

/-- One more change of the second list changes the count by at most one. -/
theorem Change.changeCount_le (h : Change t u) (s : List α) :
    changeCount s u ≤ changeCount s t + 1 := by
  cases h with
  | insert front back b =>
    exact changeCount_append_le (fun s => changeCount_insert s b back) front s
  | delete front back a =>
    exact changeCount_append_le (fun s => changeCount_delete s a back) front s
  | replace front back a b =>
    exact changeCount_append_le (fun s => changeCount_replace s a b back) front s

/-- No fewer changes lead from the one list to the other. -/
theorem changeCount_le {n : Nat} (h : Changes n s t) : changeCount s t ≤ n := by
  induction h with
  | none s => exact Nat.le_of_eq (changeCount_self s)
  | more _ hstep ih => exact Nat.le_trans (hstep.changeCount_le _) (Nat.succ_le_succ ih)

end Least

section Rows

theorem fillRow_eq (a : α) (s done t : List α) :
    fillRow a (changeCount (a :: s) done) (changeCount s done) t
        ((beginnings done t).map (changeCount s)) =
      (beginnings done t).map (changeCount (a :: s)) := by
  induction t generalizing done with
  | nil => rfl
  | cons b t ih =>
    rw [beginnings, List.map_cons, List.map_cons, fillRow, ← ih, changeCount_cons]

theorem nextRow_eq (a : α) (s t : List α) :
    nextRow t (([] :: beginnings [] t).map (changeCount s)) a =
      ([] :: beginnings [] t).map (changeCount (a :: s)) := by
  have hfirst : changeCount s [] + 1 = changeCount (a :: s) [] := by
    rw [changeCount_nil_right, changeCount_nil_right, List.length_cons]
  rw [List.map_cons, List.map_cons, nextRow, hfirst, fillRow_eq]

theorem foldl_nextRow_eq (s done t : List α) :
    s.foldl (nextRow t) (([] :: beginnings [] t).map (changeCount done)) =
      ([] :: beginnings [] t).map (changeCount (s.reverse ++ done)) := by
  induction s generalizing done with
  | nil => rfl
  | cons a s ih => rw [List.foldl_cons, nextRow_eq, ih, List.reverse_cons, List.append_assoc]; rfl

/-- The last entry of the last row is the count for the whole lists, read from their ends. -/
theorem editDistance_eq_changeCount (s t : List α) :
    editDistance s t = changeCount s.reverse t.reverse := by
  have hrow : List.range (t.length + 1) = ([] :: beginnings [] t).map (changeCount []) := by
    have hcount : changeCount ([] : List α) = List.length := funext changeCount_nil_left
    rw [hcount, List.map_cons, map_length_beginnings, List.range_eq_range', List.range'_succ]
    rfl
  have hlast := getLast_beginnings [] t
  rw [List.append_nil] at hlast
  rw [editDistance, hrow, foldl_nextRow_eq, List.append_nil, List.getLastD_eq_getLast?,
    List.getLast?_map, List.getLast?_eq_some_getLast (List.cons_ne_nil _ _), hlast]
  rfl

end Rows

/-- The distance of two lists is the least number of changes that turn the one into the other. -/
theorem isLeast_editDistance (s t : List α) : IsLeast {n | Changes n s t} (editDistance s t) := by
  rw [editDistance_eq_changeCount]
  constructor
  · have hchanges := (changes_changeCount s.reverse t.reverse).reverse
    rwa [List.reverse_reverse, List.reverse_reverse] at hchanges
  · intro n hn
    exact changeCount_le (Changes.reverse hn)

end KeyScript
