/-!
# Dictionaries

A dictionary has at most one value under each key. The entries stand in no order that matters.

## Main definitions

- `Dictionary` — entries, each key at most once
- `Dictionary.get?`, `Dictionary.set`, `Dictionary.erase`, `Dictionary.clear` — one key at a time
- `Dictionary.listAt`, `Dictionary.push`, `Dictionary.pushAll` — lists under keys
-/

namespace KeyScript

/-- Entries of values under keys, each key at most once. -/
structure Dictionary (κ α : Type) where
  entries : List (κ × α) := []
  nodup_keys : (entries.map Prod.fst).Nodup := by exact List.nodup_nil
deriving DecidableEq, Repr, Inhabited

namespace Dictionary

variable {κ α : Type} [DecidableEq κ]

/-- The value under a key. -/
def get? (d : Dictionary κ α) (key : κ) : Option α :=
  (d.entries.find? fun e => e.1 = key).map Prod.snd

/-- The dictionary without a key. -/
def erase (d : Dictionary κ α) (key : κ) : Dictionary κ α where
  entries := d.entries.filter fun e => e.1 ≠ key
  nodup_keys := d.nodup_keys.sublist (List.filter_sublist.map Prod.fst)

/-- The dictionary with a value under a key, in place of the one that may be there. -/
def set (d : Dictionary κ α) (key : κ) (value : α) : Dictionary κ α where
  entries := (key, value) :: (d.erase key).entries
  nodup_keys := by
    refine List.nodup_cons.mpr ⟨fun h => ?_, (d.erase key).nodup_keys⟩
    obtain ⟨e, he, hkey⟩ := List.mem_map.mp h
    exact of_decide_eq_true (List.mem_filter.mp he).2 hkey

/-- The dictionary with every key taken away. -/
def clear (_ : Dictionary κ α) : Dictionary κ α := {}

/-- The list under a key, empty if there is none. -/
def listAt (d : Dictionary κ (List α)) (key : κ) : List α := (d.get? key).getD []

/-- The dictionary with one more item at the end of the list under a key. -/
def push (d : Dictionary κ (List α)) (key : κ) (item : α) : Dictionary κ (List α) :=
  d.set key (d.listAt key ++ [item])

/-- The dictionary with some more items, one after the other, each in the list under its own key. -/
def pushAll (d : Dictionary κ (List α)) (keyOf : α → κ) (items : List α) : Dictionary κ (List α) :=
  items.foldl (fun d item => d.push (keyOf item) item) d

/-- A key that is taken away has no value, and the other keys have the values that they had. -/
theorem get?_erase (d : Dictionary κ α) (erased key : κ) :
    (d.erase erased).get? key = if erased = key then none else d.get? key := by
  simp only [get?, erase, List.find?_filter]
  split
  · next heq => simp [heq]
  · next hne =>
    congr
    funext e
    by_cases h : e.1 = key <;> simp [h, Ne.symm hne]

/-- A key that is set has the new value, and the other keys have the values that they had. -/
theorem get?_set (d : Dictionary κ α) (new key : κ) (value : α) :
    (d.set new value).get? key = if new = key then some value else d.get? key := by
  have hothers := d.get?_erase new key
  simp only [get?, set, List.find?_cons] at hothers ⊢
  by_cases h : new = key
  · simp [h]
  · simpa [h] using hothers

/-- The entries are the values under the keys. -/
theorem mem_entries_iff (d : Dictionary κ α) (key : κ) (value : α) :
    (key, value) ∈ d.entries ↔ d.get? key = some value := by
  obtain ⟨entries, hnodup⟩ := d
  simp only [get?]
  induction entries with
  | nil => simp
  | cons e entries ih =>
    obtain ⟨hfirst, hrest⟩ := List.nodup_cons.mp hnodup
    by_cases h : e.1 = key
    · -- The key stands at the front, so it does not come again.
      have hnone : (key, value) ∉ entries := fun hmem =>
        hfirst (List.mem_map.mpr ⟨_, hmem, h.symm⟩)
      simp [h, hnone, Prod.ext_iff, eq_comm]
    · have hne : (key, value) ≠ e := fun heq => h (by rw [← heq])
      simp [h, hne, ih hrest]

/-- After some items are pushed, a key has its old list and behind it the items under this key, in
their order. A key without a list that gets no item still has none. -/
theorem get?_pushAll (d : Dictionary κ (List α)) (keyOf : α → κ) (items : List α) (key : κ) :
    (d.pushAll keyOf items).get? key =
      if items.filter (fun item => keyOf item = key) = [] then d.get? key
      else some (d.listAt key ++ items.filter fun item => keyOf item = key) := by
  induction items generalizing d with
  | nil => rfl
  | cons item items ih =>
    have hstep : d.pushAll keyOf (item :: items) = (d.push (keyOf item) item).pushAll keyOf items :=
      rfl
    have hpush : (d.push (keyOf item) item).get? key =
        if keyOf item = key then some (d.listAt (keyOf item) ++ [item]) else d.get? key :=
      d.get?_set _ _ _
    rw [hstep, ih, listAt, hpush]
    by_cases h : keyOf item = key
    · rw [List.filter_cons_of_pos (by simpa using h)]
      simp [h]
    · rw [List.filter_cons_of_neg (by simpa using h)]
      simp [h, listAt]

/-- A dictionary that is emptied first has nothing but what is pushed, whatever it had before. -/
theorem get?_clear_pushAll (d : Dictionary κ (List α)) (keyOf : α → κ) (items : List α) (key : κ) :
    (d.clear.pushAll keyOf items).get? key =
      if items.filter (fun item => keyOf item = key) = [] then none
      else some (items.filter fun item => keyOf item = key) :=
  get?_pushAll {} keyOf items key

/-- The list under a key after some items are pushed. -/
theorem listAt_pushAll (d : Dictionary κ (List α)) (keyOf : α → κ) (items : List α) (key : κ) :
    (d.pushAll keyOf items).listAt key =
      d.listAt key ++ items.filter fun item => keyOf item = key := by
  rw [listAt, get?_pushAll]
  split
  · next h => rw [h, List.append_nil, listAt]
  · rfl

end Dictionary

end KeyScript
