import KeyScript.Markup.Node
import KeyScript.Markup.Reference

/-!
# Escaped text and character references

The text form of markup writes the bytes that could be taken for markup as character references. So
escaped text holds no angle bracket and no quote, and a reader of references gets back exactly the
text that was escaped, also where the text itself looks like a reference.

## Main results

- `Markup.escapeText_all` — what escaped text does not hold
- `Markup.unescape_escapeText` — reading escaped text
-/

namespace KeyScript.Markup

def lessThan : UInt8 := 60

def greaterThan : UInt8 := 62

def quotationMark : UInt8 := 34

/-- Whether a byte cannot be taken for a part of a tag. -/
def isTagFree (b : UInt8) : Bool := b != lessThan && b != greaterThan && b != quotationMark

theorem escapeByte_all (b : UInt8) : (escapeByte b).all isTagFree = true := by
  rw [escapeByte]
  split
  · decide
  split
  · decide
  split
  · decide
  next hless =>
  split
  · decide
  next hgreater =>
  split
  · decide
  next hquote =>
  split
  · decide
  · simp [isTagFree, lessThan, greaterThan, quotationMark, hless, hgreater, hquote]

/-- Escaped text holds nothing that can be taken for a part of a tag. -/
theorem escapeText_all (s : Bytes) : (escapeText s).all isTagFree = true := by
  rw [escapeText, List.all_flatMap]
  exact List.all_eq_true.mpr fun b _ => escapeByte_all b

/-! ## Reading references -/

/-- The value of a decimal reference, as it is kept while its digits are read. -/
def decimalValue (digits : Bytes) : Nat :=
  digits.foldl (fun n b => (n * 10 + (Numeral.hexValue? b).getD 0) % 4294967296) 0

/-- A decimal number with a semicolon behind it is read up to the semicolon. -/
theorem readNumber_append {digits : Bytes} (h : digits.all Numeral.isDigit = true)
    (hne : digits ≠ []) (rest : Bytes) :
    readNumber (digits ++ 59 :: rest) = some (decimalValue digits, digits.length + 1) := by
  obtain ⟨first, more, rfl⟩ := List.exists_cons_of_ne_nil hne
  have hfirst : (first == 120 || first == 88) = false := by
    have hdigit := List.all_eq_true.mp h first List.mem_cons_self
    simp only [Numeral.isDigit, Bool.and_eq_true, decide_eq_true_eq] at hdigit
    grind
  have hdigits : (first :: more ++ 59 :: rest).takeWhile Numeral.isDigit = first :: more := by
    rw [List.takeWhile_append_of_pos (List.all_eq_true.mp h),
      List.takeWhile_cons_of_neg (by decide), List.append_nil]
  -- The semicolon ends the digits and is taken as well, so at least two bytes are.
  have hend : ((first :: more ++ 59 :: rest)[(first :: more).length]? == some 59) = true := by
    simp
  have hused : ¬(first :: more).length + 1 + 2 ≤ 3 := by
    rw [List.length_cons]
    omega
  have hhead : (first :: more ++ 59 :: rest).head?.any (fun b => b == 120 || b == 88) = false :=
    hfirst
  simp only [readNumber, hhead, Bool.false_eq_true, if_false, hdigits, Nat.zero_add, hend, if_true,
    if_neg hused, decimalValue]

theorem readReference_number (digits : Bytes) {b : UInt8}
    (h : digits.all Numeral.isDigit = true) (hne : digits ≠ [])
    (hvalue : encode (numberedChar (decimalValue digits)) = [b]) (rest : Bytes) :
    readReference false ((35 :: digits ++ [59]) ++ rest) =
      some ([b], (35 :: digits ++ [59]).length) := by
  have hmore : ((digits ++ 59 :: rest).drop 1).isEmpty = false := by
    obtain ⟨first, more, rfl⟩ := List.exists_cons_of_ne_nil hne
    cases more <;> rfl
  rw [List.append_assoc, List.cons_append, List.singleton_append, readReference, hmore,
    if_neg Bool.false_ne_true, readNumber_append h hne]
  simp [hvalue]

/-- A reference is read as the byte that it stands for, whatever follows it. -/
theorem unescapeFrom_reference (name : Bytes) {b : UInt8}
    (h : ∀ rest, readReference false (name ++ rest) = some ([b], name.length)) (rest : Bytes) :
    unescapeFrom false 0 (38 :: name ++ rest) = b :: unescapeFrom false 0 rest := by
  have hskip : ∀ name : Bytes, unescapeFrom false name.length (name ++ rest) =
      unescapeFrom false 0 rest := by
    intro name
    induction name with
    | nil => rfl
    | cons c name ih => exact ih
  rw [List.cons_append, unescapeFrom, if_pos rfl, h]
  simp only [hskip, List.singleton_append]

/-- One escaped byte is read as that byte, whatever follows it. -/
theorem unescapeFrom_escapeByte (b : UInt8) (rest : Bytes) :
    unescapeFrom false 0 (escapeByte b ++ rest) = b :: unescapeFrom false 0 rest := by
  -- The reader takes exactly the name of a reference, since each of the six ends in a semicolon.
  rw [escapeByte]
  split
  next h => exact h ▸ unescapeFrom_reference "amp;" (fun _ => rfl) rest
  split
  next h =>
    have hvalue : encode (numberedChar (decimalValue "39")) = [39] := by decide
    have hread := readReference_number "39" (by decide) (by decide) hvalue
    exact h ▸ unescapeFrom_reference "#39;" hread rest
  split
  next h => exact h ▸ unescapeFrom_reference "lt;" (fun _ => rfl) rest
  split
  next h => exact h ▸ unescapeFrom_reference "gt;" (fun _ => rfl) rest
  split
  next h =>
    have hvalue : encode (numberedChar (decimalValue "34")) = [34] := by decide
    have hread := readReference_number "34" (by decide) (by decide) hvalue
    exact h ▸ unescapeFrom_reference "#34;" hread rest
  split
  next h =>
    have hvalue : encode (numberedChar (decimalValue "13")) = [13] := by decide
    have hread := readReference_number "13" (by decide) (by decide) hvalue
    exact h ▸ unescapeFrom_reference "#13;" hread rest
  next hamp _ _ _ _ _ => rw [List.singleton_append, unescapeFrom, if_neg hamp]

/-- Reading escaped text gives back the text. -/
theorem unescape_escapeText (s : Bytes) : unescape false (escapeText s) = s := by
  rw [unescape]
  induction s with
  | nil => rfl
  | cons b s ih => rw [escapeText, List.flatMap_cons, unescapeFrom_escapeByte, ← escapeText, ih]

theorem map_unescape_map_escapeText (texts : List Bytes) :
    (texts.map escapeText).map (unescape false) = texts := by
  rw [List.map_map]
  exact (List.map_congr_left fun s _ => unescape_escapeText s).trans (List.map_id _)

end KeyScript.Markup
