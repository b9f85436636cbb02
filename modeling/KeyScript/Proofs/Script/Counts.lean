import Mathlib.Data.Nat.Digits.Defs
import KeyScript.Proofs.Text.Numeral
import KeyScript.Script.Line

/-!
# Numbers in front of a word

The number of a delay or of a repetition is read from the front of a word, whatever follows it. This
module says which bytes count: the longest beginning of the word that spells an integer, with a sign
or without. The text that is cut out is the canonical spelling of the same integer, so a repetition,
which looks at this text only, is accepted if the integer is positive, and asks for as many copies.

## Main definitions

- `Numeral.Spelling` — an optional sign and at least one digit
- `Numeral.Spelling.IsLongestIn` — the longest spelling that a byte string begins with

## Main results

- `Numeral.Spelling.isLongestIn_iff` — a spelling is the longest where no digit follows
- `Reading.ofRepeat_of_leading?` — what a repetition makes of an integer
- `Numeral.leadingText_longest` — the text and the copies of the longest spelling
-/

namespace KeyScript

namespace Numeral

/-- What may stand before the digits of an integer. -/
inductive Sign where
  | none
  | plus
  | minus
deriving DecidableEq, Repr

namespace Sign

def text : Sign → Bytes
  | none => []
  | plus => [Numeral.plus]
  | minus => [Numeral.minus]

/-- The integer of a number behind a sign. -/
def applied : Sign → Nat → Int
  | minus, n => -n
  | _, n => n

/-- Every byte string is a sign and the part behind it. -/
theorem exists_text_append_unsignedPart (s : Bytes) :
    ∃ sign : Sign, s = sign.text ++ unsignedPart s := by
  cases s with
  | nil => exact ⟨none, rfl⟩
  | cons c rest =>
    by_cases hminus : c = Numeral.minus
    · exact ⟨minus, by simp [text, unsignedPart, hminus]⟩
    by_cases hplus : c = Numeral.plus
    · exact ⟨plus, by simp [text, unsignedPart, hplus]⟩
    · exact ⟨none, by simp [text, unsignedPart, hminus, hplus]⟩

end Sign

/-- Reading digits from the left gives the number that has them as its decimal places. -/
theorem valueOf_eq_ofDigits (digits : Bytes) :
    valueOf digits = Nat.ofDigits 10 (digits.reverse.map digitValue) := by
  induction digits using List.reverseRecOn with
  | nil => rfl
  | append_singleton digits d ih =>
    rw [valueOf_concat, ih, List.reverse_append, List.reverse_singleton, List.singleton_append,
      List.map_cons, Nat.ofDigits_cons]
    omega

/-- An integer as it may be written: an optional sign and at least one digit. -/
structure Spelling where
  sign : Sign
  digits : Bytes
  digits_ne_nil : digits ≠ []
  all_isDigit : digits.all isDigit = true

namespace Spelling

variable {s : Bytes} {w : Spelling}

def text (w : Spelling) : Bytes := w.sign.text ++ w.digits

/-- The integer that is spelled, of any size. -/
def value (w : Spelling) : Int :=
  w.sign.applied (Nat.ofDigits 10 (w.digits.reverse.map digitValue))

/-- A spelling stands at the start of a byte string, and no longer one does. -/
structure IsLongestIn (w : Spelling) (s : Bytes) : Prop where
  isPrefix : w.text <+: s
  length_le : ∀ v : Spelling, v.text <+: s → v.text.length ≤ w.text.length

theorem isDigit_of_mem (w : Spelling) : ∀ d ∈ w.digits, isDigit d = true :=
  List.all_eq_true.mp w.all_isDigit

theorem length_text (w : Spelling) : w.text.length = w.sign.text.length + w.digits.length :=
  List.length_append

/-- The first digit is no sign, so the sign of a spelling is the only one. -/
theorem unsignedPart_text_append (w : Spelling) (rest : Bytes) :
    unsignedPart (w.text ++ rest) = w.digits ++ rest := by
  obtain ⟨sign, digits, hne, hall⟩ := w
  obtain ⟨d, digits, rfl⟩ := List.exists_cons_of_ne_nil hne
  obtain ⟨hminus, hplus⟩ := ne_sign_of_isDigit (List.all_eq_true.mp hall d List.mem_cons_self)
  cases sign with
  | none => simp [text, Sign.text, unsignedPart, hminus, hplus]
  | plus => simp [text, Sign.text, unsignedPart]
  | minus => simp [text, Sign.text, unsignedPart]

theorem head?_text_append (w : Spelling) (rest : Bytes) :
    (w.text ++ rest).head? = some Numeral.minus ↔ w.sign = .minus := by
  obtain ⟨sign, digits, hne, hall⟩ := w
  obtain ⟨d, digits, rfl⟩ := List.exists_cons_of_ne_nil hne
  obtain ⟨hminus, -⟩ := ne_sign_of_isDigit (List.all_eq_true.mp hall d List.mem_cons_self)
  cases sign with
  | none => simp [text, Sign.text, hminus]
  | plus => simp [text, Sign.text, show Numeral.plus ≠ Numeral.minus by decide]
  | minus => simp [text, Sign.text]

theorem leadingDigits_text_append (w : Spelling) (rest : Bytes) :
    leadingDigits (w.text ++ rest) = w.digits ++ rest.takeWhile isDigit := by
  rw [leadingDigits, unsignedPart_text_append, List.takeWhile_append_of_pos w.isDigit_of_mem]

/-- A spelling is the longest if it takes all digits that are there. -/
theorem isLongestIn_iff : w.IsLongestIn s ↔ w.text <+: s ∧ w.digits = leadingDigits s := by
  constructor
  · rintro ⟨⟨rest, rfl⟩, hlongest⟩
    refine ⟨List.prefix_append _ _, ?_⟩
    -- Digits behind the spelling would make it longer.
    let longer : Spelling :=
      { sign := w.sign
        digits := w.digits ++ rest.takeWhile isDigit
        digits_ne_nil := List.append_ne_nil_of_left_ne_nil w.digits_ne_nil _
        all_isDigit := by rw [List.all_append, w.all_isDigit, List.all_takeWhile, Bool.and_self] }
    have hlonger : longer.text = w.text ++ rest.takeWhile isDigit := (List.append_assoc ..).symm
    have hle := hlongest longer (by
      rw [hlonger]
      exact (List.prefix_append_right_inj _).mpr (List.takeWhile_prefix _))
    have hnone : rest.takeWhile isDigit = [] := by
      rw [hlonger, List.length_append] at hle
      exact List.length_eq_zero_iff.mp (by omega)
    rw [leadingDigits_text_append, hnone, List.append_nil]
  · rintro ⟨⟨rest, rfl⟩, hdigits⟩
    refine ⟨List.prefix_append _ _, ?_⟩
    rintro v ⟨after, hv⟩
    -- Both signs are the bytes in front of the same part without a sign.
    have hunsigned : v.digits ++ after = w.digits ++ rest := by
      rw [← unsignedPart_text_append, hv, unsignedPart_text_append]
    have hfewer : v.digits.length ≤ w.digits.length := by
      rw [hdigits, ← hv, leadingDigits_text_append, List.length_append]
      exact Nat.le_add_right _ _
    have htotal := congrArg List.length hv
    have hpart := congrArg List.length hunsigned
    simp only [List.length_append, length_text] at htotal hpart ⊢
    omega

theorem exists_isLongestIn (h : leadingDigits s ≠ []) : ∃ w : Spelling, w.IsLongestIn s := by
  obtain ⟨sign, hsign⟩ := Sign.exists_text_append_unsignedPart s
  obtain ⟨rest, hrest⟩ := List.takeWhile_prefix isDigit (l := unsignedPart s)
  refine ⟨⟨sign, leadingDigits s, h, List.all_eq_true.mpr isDigit_of_mem_leadingDigits⟩,
    isLongestIn_iff.mpr ⟨⟨rest, ?_⟩, rfl⟩⟩
  change sign.text ++ leadingDigits s ++ rest = s
  rw [leadingDigits, List.append_assoc, hrest, ← hsign]

theorem leadingDigits_ne_nil (h : w.text <+: s) : leadingDigits s ≠ [] := by
  obtain ⟨rest, rfl⟩ := h
  rw [leadingDigits_text_append]
  exact List.append_ne_nil_of_left_ne_nil w.digits_ne_nil _

/-- The integer at the start of a byte string is the one that its longest spelling has. -/
theorem IsLongestIn.leading? (h : w.IsLongestIn s) : leading? s = some w.value := by
  obtain ⟨⟨rest, rfl⟩, hdigits⟩ := isLongestIn_iff.mp h
  rw [leading?_eq, ← hdigits, if_neg w.digits_ne_nil, valueOf_eq_ofDigits, value]
  simp only [head?_text_append]
  cases w.sign <;> rfl

/-- The canonical spelling of an integer. -/
def ofInt (v : Int) : Spelling where
  sign := if v < 0 then .minus else .none
  digits := ofNat v.natAbs
  digits_ne_nil := ofNat_ne_nil _
  all_isDigit := List.all_eq_true.mpr (isDigit_of_mem_ofNat _)

theorem text_ofInt (v : Int) : (ofInt v).text = Numeral.ofInt v := by
  rw [text, ofInt, Numeral.ofInt]
  split <;> rfl

theorem value_ofInt (v : Int) : (ofInt v).value = v := by
  rw [value, ofInt, ← valueOf_eq_ofDigits, valueOf_ofNat]
  split
  · next hneg => simp only [Sign.applied]; omega
  · next hnonneg => simp only [Sign.applied]; omega

end Spelling

end Numeral

namespace Reading

/-- A repetition is accepted if its number is positive. It asks for that many copies, as far as a
64-bit integer can count them. -/
theorem ofRepeat_of_leading? {number : Bytes} {v : Int} (h : Numeral.leading? number = some v)
    (token : Bytes) :
    ofRepeat token number =
      if 1 ≤ v then again token (min v.toNat (2 ^ 63 - 1)) else rejected token .repeatNumber := by
  rw [ofRepeat, Numeral.leadingText?_eq_map_leading?, h]
  simp only [Option.map_some, Numeral.ofInt_nonpositive_iff]
  by_cases hv : 1 ≤ v
  · rw [if_neg (by omega), if_pos hv, copyCount, Numeral.valueOf_ofInt (by omega)]
    rfl
  · rw [if_pos (by omega), if_neg hv]

end Reading

namespace Numeral

theorem isSome_leadingText?_iff {s : Bytes} :
    (leadingText? s).isSome = true ↔ leadingDigits s ≠ [] := by
  rw [leadingText?_eq_map_leading?, Option.isSome_map, leading?_eq]
  by_cases hdigits : leadingDigits s = []
  · simp [hdigits]
  · simp [hdigits]

/-- A number is cut out of a byte string exactly if the byte string begins with an optional sign and
a digit. The text is then the canonical spelling of the integer that the longest such beginning
spells, and cutting it out once more changes nothing. It is neither zero nor negative, as far as the
text shows, if the integer is positive, and only then is a repetition with this number accepted. The
copies that it asks for, before any cap, are the integer or the largest 64-bit integer, whichever is
less. -/
theorem leadingText_longest (s : Bytes) :
    ((leadingText? s).isSome = true ↔ ∃ w : Spelling, w.text <+: s) ∧
    ∀ t, leadingText? s = some t →
      (∃ w : Spelling, w.IsLongestIn s) ∧
      ∀ w : Spelling, w.IsLongestIn s →
        (IsCanonical t ∧ ∃ c : Spelling, c.text = t ∧ c.value = w.value) ∧
        leadingText? t = some t ∧
        (t ≠ [zero] ∧ t.startsWith [minus] = false ↔ 1 ≤ w.value) ∧
        ∀ token, Reading.ofRepeat token s =
          if 1 ≤ w.value then .again token (min w.value.toNat (2 ^ 63 - 1))
          else .rejected token .repeatNumber := by
  refine ⟨?_, fun t ht => ⟨?_, fun w hw => ?_⟩⟩
  · rw [isSome_leadingText?_iff]
    constructor
    · intro hdigits
      obtain ⟨w, hw⟩ := Spelling.exists_isLongestIn hdigits
      exact ⟨w, hw.isPrefix⟩
    · rintro ⟨w, hw⟩
      exact Spelling.leadingDigits_ne_nil hw
  · have hsome : (leadingText? s).isSome = true := by rw [ht, Option.isSome_some]
    exact Spelling.exists_isLongestIn (isSome_leadingText?_iff.mp hsome)
  · have hcanonical := isCanonical_of_leadingText? ht
    obtain rfl : ofInt w.value = t := by
      rw [leadingText?_eq_map_leading?, hw.leading?] at ht
      exact Option.some.inj ht
    refine ⟨⟨hcanonical, .ofInt w.value, Spelling.text_ofInt _, Spelling.value_ofInt _⟩,
      leadingText?_of_isCanonical hcanonical, ?_, Reading.ofRepeat_of_leading? hw.leading?⟩
    have hpositive := (ofInt_nonpositive_iff w.value).not
    rw [not_or, Bool.not_eq_true] at hpositive
    rw [Ne, hpositive]
    omega

/-- A number above the 64-bit integers, with a sign and zeros in front. -/
def farSpelling : Spelling := ⟨.plus, "0099999999999999999999", by decide, by decide⟩

/-- The number is cut out in front of what follows it, and as a count it is cut down. -/
theorem leadingText_longest_far :
    let s : Bytes := "+0099999999999999999999ms"
    leadingText? s = some "99999999999999999999" ∧ farSpelling.IsLongestIn s ∧
      farSpelling.value = 99999999999999999999 ∧
      (∃ c : Spelling, c.text = "99999999999999999999" ∧ c.value = farSpelling.value) ∧
      Reading.ofRepeat "REPEAT" s = .again "REPEAT" (2 ^ 63 - 1) := by
  intro s
  have htext : leadingText? s = some "99999999999999999999" := by decide
  have hlongest : farSpelling.IsLongestIn s :=
    Spelling.isLongestIn_iff.mpr ⟨by decide, by decide⟩
  have hvalue : farSpelling.value = 99999999999999999999 := by decide
  obtain ⟨⟨-, hsame⟩, -, -, hrepeat⟩ :=
    ((leadingText_longest s).2 _ htext).2 farSpelling hlongest
  refine ⟨htext, hlongest, hvalue, hsame, (hrepeat "REPEAT").trans ?_⟩
  rw [hvalue]
  rfl

end Numeral

end KeyScript
