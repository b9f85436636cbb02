import KeyScript.Proofs.Text.Numeral
import KeyScript.Sketch.Literal

/-!
# What stands inside a literal

Between the quotes of a literal there are plain bytes and escapes, whatever byte string the literal
is for. None of them is or holds a line feed, and none holds a quote that a reader of the literal
could take for its end.

## Main definitions

- `Literal.IsUnit` — a plain byte or an escape
- `Literal.IsBody` — units one after the other
- `Literal.afterQuote` — what follows the first quote that is not escaped

## Main results

- `Literal.isUnit_escapeByte` — every byte is written as one unit
- `Literal.IsBody.afterQuote_append` — a body does not end its literal
- `Literal.IsBody.lineFeed_notMem` — a body does not end its line
-/

namespace KeyScript.Literal

/-- A unit inside a literal: a byte that is no control byte, no backslash and not the quote around
the literal, or an escape. -/
inductive IsUnit (quote : UInt8) : Bytes → Prop where
  | plain {b : UInt8} (hcontrol : isControl b = false) (hbackslash : b ≠ backslash)
      (hquote : b ≠ quote) : IsUnit quote [b]
  | escape {b : UInt8} (h : b = quote ∨ b = backslash ∨ b ∈ ("nrt" : Bytes)) :
      IsUnit quote [backslash, b]
  | octal {b : UInt8} (hcontrol : isControl b = true) (hname : b ∉ ("\n\r\t" : Bytes)) :
      IsUnit quote (backslash :: Numeral.octal b)

/-- Units one after the other. -/
inductive IsBody (quote : UInt8) : Bytes → Prop where
  | nil : IsBody quote []
  | cons {u s : Bytes} (hu : IsUnit quote u) (hs : IsBody quote s) : IsBody quote (u ++ s)

/-- What follows the first quote that is not escaped, if there is one. -/
def afterQuote (quote : UInt8) : Bytes → Option Bytes
  | [] => none
  | b :: s =>
    if b = quote then some s
    else if b = backslash then
      match s with
      | [] => none
      | _ :: s => afterQuote quote s
    else afterQuote quote s

/-- The quotes that literals have. -/
def IsQuote (quote : UInt8) : Prop := quote = doubleQuote ∨ quote = singleQuote

instance (quote : UInt8) : Decidable (IsQuote quote) :=
  inferInstanceAs (Decidable (quote = doubleQuote ∨ quote = singleQuote))

/-- Every byte is written as one unit. -/
theorem isUnit_escapeByte (quote b : UInt8) : IsUnit quote (escapeByte quote b) := by
  rw [escapeByte]
  split
  · next h =>
    have hescaped : b = quote ∨ b = backslash := by simpa using h
    exact .escape (hescaped.imp_right .inl)
  next hplain =>
  obtain ⟨hquote, hbackslash⟩ : b ≠ quote ∧ b ≠ backslash := by simpa using hplain
  split
  · exact .escape (.inr (.inr (by decide)))
  next hlineFeed =>
  split
  · exact .escape (.inr (.inr (by decide)))
  next hreturn =>
  split
  · exact .escape (.inr (.inr (by decide)))
  next htab =>
  split
  · next hcontrol =>
    refine .octal hcontrol fun hmem => ?_
    rcases List.mem_cons.mp hmem with h | hmem
    · exact hlineFeed h
    rcases List.mem_cons.mp hmem with h | hmem
    · exact hreturn h
    · exact htab (List.mem_singleton.mp hmem)
  · next hcontrol => exact .plain (Bool.not_eq_true _ ▸ hcontrol) hbackslash hquote

theorem isBody_flatMap_escapeByte (quote : UInt8) (s : Bytes) :
    IsBody quote (s.flatMap (escapeByte quote)) := by
  induction s with
  | nil => exact .nil
  | cons b s ih => exact .cons (isUnit_escapeByte quote b) ih

theorem IsUnit.ne_nil {quote : UInt8} {u : Bytes} (h : IsUnit quote u) : u ≠ [] := by
  cases h <;> exact List.cons_ne_nil _ _

theorem flatMap_escapeByte_ne_nil (quote : UInt8) {s : Bytes} (h : s ≠ []) :
    s.flatMap (escapeByte quote) ≠ [] := by
  obtain ⟨b, hb⟩ := List.exists_mem_of_ne_nil s h
  intro hnil
  exact (isUnit_escapeByte quote b).ne_nil (List.flatMap_eq_nil_iff.mp hnil b hb)

section Scanning

variable {quote b : UInt8} {u s : Bytes}

theorem afterQuote_cons_of_ne (hquote : b ≠ quote) (hbackslash : b ≠ backslash) (s : Bytes) :
    afterQuote quote (b :: s) = afterQuote quote s := by
  rw [afterQuote.eq_def]
  simp only [if_neg hquote, if_neg hbackslash]

theorem afterQuote_quote_cons (quote : UInt8) (s : Bytes) :
    afterQuote quote (quote :: s) = some s := by
  rw [afterQuote.eq_def]
  simp only [if_true]

theorem IsQuote.ne_backslash (h : IsQuote quote) : quote ≠ backslash := by
  rcases h with rfl | rfl <;> decide

theorem IsQuote.ne_lineFeed (h : IsQuote quote) : quote ≠ Bytes.lineFeed := by
  rcases h with rfl | rfl <;> decide

theorem afterQuote_backslash_cons (h : IsQuote quote) (b : UInt8) (s : Bytes) :
    afterQuote quote (backslash :: b :: s) = afterQuote quote s := by
  rw [afterQuote, if_neg h.ne_backslash.symm, if_pos rfl]

/-- The digits of an octal escape are digits, so they are no quotes, backslashes and line feeds. -/
theorem ne_of_mem_octal {b d : UInt8} (h : d ∈ Numeral.octal b) :
    ¬IsQuote d ∧ d ≠ backslash ∧ d ≠ Bytes.lineFeed := by
  have hb : b.toNat < 256 := b.toNat_lt
  have hdigit : Numeral.isDigit d = true := by
    simp only [Numeral.octal, List.mem_cons, List.not_mem_nil, or_false] at h
    rcases h with rfl | rfl | rfl <;> exact Numeral.isDigit_digit (by omega)
  refine ⟨?_, ?_, ?_⟩
  · rintro (rfl | rfl) <;> exact absurd hdigit (by decide)
  · rintro rfl
    exact absurd hdigit (by decide)
  · rintro rfl
    exact absurd hdigit (by decide)

/-- A scan for the closing quote passes over a unit. -/
theorem IsUnit.afterQuote_append (h : IsQuote quote) (hu : IsUnit quote u) (s : Bytes) :
    afterQuote quote (u ++ s) = afterQuote quote s := by
  cases hu with
  | plain _ hbackslash hquote => exact afterQuote_cons_of_ne hquote hbackslash s
  | escape => exact afterQuote_backslash_cons h _ s
  | @octal b =>
    have hdigit : ∀ d ∈ Numeral.octal b, d ≠ quote ∧ d ≠ backslash := fun d hd =>
      ⟨fun heq => (ne_of_mem_octal hd).1 (heq ▸ h), (ne_of_mem_octal hd).2.1⟩
    simp only [Numeral.octal, List.forall_mem_cons] at hdigit
    obtain ⟨-, hsecond, hthird, -⟩ := hdigit
    exact (afterQuote_backslash_cons h _ _).trans
      ((afterQuote_cons_of_ne hsecond.1 hsecond.2 _).trans
        (afterQuote_cons_of_ne hthird.1 hthird.2 s))

/-- A body does not end its literal: the quote behind it is the first that is not escaped. -/
theorem IsBody.afterQuote_append (h : IsQuote quote) (hs : IsBody quote s) (rest : Bytes) :
    afterQuote quote (s ++ quote :: rest) = some rest := by
  induction hs with
  | nil => rw [List.nil_append, afterQuote_quote_cons]
  | cons hu _ ih => rw [List.append_assoc, hu.afterQuote_append h, ih]

theorem IsUnit.lineFeed_notMem (h : IsQuote quote) (hu : IsUnit quote u) :
    Bytes.lineFeed ∉ u := by
  cases hu with
  | plain hcontrol =>
    rw [List.mem_singleton]
    rintro rfl
    revert hcontrol
    decide
  | @escape b hb =>
    have hne : b ≠ Bytes.lineFeed := by
      rcases hb with rfl | rfl | hb
      · exact h.ne_lineFeed
      · decide
      · rintro rfl
        revert hb
        decide
    simp only [List.mem_cons, List.not_mem_nil, or_false, not_or]
    exact ⟨by decide, hne.symm⟩
  | octal =>
    rw [List.mem_cons, not_or]
    exact ⟨by decide, fun hmem => (ne_of_mem_octal hmem).2.2 rfl⟩

/-- A body does not end its line. -/
theorem IsBody.lineFeed_notMem (h : IsQuote quote) (hs : IsBody quote s) : Bytes.lineFeed ∉ s := by
  induction hs with
  | nil => exact List.not_mem_nil
  | cons hu _ ih => simp [List.mem_append, hu.lineFeed_notMem h, ih]

end Scanning

end KeyScript.Literal
