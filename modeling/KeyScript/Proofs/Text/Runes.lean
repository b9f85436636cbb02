import Mathlib.Tactic.Common
import KeyScript.Text.Rune

/-!
# The characters of a byte string and of its pieces

Joining the characters of a byte string gives the byte string back, and a piece that is cut out
between characters has exactly the characters that stand in it. The second fact is not obvious for
bytes outside UTF-8: a character is found by looking ahead, and a cut shortens what can be seen. But
a sequence that is cut off was no character before the cut either.

Two byte strings that are put together keep their characters if the second begins with a byte that
is no continuation, or if the first holds well-formed characters only. Otherwise they may not: the
bytes at the seam can make up a character.
-/

namespace KeyScript

/-- A character takes no more bytes than there are. -/
theorem leadingRune_le_length (lead : UInt8) (rest : Bytes) :
    (leadingRune lead rest).2 ≤ rest.length := by
  unfold leadingRune
  repeat' split
  all_goals simp

/-- A sequence that needs more bytes than there are is none. -/
theorem eq_replacement_of_lt {p : Bool} {c : Char} {n m : Nat} (hmn : m < n)
    (h : (if p then (c, n) else (replacement, 0)).2 ≤ m) :
    (if p then (c, n) else (replacement, 0)) = (replacement, 0) := by
  cases p with
  | false => rfl
  | true => exact absurd h (Nat.not_le_of_lt hmn)

/-- The bytes behind a character have no say in it. -/
theorem leadingRune_append {lead : UInt8} {s t : Bytes}
    (h : (leadingRune lead (s ++ t)).2 ≤ s.length) :
    leadingRune lead s = leadingRune lead (s ++ t) := by
  unfold leadingRune at h ⊢
  by_cases h₁ : lead < 0x80
  · simp only [if_pos h₁]
  simp only [if_neg h₁] at h ⊢
  by_cases h₂ : 0xC2 ≤ lead && lead ≤ 0xDF
  · simp only [if_pos h₂] at h ⊢
    rcases s with _ | ⟨a, s⟩
    · rcases t with _ | ⟨a, t⟩
      · rfl
      · exact (eq_replacement_of_lt Nat.zero_lt_one h).symm
    · rfl
  simp only [if_neg h₂] at h ⊢
  by_cases h₃ : 0xE0 ≤ lead && lead ≤ 0xEF
  · simp only [if_pos h₃] at h ⊢
    -- The first two bytes of `s ++ t` decide; they stand in `s` as far as the character needs them.
    rcases s with _ | ⟨a, _ | ⟨b, s⟩⟩
    · rcases t with _ | ⟨a, _ | ⟨b, t⟩⟩
      · rfl
      · rfl
      · exact (eq_replacement_of_lt (by simp) h).symm
    · rcases t with _ | ⟨b, t⟩
      · rfl
      · exact (eq_replacement_of_lt (by simp) h).symm
    · rfl
  simp only [if_neg h₃] at h ⊢
  by_cases h₄ : 0xF0 ≤ lead && lead ≤ 0xF4
  · simp only [if_pos h₄] at h ⊢
    rcases s with _ | ⟨a, _ | ⟨b, _ | ⟨c, s⟩⟩⟩
    · rcases t with _ | ⟨a, _ | ⟨b, _ | ⟨c, t⟩⟩⟩
      · rfl
      · rfl
      · rfl
      · exact (eq_replacement_of_lt (by simp) h).symm
    · rcases t with _ | ⟨b, _ | ⟨c, t⟩⟩
      · rfl
      · rfl
      · exact (eq_replacement_of_lt (by simp) h).symm
    · rcases t with _ | ⟨c, t⟩
      · rfl
      · exact (eq_replacement_of_lt (by simp) h).symm
    · rfl
  · simp only [if_neg h₄]

theorem isContinuation_of_maySecond {lead b : UInt8} (h : maySecond lead b = true) :
    isContinuation b = true := by
  have hbetween : ∀ {first last : UInt8}, 0x80 ≤ first → last ≤ 0xBF →
      (first ≤ b && b ≤ last) = true → isContinuation b = true := by
    intro first last hfirst hlast hb
    obtain ⟨hle, hge⟩ := Bool.and_eq_true_iff.mp hb
    exact Bool.and_eq_true_iff.mpr
      ⟨decide_eq_true (UInt8.le_trans hfirst (of_decide_eq_true hle)),
        decide_eq_true (UInt8.le_trans (of_decide_eq_true hge) hlast)⟩
  unfold maySecond at h
  split at h
  · exact hbetween (by decide) (by decide) h
  split at h
  · exact hbetween (by decide) (by decide) h
  split at h
  · exact hbetween (by decide) (by decide) h
  split at h
  · exact hbetween (by decide) (by decide) h
  · exact h

/-- Only continuation bytes stand behind the first byte of a character. -/
theorem isContinuation_of_mem_take_leadingRune {lead b : UInt8} {rest : Bytes}
    (h : b ∈ rest.take (leadingRune lead rest).2) : isContinuation b = true := by
  unfold leadingRune at h
  split at h
  · simp at h
  split at h
  · split at h
    · split at h
      · next a _ ha =>
        obtain rfl : b = a := by simpa using h
        exact ha
      · simp at h
    · simp at h
  split at h
  · split at h
    · split at h
      · next a c _ hac =>
        obtain ⟨ha, hc⟩ := Bool.and_eq_true_iff.mp hac
        obtain rfl | rfl : b = a ∨ b = c := by simpa using h
        · exact isContinuation_of_maySecond ha
        · exact hc
      · simp at h
    · simp at h
  split at h
  · split at h
    · split at h
      · next a c d _ hacd =>
        obtain ⟨hac, hd⟩ := Bool.and_eq_true_iff.mp hacd
        obtain ⟨ha, hc⟩ := Bool.and_eq_true_iff.mp hac
        obtain rfl | rfl | rfl : b = a ∨ b = c ∨ b = d := by simpa using h
        · exact isContinuation_of_maySecond ha
        · exact hc
        · exact hd
      · simp at h
    · simp at h
  · simp at h

/-- A character ends before a byte that is no continuation at the latest. -/
theorem leadingRune_append_of_head {t : Bytes} (ht : ∀ b ∈ t.head?, isContinuation b = false)
    (lead : UInt8) (s : Bytes) : leadingRune lead (s ++ t) = leadingRune lead s := by
  symm
  apply leadingRune_append
  cases t with
  | nil =>
    rw [List.append_nil]
    exact leadingRune_le_length lead s
  | cons b t =>
    by_contra hlong
    have hmem : b ∈ (s ++ b :: t).take (leadingRune lead (s ++ b :: t)).2 := by
      rw [List.take_append, List.mem_append]
      right
      rw [show (leadingRune lead (s ++ b :: t)).2 - s.length =
        (leadingRune lead (s ++ b :: t)).2 - s.length - 1 + 1 by omega]
      simp
    have hb := ht b (by simp)
    rw [isContinuation_of_mem_take_leadingRune hmem] at hb
    contradiction

/-- A sequence that is complete stays the same, whatever follows it. -/
theorem leadingRune_append_of_ne_replacement {lead : UInt8} {s : Bytes}
    (h : (leadingRune lead s).1 ≠ replacement) (t : Bytes) :
    leadingRune lead (s ++ t) = leadingRune lead s := by
  unfold leadingRune at h ⊢
  by_cases h₁ : lead < 0x80
  · simp only [if_pos h₁]
  simp only [if_neg h₁] at h ⊢
  by_cases h₂ : 0xC2 ≤ lead && lead ≤ 0xDF
  · simp only [if_pos h₂] at h ⊢
    rcases s with _ | ⟨a, s⟩
    · exact absurd rfl h
    · rfl
  simp only [if_neg h₂] at h ⊢
  by_cases h₃ : 0xE0 ≤ lead && lead ≤ 0xEF
  · simp only [if_pos h₃] at h ⊢
    rcases s with _ | ⟨a, _ | ⟨b, s⟩⟩
    · exact absurd rfl h
    · exact absurd rfl h
    · rfl
  simp only [if_neg h₃] at h ⊢
  by_cases h₄ : 0xF0 ≤ lead && lead ≤ 0xF4
  · simp only [if_pos h₄] at h ⊢
    rcases s with _ | ⟨a, _ | ⟨b, _ | ⟨c, s⟩⟩⟩
    · exact absurd rfl h
    · exact absurd rfl h
    · exact absurd rfl h
    · rfl
  · simp only [if_neg h₄]

/-- A continuation byte begins no character. -/
theorem leadingRune_of_isContinuation {lead : UInt8} (h : isContinuation lead = true)
    (rest : Bytes) : leadingRune lead rest = (replacement, 0) := by
  simp only [isContinuation, Bool.and_eq_true, decide_eq_true_eq, UInt8.le_iff_toNat_le,
    UInt8.reduceToNat] at h
  simp only [leadingRune, UInt8.lt_iff_toNat_lt, UInt8.le_iff_toNat_le, Bool.and_eq_true,
    decide_eq_true_eq, UInt8.reduceToNat]
  rw [if_neg (by omega), if_neg (by omega), if_neg (by omega), if_neg (by omega)]

/-- Skipped bytes have no say in the characters behind them. -/
theorem runesFrom_eq_runes_drop (skip : Nat) (s : Bytes) :
    runesFrom skip s = runes (s.drop skip) := by
  induction s generalizing skip with
  | nil => cases skip <;> rfl
  | cons b s ih =>
    cases skip with
    | zero => rfl
    | succ skip => exact ih skip

@[simp] theorem runes_nil : runes [] = [] := rfl

/-- The first character of a byte string and the characters behind it. -/
theorem runes_cons (b : UInt8) (s : Bytes) :
    runes (b :: s) =
      ⟨(leadingRune b s).1, b :: s.take (leadingRune b s).2⟩ ::
        runes (s.drop (leadingRune b s).2) := by
  rw [← runesFrom_eq_runes_drop]
  rfl

theorem leadingRune_ascii {b : UInt8} (h : b < 0x80) (s : Bytes) :
    leadingRune b s = (Char.ofNat b.toNat, 0) := by
  simp only [leadingRune, if_pos h]

/-- A byte below 0x80 is a character by itself. -/
theorem runes_cons_ascii {b : UInt8} (h : b < 0x80) (s : Bytes) :
    runes (b :: s) = ⟨Char.ofNat b.toNat, [b]⟩ :: runes s := by
  rw [runes_cons, leadingRune_ascii h, List.take_zero, List.drop_zero]

/-- Bytes below 0x80 in front are characters by themselves. -/
theorem runes_ascii_append {s : Bytes} (h : ∀ b ∈ s, b < 0x80) (t : Bytes) :
    runes (s ++ t) = s.map (fun b => ⟨Char.ofNat b.toNat, [b]⟩) ++ runes t := by
  induction s with
  | nil => rfl
  | cons b s ih =>
    rw [List.cons_append, runes_cons_ascii (h b (by simp)), ih fun c hc => h c (by simp [hc])]
    rfl

/-- Two byte strings are read one after the other if no character of the first is changed by the
second. `P` describes the ends of the first string at which this is known. -/
theorem runes_append_of_leadingRune {P : Bytes → Prop} {t : Bytes}
    (hlead : ∀ b s, P (b :: s) →
      leadingRune b (s ++ t) = leadingRune b s ∧ P (s.drop (leadingRune b s).2))
    {s : Bytes} (hs : P s) : runes (s ++ t) = runes s ++ runes t := by
  induction hn : s.length using Nat.strongRecOn generalizing s with
  | _ n ih =>
    cases s with
    | nil => rfl
    | cons b s =>
      obtain ⟨hsame, hrest⟩ := hlead b s hs
      have hle := leadingRune_le_length b s
      have hshort : (s.drop (leadingRune b s).2).length < n := by
        rw [← hn, List.length_drop, List.length_cons]
        omega
      rw [List.cons_append, runes_cons, hsame, List.take_append_of_le_length hle,
        List.drop_append_of_le_length hle, ih _ hshort hrest rfl, runes_cons b s, List.cons_append]

/-- A byte that is no continuation begins a character, whatever stands before it. -/
theorem runes_append_of_head {t : Bytes} (ht : ∀ b ∈ t.head?, isContinuation b = false)
    (s : Bytes) : runes (s ++ t) = runes s ++ runes t :=
  runes_append_of_leadingRune (P := fun _ => True)
    (fun b s _ => ⟨leadingRune_append_of_head ht b s, trivial⟩) trivial

theorem isContinuation_of_lt {b : UInt8} (hb : b < 0x80) : isContinuation b = false := by
  rw [isContinuation, decide_eq_false (UInt8.not_le.mpr hb), Bool.false_and]

/-- A byte below 0x80 begins a character, whatever stands before it. -/
theorem runes_append_ascii {b : UInt8} (hb : b < 0x80) (s t : Bytes) :
    runes (s ++ b :: t) = runes s ++ runes (b :: t) :=
  runes_append_of_head (by simpa using isContinuation_of_lt hb) s

/-- So does a byte string whose first character is well formed. -/
theorem runes_append_of_head_ne {t : Bytes} (ht : ∀ r ∈ (runes t).head?, r.char ≠ replacement)
    (s : Bytes) : runes (s ++ t) = runes s ++ runes t := by
  apply runes_append_of_head
  intro b hb
  cases t with
  | nil => simp at hb
  | cons c t =>
    obtain rfl : c = b := by simpa using hb
    by_contra hcontinuation
    rw [Bool.not_eq_false] at hcontinuation
    apply ht ⟨(leadingRune c t).1, _⟩ (by rw [runes_cons]; rfl)
    rw [leadingRune_of_isContinuation hcontinuation]

/-- Characters that are all well formed are complete, so that what follows adds nothing to them. -/
theorem runes_append_of_forall_ne {s : Bytes} (hs : ∀ r ∈ runes s, r.char ≠ replacement)
    (t : Bytes) : runes (s ++ t) = runes s ++ runes t := by
  refine runes_append_of_leadingRune (P := fun s => ∀ r ∈ runes s, r.char ≠ replacement) ?_ hs
  intro b s hs
  rw [runes_cons, List.forall_mem_cons] at hs
  exact ⟨leadingRune_append_of_ne_replacement hs.1 t, hs.2⟩

theorem runes_eq_nil_iff {s : Bytes} : runes s = [] ↔ s = [] := by
  cases s with
  | nil => simp
  | cons b s => simp [runes_cons]

namespace Rune

@[simp] theorem join_nil : join [] = [] := rfl

@[simp] theorem join_cons (r : Rune) (rs : List Rune) : join (r :: rs) = r.bytes ++ join rs := rfl

@[simp] theorem join_append (rs ts : List Rune) : join (rs ++ ts) = join rs ++ join ts := by
  simp [join]

end Rune

/-- The characters of a byte string keep all of its bytes. -/
@[simp] theorem join_runes (s : Bytes) : Rune.join (runes s) = s := by
  have hfrom : ∀ skip, Rune.join (runesFrom skip s) = s.drop skip := by
    induction s with
    | nil => intro skip; cases skip <;> rfl
    | cons b s ih =>
      intro skip
      cases skip with
      | zero =>
        rw [runesFrom, Rune.join_cons, ih, List.cons_append, List.take_append_drop, List.drop_zero]
      | succ skip => exact ih skip
  exact hfrom 0

/-- Where a byte string begins with given characters, the rest of its characters are those of the
rest of its bytes. -/
theorem runes_join_right {s : Bytes} {pre post : List Rune} (h : runes s = pre ++ post) :
    runes (Rune.join post) = post := by
  induction pre generalizing s with
  | nil =>
    rw [List.nil_append] at h
    rw [← h, join_runes]
  | cons r pre ih =>
    cases s with
    | nil => simp at h
    | cons b s =>
      rw [runes_cons, List.cons_append, List.cons.injEq] at h
      exact ih h.2

/-- A byte string that is cut off between two characters keeps the characters before the cut. -/
theorem runes_join_left {s : Bytes} {pre post : List Rune} (h : runes s = pre ++ post) :
    runes (Rune.join pre) = pre := by
  induction pre generalizing s with
  | nil => rfl
  | cons r pre ih =>
    cases s with
    | nil => simp at h
    | cons b s =>
      rw [runes_cons, List.cons_append, List.cons.injEq] at h
      obtain ⟨hr, htail⟩ := h
      set taken := (leadingRune b s).2 with htaken
      have hs : s = (s.take taken ++ Rune.join pre) ++ Rune.join post := by
        rw [List.append_assoc, ← Rune.join_append, ← htail, join_runes, List.take_append_drop]
      have hle : taken ≤ s.length := leadingRune_le_length b s
      have hlen : (s.take taken).length = taken := List.length_take_of_le hle
      -- What is left of the look-ahead still shows the whole first character.
      have hsame : leadingRune b (s.take taken ++ Rune.join pre) = leadingRune b s := by
        conv_rhs => rw [hs]
        apply leadingRune_append
        rw [← hs, ← htaken, List.length_append, hlen]
        exact Nat.le_add_right _ _
      have hjoin : Rune.join (r :: pre) = b :: (s.take taken ++ Rune.join pre) := by
        rw [Rune.join_cons, ← hr, List.cons_append]
      rw [hjoin, runes_cons, hsame, ← htaken, List.take_left' hlen, List.drop_left' hlen, ih htail,
        hr]

/-- A piece of a byte string between two places where characters end has the characters that stand
between these places. -/
theorem runes_join_piece {s : Bytes} {rs : List Rune} (h : rs <:+: runes s) :
    runes (Rune.join rs) = rs := by
  obtain ⟨pre, post, h⟩ := h
  exact runes_join_right (runes_join_left h.symm)

end KeyScript
