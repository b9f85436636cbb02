import Mathlib.Data.List.Flatten
import Mathlib.Data.List.Perm.Subperm
import KeyScript.Proofs.Script.Ranking
import KeyScript.Proofs.Text.Case
import KeyScript.Proofs.Text.Distance

/-!
# The nearest words

The words suggested for a token are chosen among the words that match it loosely or, if there are
none, among those within a few changes of it. Either way they are the nearest ones, and ties apart
this says which words they are.

## Main definitions

- `IsLooseMatch` — a word has the letters of a token in their order, up to case
- `AreNearest` — some of the candidates, nearest first, with none left out that is nearer

## Main results

- `areNearest_take` — the first of sorted candidates are the nearest
- `suggest_nearest` — what is suggested for a token
-/

namespace KeyScript

/-- The letters of a token occur in a word in their order, up to case, and the token is not longer
than the word. -/
def IsLooseMatch (token word : Bytes) : Prop :=
  (token.chars.map lower).Sublist (word.chars.map lower) ∧
    token.lower.length ≤ word.lower.length

namespace Bytes

theorem lower_eq_ofChars (s : Bytes) : s.lower = ofChars (s.chars.map KeyScript.lower) := by
  rw [lower, ofChars, chars, List.map_map, List.flatMap_map]
  rfl

theorem chars_lower (s : Bytes) : s.lower.chars = s.chars.map KeyScript.lower := by
  rw [lower_eq_ofChars, chars, runes_ofChars, List.map_map]
  exact List.map_id _

end Bytes

/-- The letters alone decide on a match: where they occur in order, so do the bytes that they are
written with. -/
theorem matchesLoosely_iff {token word : Bytes} :
    matchesLoosely token word = true ↔ IsLooseMatch token word := by
  rw [matchesLoosely, List.isSublist_iff_sublist, Bytes.chars_lower, Bytes.chars_lower]
  constructor
  · intro h
    refine ⟨h, ?_⟩
    rw [Bytes.lower_eq_ofChars, Bytes.lower_eq_ofChars]
    exact (h.flatMap _).length_le
  · intro h
    exact h.1

instance (token word : Bytes) : Decidable (IsLooseMatch token word) :=
  decidable_of_iff _ matchesLoosely_iff

/-- Up to three of the candidates, nearest first, and no candidate that was left out is nearer than
one of them. -/
structure AreNearest (distance : Bytes → Nat) (candidates words : List Bytes) : Prop where
  subperm : words.Subperm candidates
  length_eq : words.length = min 3 candidates.length
  sorted : words.Pairwise fun v w => distance v ≤ distance w
  le_of_left_out : ∀ v ∈ candidates, v ∉ words → ∀ w ∈ words, distance w ≤ distance v

section Nearest

variable {distance : Bytes → Nat} {candidates words sorted : List Bytes}

theorem AreNearest.nodup (h : AreNearest distance candidates words) (hnodup : candidates.Nodup) :
    words.Nodup := by
  obtain ⟨kept, hperm, hsublist⟩ := h.subperm
  exact hperm.nodup_iff.mp (hnodup.sublist hsublist)

theorem AreNearest.length_le (h : AreNearest distance candidates words) : words.length ≤ 3 := by
  rw [h.length_eq]
  exact Nat.min_le_left _ _

theorem areNearest_take (hperm : sorted.Perm candidates)
    (hsorted : sorted.Pairwise fun v w => distance v ≤ distance w) :
    AreNearest distance candidates (sorted.take maxSuggestions) where
  subperm := (List.take_sublist _ _).subperm.trans hperm.subperm
  length_eq := by rw [List.length_take, hperm.length_eq, maxSuggestions]
  sorted := hsorted.sublist (List.take_sublist _ _)
  le_of_left_out := by
    intro v hv hout w hw
    -- what was left out stands behind the words that were taken
    have hv : v ∈ sorted.take maxSuggestions ++ sorted.drop maxSuggestions := by
      rw [List.take_append_drop]
      exact hperm.mem_iff.mpr hv
    have hdrop := (List.mem_append.mp hv).resolve_left hout
    rw [← List.take_append_drop maxSuggestions sorted, List.pairwise_append] at hsorted
    exact hsorted.2.2 w hw v hdrop

theorem pairwise_mergeSort_rank {α : Type} (rank : α → Nat) (items : List α) :
    (items.mergeSort fun v w => rank v ≤ rank w).Pairwise fun v w => rank v ≤ rank w := by
  have htrans : ∀ u v w, decide (rank u ≤ rank v) = true → decide (rank v ≤ rank w) = true →
      decide (rank u ≤ rank w) = true := by
    intro u v w huv hvw
    rw [decide_eq_true_eq] at *
    exact Nat.le_trans huv hvw
  have htotal : ∀ v w, (decide (rank v ≤ rank w) || decide (rank w ≤ rank v)) = true := by
    intro v w
    rw [Bool.or_eq_true, decide_eq_true_eq, decide_eq_true_eq]
    exact Nat.le_total _ _
  apply (List.pairwise_mergeSort htrans htotal items).imp
  intro v w h
  exact of_decide_eq_true h

theorem areNearest_nearest (token : Bytes) (words : List Bytes) :
    AreNearest (wordDistance token) words (nearest token words) :=
  areNearest_take (List.mergeSort_perm _ _) (pairwise_mergeSort_rank _ _)

theorem areNearest_nearestExchanged (token : Bytes) (words : List Bytes) :
    AreNearest (wordDistance token) words (nearestExchanged token words) :=
  areNearest_take (Ranking.sort_perm _ _) (Ranking.pairwise_sort _ _)

end Nearest

/-- The words of the vocabulary differ. -/
theorem nodup_startWords : startWords.Nodup := by
  decide +kernel

theorem filter_matchesLoosely (token : Bytes) :
    startWords.filter (matchesLoosely token) =
      startWords.filter fun w => IsLooseMatch token w := by
  apply List.filter_congr
  intro w _
  rw [Bool.eq_iff_iff, decide_eq_true_eq]
  exact matchesLoosely_iff

theorem suggest_of_match {token : Bytes} (h : ∃ w ∈ startWords, IsLooseMatch token w) :
    suggest token = nearestExchanged token (startWords.filter fun w => IsLooseMatch token w) := by
  obtain ⟨w, hmem, hmatch⟩ := h
  have hloose : (startWords.filter fun w => IsLooseMatch token w).isEmpty ≠ true := by
    rw [Ne, List.isEmpty_iff]
    exact List.ne_nil_of_mem (List.mem_filter.mpr ⟨hmem, decide_eq_true hmatch⟩)
  rw [suggest, filter_matchesLoosely]
  exact if_neg hloose

theorem suggest_of_no_match {token : Bytes} (h : ¬∃ w ∈ startWords, IsLooseMatch token w) :
    suggest token =
      nearest token.upper (startWords.filter fun w => wordDistance token.upper w ≤ 2) := by
  have hloose : (startWords.filter fun w => IsLooseMatch token w).isEmpty = true := by
    rw [List.isEmpty_iff, List.filter_eq_nil_iff]
    intro w hmem hmatch
    exact h ⟨w, hmem, of_decide_eq_true hmatch⟩
  rw [suggest, filter_matchesLoosely]
  exact if_pos hloose

/-- Whatever is suggested for a token is the nearest of some words of the vocabulary. -/
theorem exists_areNearest_suggest (token : Bytes) :
    ∃ (distance : Bytes → Nat) (p : Bytes → Bool),
      AreNearest distance (startWords.filter p) (suggest token) := by
  by_cases h : ∃ w ∈ startWords, IsLooseMatch token w
  · rw [suggest_of_match h]
    exact ⟨_, _, areNearest_nearestExchanged token _⟩
  · rw [suggest_of_no_match h]
    exact ⟨_, _, areNearest_nearest token.upper _⟩

/-- At most three different words of the vocabulary are suggested. They are the nearest of the words
that match the token loosely or, if no word does, of the words that at most two changes of single
letters turn the token in upper case into. -/
theorem suggest_nearest (token : Bytes) :
    (suggest token).Nodup ∧ (∀ w ∈ suggest token, w ∈ startWords) ∧ (suggest token).length ≤ 3 ∧
      ((∃ w ∈ startWords, IsLooseMatch token w) →
        AreNearest (wordDistance token) (startWords.filter fun w => IsLooseMatch token w)
          (suggest token)) ∧
      ((¬∃ w ∈ startWords, IsLooseMatch token w) →
        AreNearest (wordDistance token.upper)
          (startWords.filter fun w => wordDistance token.upper w ≤ 2) (suggest token)) ∧
      ∀ s t : Bytes, IsLeast {n | Changes n s.chars t.chars} (wordDistance s t) := by
  obtain ⟨distance, p, hsome⟩ := exists_areNearest_suggest token
  refine ⟨hsome.nodup (nodup_startWords.filter p), ?_, hsome.length_le, ?_, ?_, ?_⟩
  · intro w hw
    exact mem_startWords_of_mem_suggest hw
  · intro h
    rw [suggest_of_match h]
    exact areNearest_nearestExchanged token _
  · intro h
    rw [suggest_of_no_match h]
    exact areNearest_nearest token.upper _
  · intro s t
    exact isLeast_editDistance s.chars t.chars

/-- A token whose letters occur in some words, and one whose letters occur in none. -/
theorem suggest_nearest_delay :
    (∃ w ∈ startWords, IsLooseMatch "e" w) ∧
      AreNearest (wordDistance "e") (startWords.filter fun w => IsLooseMatch "e" w)
        (suggest "e") ∧
      suggest "e" = ["REM", "ESC", "END"] ∧
      (¬∃ w ∈ startWords, IsLooseMatch "delya" w) ∧
      AreNearest (wordDistance (Bytes.upper "delya"))
        (startWords.filter fun w => wordDistance (Bytes.upper "delya") w ≤ 2)
        (suggest "delya") ∧
      suggest "delya" = ["DELAY"] := by
  have hmatch : ∃ w ∈ startWords, IsLooseMatch "e" w :=
    ⟨"REM", List.mem_cons_self, matchesLoosely_iff.mp (by decide +kernel)⟩
  have hnone : ¬∃ w ∈ startWords, IsLooseMatch "delya" w := by
    have hall : startWords.all (fun w => !matchesLoosely "delya" w) = true := by decide +kernel
    rintro ⟨w, hw, hloose⟩
    have hw' := List.all_eq_true.mp hall w hw
    rw [matchesLoosely_iff.mpr hloose] at hw'
    exact Bool.false_ne_true hw'
  obtain ⟨-, -, -, hloose, -, -⟩ := suggest_nearest "e"
  obtain ⟨-, -, -, -, hnear, -⟩ := suggest_nearest "delya"
  exact ⟨hmatch, hloose hmatch, by decide +kernel, hnone, hnear hnone, by decide +kernel⟩

end KeyScript
