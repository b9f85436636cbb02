import KeyScript.Check.Page
import KeyScript.Proofs.Check.Parts

/-!
# Checks and their negations

Three comparisons can be asked for under one name and ruled out under another. The six operators
under these names stand by themselves, each with its own flag, test and wording. That the two of a
comparison fit together is read off their table: both reject the same wanted values, and one holds
where the other does not. The two checks then go through the same stages: the wanted value, the
selector, the markup and the search for an element. Whatever stops one of them stops the other, for
the same reason. If nothing does, the same content is compared under both, and exactly one passes.
So a negated check does not pass for want of an element.

## Main definitions

- `Comparison` — what can be asked for and ruled out
- `Comparison.names` — the two names of a comparison
- `Operator.Decides` — an operator that rejects some wanted values and tests the others
- `Check.Refused` — the reasons for which nothing is compared
- `Check.Finds` — the element whose content is compared
- `Check.messageOf` — what is said of markup under a check that is written with single spaces

## Main results

- `Comparison.exists_decides` — what the operators under the two names do
- `Check.refused_or_finds` — the stages that a check goes through
- `Check.refused_or_passes_iff` — a check and its negation
-/

namespace KeyScript

open Markup
open Bytes (lineFeed)

theorem Bytes.isInfixOf_iff (needle s : Bytes) : isInfixOf needle s = true ↔ needle <:+: s := by
  induction s with
  | nil => simp [isInfixOf]
  | cons c s ih => simp [isInfixOf, startsWith, ih, List.infix_cons_iff]

theorem matchesPattern_iff (got want : Bytes) :
    matchesPattern got want = true ↔ ∃ p, Pattern.parse want = .ok p ∧ p.isMatch got = true := by
  unfold matchesPattern
  cases Pattern.parse want <;> simp

/-! ## The table of operators -/

/-- What can be asked of a text and a wanted value, and ruled out. -/
inductive Comparison where
  | equal
  | matching
  | containing
deriving DecidableEq, Repr, Inhabited

namespace Comparison

/-- The name under which a comparison is asked for, and the one under which it is ruled out. -/
def names : Comparison → Bytes × Bytes
  | equal => ("==", "!=")
  | matching => ("~", "!~")
  | containing => ("contains", "!contains")

/-- What a comparison says of a text and a wanted value. -/
def Holds : Comparison → (got want : Bytes) → Prop
  | equal, got, want => got = want
  | matching, got, want => ∃ p, Pattern.parse want = .ok p ∧ p.isMatch got = true
  | containing, got, want => want <:+: got

/-- The wanted values that make no sense for a comparison, with the reason. -/
def Rejects : Comparison → (want : Bytes) → CheckFault → Prop
  | matching, want, fault => ∃ e, Pattern.parse want = .error e ∧ fault = .badPattern want e
  | equal, want, fault | containing, want, fault => want = [] ∧ fault = .emptyWant

end Comparison

/-- An operator that finds the faults `faults` in a wanted value, holds of a text and a wanted value
exactly if `holds` does, and has some words for it if not. -/
structure Operator.Decides (op : Operator) (faults : Bytes → CheckFault → Prop)
    (holds : Bytes → Bytes → Prop) : Prop where
  fault?_iff : ∀ want fault, op.fault? want = some fault ↔ faults want fault
  holds_iff : ∀ got want, op.holds got want = true ↔ holds got want
  failure_ne_nil : ∀ subject got want, op.failure subject got want ≠ []

section Table

variable {op : Operator}

theorem Operator.fault?_of_pattern (h : op.isPattern = true) (want : Bytes) (fault : CheckFault) :
    op.fault? want = some fault ↔ Comparison.matching.Rejects want fault := by
  rw [fault?, if_pos h, Comparison.Rejects]
  cases Pattern.parse want with
  | error e => simp [eq_comm]
  | ok p => simp

theorem Operator.fault?_of_plain (h : op.isPattern = false) (want : Bytes) (fault : CheckFault) :
    op.fault? want = some fault ↔ want = [] ∧ fault = .emptyWant := by
  rw [fault?, if_neg (by rw [h]; decide)]
  by_cases hwant : want = [] <;> simp [hwant, eq_comm]

/-- Words in the middle of a text. -/
theorem append_words_ne_nil (words : Bytes) {before behind : Bytes} (h : words ≠ []) :
    before ++ words ++ behind ≠ [] :=
  List.append_ne_nil_of_left_ne_nil (List.append_ne_nil_of_right_ne_nil _ h) _

/-- Under the first name of a comparison stands an operator that asks for it, and under the second
one that rules it out. Both find the same faults in a wanted value. -/
theorem Comparison.exists_decides (c : Comparison) :
    (∃ op, Operator.ofName? c.names.1 = some op ∧ op.Decides c.Rejects c.Holds) ∧
      ∃ op, Operator.ofName? c.names.2 = some op ∧
        op.Decides c.Rejects fun got want => ¬c.Holds got want := by
  cases c with
  | equal =>
    constructor
    · refine ⟨_, rfl, Operator.fault?_of_plain rfl, fun got want => beq_iff_eq, ?_⟩
      exact fun subject got want => append_words_ne_nil ", want " (by decide)
    · refine ⟨_, rfl, Operator.fault?_of_plain rfl, fun got want => bne_iff_ne, ?_⟩
      exact fun subject got want => List.append_ne_nil_of_right_ne_nil _ (by decide)
  | matching =>
    constructor
    · refine ⟨_, rfl, Operator.fault?_of_pattern rfl, matchesPattern_iff, ?_⟩
      exact fun subject got want => append_words_ne_nil " (but should)\t" (by decide)
    · refine ⟨_, rfl, Operator.fault?_of_pattern rfl, fun got want => ?_, ?_⟩
      · have hiff := not_congr (matchesPattern_iff got want)
        rwa [Bool.not_eq_true, ← Bool.not_eq_true'] at hiff
      · exact fun subject got want => append_words_ne_nil " (but should not)\t" (by decide)
  | containing =>
    constructor
    · refine ⟨_, rfl, Operator.fault?_of_plain rfl, fun got want => ?_, ?_⟩
      · exact Bytes.isInfixOf_iff want got
      · exact fun subject got want => append_words_ne_nil " (but should)\t" (by decide)
    · refine ⟨_, rfl, Operator.fault?_of_plain rfl, fun got want => ?_, ?_⟩
      · have hiff := not_congr (Bytes.isInfixOf_iff want got)
        rwa [Bool.not_eq_true, ← Bool.not_eq_true'] at hiff
      · exact fun subject got want => append_words_ne_nil " (but should not)\t" (by decide)

/-- A wanted value that makes no sense is empty or no pattern, and there are words for both. -/
theorem Comparison.message_ne_nil {c : Comparison} {want : Bytes} {fault : CheckFault}
    (h : c.Rejects want fault) : fault.message ≠ [] := by
  cases c with
  | equal | containing =>
    obtain ⟨-, rfl⟩ := h
    decide
  | matching =>
    obtain ⟨e, -, rfl⟩ := h
    apply List.append_ne_nil_of_left_ne_nil
    apply List.append_ne_nil_of_left_ne_nil
    apply List.append_ne_nil_of_left_ne_nil
    decide

/-- The names of the comparisons are words, and the name of the count is not among them. -/
theorem Comparison.names_wellFormed (c : Comparison) :
    (c.names.1.IsWord ∧ c.names.1 ≠ countName) ∧ c.names.2.IsWord ∧ c.names.2 ≠ countName := by
  cases c <;> decide

end Table

/-! ## One operator -/

section Compare

variable {name : Bytes} {op : Operator} {faults : Bytes → CheckFault → Prop}
  {holds : Bytes → Bytes → Prop} {want : Bytes} {fault : CheckFault}

theorem compare_of_fault (hname : Operator.ofName? name = some op) (hop : op.Decides faults holds)
    (h : faults want fault) (subject got : Bytes) :
    compare subject name got want = .invalid fault := by
  have hfault := (hop.fault?_iff want fault).mpr h
  simp only [compare, hname, hfault]

/-- Without a fault in the wanted value, the comparison is valid and passes if the operator
holds. -/
theorem compare_of_no_fault (hname : Operator.ofName? name = some op)
    (hop : op.Decides faults holds) (h : ∀ fault, ¬faults want fault) (subject got : Bytes) :
    (compare subject name got want).isValid = true ∧
      ((compare subject name got want).message = [] ↔ holds got want) := by
  have hnone : op.fault? want = none := by
    refine Option.eq_none_iff_forall_ne_some.mpr fun fault hfault => h fault ?_
    exact (hop.fault?_iff want fault).mp hfault
  simp only [compare, hname, hnone, ← hop.holds_iff]
  cases op.holds got want with
  | false => exact ⟨rfl, iff_of_false (hop.failure_ne_nil subject got want) Bool.false_ne_true⟩
  | true => exact ⟨rfl, iff_of_true rfl rfl⟩

end Compare

namespace Check

/-- The reasons for which nothing is compared, each with the verdict that gives it. A later reason
counts only if there is none before it. -/
inductive Refused (c : Comparison) (subject want body : Bytes) : PageVerdict → Prop where
  | badWant {fault : CheckFault} (h : c.Rejects want fault) :
      Refused c subject want body (.compared (.invalid fault))
  | badSelector {e : SelectorError} (hwant : ∀ fault, ¬c.Rejects want fault)
      (h : parseSelector subject = .error e) :
      Refused c subject want body (.badSelector subject e)
  | badMarkup {selectors : List Markup.Complex} {e : TreeError}
      (hwant : ∀ fault, ¬c.Rejects want fault) (hselector : parseSelector subject = .ok selectors)
      (h : parseDocument body = .error e) : Refused c subject want body (.badMarkup e)
  | noElement {selectors : List Markup.Complex} {tree : List Node}
      (hwant : ∀ fault, ¬c.Rejects want fault) (hselector : parseSelector subject = .ok selectors)
      (hbody : parseDocument body = .ok tree) (h : select selectors tree = []) :
      Refused c subject want body (.noElement subject)

/-- The first element that the selector describes; nothing stands against comparing its content. -/
structure Finds (c : Comparison) (subject want body : Bytes) (first : Place) : Prop where
  accepts : ∀ fault, ¬c.Rejects want fault
  found : ∃ selectors tree rest, parseSelector subject = .ok selectors ∧
    parseDocument body = .ok tree ∧ select selectors tree = first :: rest

variable {c : Comparison} {name subject want body : Bytes} {op : Operator}
  {holds : Bytes → Bytes → Prop}

theorem Refused.message_ne_nil {v : PageVerdict} (h : Refused c subject want body v) :
    v.message ≠ [] := by
  cases h with
  | badWant h => exact Comparison.message_ne_nil h
  | badSelector =>
    apply List.append_ne_nil_of_left_ne_nil
    apply List.append_ne_nil_of_left_ne_nil
    apply List.append_ne_nil_of_left_ne_nil
    decide
  | badMarkup | noElement =>
    apply List.append_ne_nil_of_left_ne_nil
    decide

/-- Nothing is compared, or there is an element. This does not depend on the operator. -/
theorem refused_or_finds (c : Comparison) (subject want body : Bytes) :
    (∃ v, Refused c subject want body v) ∨ ∃ first, Finds c subject want body first := by
  by_cases hwant : ∃ fault, c.Rejects want fault
  · obtain ⟨fault, h⟩ := hwant
    exact .inl ⟨_, .badWant h⟩
  rw [not_exists] at hwant
  cases hselector : parseSelector subject with
  | error e => exact .inl ⟨_, .badSelector hwant hselector⟩
  | ok selectors =>
    cases hbody : parseDocument body with
    | error e => exact .inl ⟨_, .badMarkup hwant hselector hbody⟩
    | ok tree =>
      cases hfound : select selectors tree with
      | nil => exact .inl ⟨_, .noElement hwant hselector hbody hfound⟩
      | cons first rest => exact .inr ⟨first, hwant, _, _, rest, hselector, hbody, hfound⟩

/-- A check that is refused is refused under any operator that finds these faults. -/
theorem onMarkup_of_refused (hname : Operator.ofName? name = some op)
    (hop : op.Decides c.Rejects holds) (hcount : name ≠ countName) {v : PageVerdict}
    (h : Refused c subject want body v) : onMarkup ⟨subject, name, want⟩ body = v := by
  cases h with
  | badWant h =>
    have htrial := compare_of_fault hname hop h subject "_"
    simp [onMarkup, htrial, Verdict.isValid, hcount]
  | badSelector hwant h =>
    have htrial := (compare_of_no_fault hname hop hwant subject "_").1
    simp [onMarkup, htrial, h]
  | badMarkup hwant hselector h =>
    have htrial := (compare_of_no_fault hname hop hwant subject "_").1
    simp [onMarkup, htrial, hselector, h]
  | noElement hwant hselector hbody h =>
    have htrial := (compare_of_no_fault hname hop hwant subject "_").1
    simp [onMarkup, onElements, htrial, hselector, hbody, h, hcount]

/-- A check that finds an element passes exactly if its operator holds of the content. -/
theorem onMarkup_of_finds (hname : Operator.ofName? name = some op)
    (hop : op.Decides c.Rejects holds) (hcount : name ≠ countName) {first : Place}
    (h : Finds c subject want body first) :
    (onMarkup ⟨subject, name, want⟩ body).message = [] ↔
      holds (innerText first.children) want := by
  obtain ⟨hwant, selectors, tree, rest, hselector, hbody, hfound⟩ := h
  have htrial := (compare_of_no_fault hname hop hwant subject "_").1
  rw [← (compare_of_no_fault hname hop hwant subject (innerText first.children)).2]
  simp [onMarkup, onElements, htrial, hselector, hbody, hfound, hcount, PageVerdict.message]

/-- The wanted value of a check that ends in `text`. -/
def wantAt (text : Bytes) : Bytes :=
  (Rune.join (skipSpace isSpace (runes text))).dropEnd [lineFeed]

theorem ofLine_spaced {selector operator : Bytes} (hselector : selector.IsWord)
    (hoperator : operator.IsWord) (text : Bytes) :
    ofLine (selector ++ " " ++ operator ++ " " ++ text) = ⟨selector, operator, wantAt text⟩ := by
  have hspace : runes ((" " : Bytes) ++ text) = ⟨' ', [32]⟩ :: runes text :=
    runes_cons_ascii (by decide) text
  have hparts := @ofLine_append [] selector " " operator (" " ++ text) (by decide) hselector
    (by decide) (by decide) hoperator (by simpa [hspace] using (by decide : isSpace ' ' = true))
  have hskip : skipSpace isSpace (⟨' ', [32]⟩ :: runes text) = skipSpace isSpace (runes text) :=
    List.dropWhile_cons_of_pos (by decide)
  rw [hspace, hskip] at hparts
  simpa [wantAt] using hparts

/-- What is said of markup under a check that is written with single spaces. -/
def messageOf (selector operator want body : Bytes) : Bytes :=
  ((ofLine (selector ++ " " ++ operator ++ " " ++ want)).onMarkup body).message

/-- A check and its negation are refused in the same words, or there is an element and exactly one
of them passes: the check if the comparison holds of the content, and its negation if not. -/
theorem refused_or_passes_iff {selector : Bytes} (hselector : selector.IsWord) (c : Comparison)
    (want body : Bytes) :
    let asked := messageOf selector c.names.1 want body
    let ruledOut := messageOf selector c.names.2 want body
    (∃ v, Refused c selector (wantAt want) body v ∧ asked = v.message ∧ ruledOut = v.message ∧
      v.message ≠ []) ∨
    ∃ first, Finds c selector (wantAt want) body first ∧
      (asked = [] ↔ c.Holds (innerText first.children) (wantAt want)) ∧
      (ruledOut = [] ↔ ¬c.Holds (innerText first.children) (wantAt want)) ∧
      (ruledOut = [] ↔ asked ≠ []) := by
  obtain ⟨⟨hword, hcount⟩, hword', hcount'⟩ := c.names_wellFormed
  obtain ⟨⟨op, hname, hop⟩, neg, hname', hneg⟩ := c.exists_decides
  simp only [messageOf, ofLine_spaced hselector hword, ofLine_spaced hselector hword']
  obtain ⟨v, hrefused⟩ | ⟨first, hfinds⟩ := refused_or_finds c selector (wantAt want) body
  · left
    refine ⟨v, hrefused, ?_, ?_, hrefused.message_ne_nil⟩
    · rw [onMarkup_of_refused hname hop hcount hrefused]
    · rw [onMarkup_of_refused hname' hneg hcount' hrefused]
  · right
    have hasked := onMarkup_of_finds hname hop hcount hfinds
    have hruledOut := onMarkup_of_finds hname' hneg hcount' hfinds
    exact ⟨first, hfinds, hasked, hruledOut, hruledOut.trans (not_congr hasked.symm)⟩

/-- The first of two items contains a text, with spaces around it in the check, so it is not ruled
out that it does. If there is no such element, both are refused. -/
theorem refused_or_passes_iff_items :
    (messageOf "li" "contains" "  ab\n" "<ul><li>xaby<li>x</ul>" = [] ∧
      messageOf "li" "!contains" "  ab\n" "<ul><li>xaby<li>x</ul>" ≠ []) ∧
    messageOf "ol" "contains" "  ab\n" "<ul><li>xaby<li>x</ul>" =
        "no elements match selector \"ol\"" ∧
      messageOf "ol" "!contains" "  ab\n" "<ul><li>xaby<li>x</ul>" =
        "no elements match selector \"ol\"" := by
  have hpasses : messageOf "li" "contains" "  ab\n" "<ul><li>xaby<li>x</ul>" = [] := by
    decide +kernel
  refine ⟨⟨hpasses, ?_⟩, by decide +kernel, by decide +kernel⟩
  obtain ⟨v, -, hasked, -, hne⟩ | ⟨first, -, -, -, hiff⟩ :=
    @refused_or_passes_iff "li" (by decide) .containing "  ab\n" "<ul><li>xaby<li>x</ul>"
  · exact absurd (hasked.symm.trans hpasses) hne
  · exact fun hruledOut => hiff.mp hruledOut hpasses

end Check

end KeyScript
