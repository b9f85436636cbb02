import KeyScript.Proofs.Script.ByLine

/-!
# Diagnostics grouped by line

The diagnostics of a result are grouped by inserting them one after the other into groups that are
kept in the order of their lines. The group of a line is what a search for the line among all
diagnostics finds. For the result of a text there is at most one on a line.

## Main results

- `Result.errorsAt_insertByLine` — one more diagnostic
- `Result.errorsAt_errorLines` — the group of a line
- `errorsAt_parse_cases` — the group of a line of a text
- `flatMap_errorsAt_parse` — the groups of all lines of a text, put together
-/

namespace KeyScript

namespace Result

variable {groups : List (Int × List Diagnostic)} {e : Diagnostic} {l : Int}

/-- The groups are in the order of their lines, and there are no two for a line. -/
def IsOrdered (groups : List (Int × List Diagnostic)) : Prop := groups.Pairwise fun g h => g.1 < h.1

theorem errorsAt_cons (line : Int) (es : List Diagnostic) (groups : List (Int × List Diagnostic))
    (l : Int) : errorsAt ((line, es) :: groups) l = if l = line then es else errorsAt groups l := by
  by_cases h : l = line
  · simp [errorsAt, h]
  · have hne : (l == line) = false := beq_false_of_ne h
    simp [errorsAt, List.lookup_cons, hne, h]

theorem errorsAt_eq_nil (h : ∀ g ∈ groups, g.1 ≠ l) : errorsAt groups l = [] := by
  induction groups with
  | nil => rfl
  | cons g groups ih =>
    obtain ⟨hg, hgroups⟩ := List.forall_mem_cons.mp h
    rw [errorsAt_cons, if_neg hg.symm, ih hgroups]

theorem line_of_mem_insertByLine {g : Int × List Diagnostic} (h : g ∈ insertByLine e groups) :
    g.1 = e.line ∨ ∃ g' ∈ groups, g.1 = g'.1 := by
  induction groups with
  | nil => exact .inl (by simp_all [insertByLine])
  | cons first groups ih =>
    rw [insertByLine] at h
    split at h
    · rcases List.mem_cons.mp h with rfl | h
      · exact .inl rfl
      · exact .inr ⟨g, h, rfl⟩
    split at h
    · rcases List.mem_cons.mp h with rfl | h
      · exact .inr ⟨first, List.mem_cons_self, rfl⟩
      · exact .inr ⟨g, List.mem_cons_of_mem _ h, rfl⟩
    · rcases List.mem_cons.mp h with rfl | h
      · exact .inr ⟨first, List.mem_cons_self, rfl⟩
      · exact (ih h).imp_right fun ⟨g', hg', heq⟩ => ⟨g', List.mem_cons_of_mem _ hg', heq⟩

theorem isOrdered_insertByLine (h : IsOrdered groups) : IsOrdered (insertByLine e groups) := by
  induction groups with
  | nil => exact List.pairwise_singleton _ _
  | cons first groups ih =>
    obtain ⟨hfirst, hgroups⟩ := List.pairwise_cons.mp h
    rw [insertByLine]
    split
    · next hlt =>
      refine List.pairwise_cons.mpr ⟨fun g hg => ?_, h⟩
      rcases List.mem_cons.mp hg with rfl | hg
      · exact hlt
      · exact Int.lt_trans hlt (hfirst g hg)
    split
    · exact List.pairwise_cons.mpr ⟨hfirst, hgroups⟩
    next hnlt hne =>
    refine List.pairwise_cons.mpr ⟨fun g hg => ?_, ih hgroups⟩
    rcases line_of_mem_insertByLine hg with heq | ⟨g', hg', heq⟩
    · rw [heq]
      omega
    · exact heq ▸ hfirst g' hg'

/-- One more diagnostic goes to the end of the group of its line. -/
theorem errorsAt_insertByLine (h : IsOrdered groups) (e : Diagnostic) (l : Int) :
    errorsAt (insertByLine e groups) l =
      errorsAt groups l ++ if e.line == l then [e] else [] := by
  induction groups with
  | nil =>
    rw [insertByLine, errorsAt_cons]
    by_cases hl : l = e.line <;> grind [errorsAt]
  | cons first groups ih =>
    obtain ⟨hfirst, hgroups⟩ := List.pairwise_cons.mp h
    rw [insertByLine]
    split
    · next hlt =>
      rw [errorsAt_cons]
      split
      · next hl =>
        -- The line comes before all groups, so that there was none for it.
        have hnone : errorsAt (first :: groups) l = [] := by
          refine errorsAt_eq_nil fun g hg => ?_
          rcases List.mem_cons.mp hg with rfl | hg
          · omega
          · have := hfirst g hg
            omega
        rw [hnone, hl, beq_self_eq_true, if_pos rfl, List.nil_append]
      · next hl => rw [beq_false_of_ne (Ne.symm hl), if_neg Bool.false_ne_true, List.append_nil]
    split
    · next hsame =>
      rw [errorsAt_cons, errorsAt_cons]
      split
      · next hl => rw [hsame, hl, beq_self_eq_true, if_pos rfl]
      · next hl =>
        have hne : e.line ≠ l := fun heq => hl (heq ▸ hsame)
        rw [beq_false_of_ne hne, if_neg Bool.false_ne_true, List.append_nil]
    · next hne =>
      rw [errorsAt_cons, errorsAt_cons, ih hgroups]
      split
      · next hl => rw [beq_false_of_ne (hl ▸ hne), if_neg Bool.false_ne_true, List.append_nil]
      · rfl

theorem errorsAt_foldl (h : IsOrdered groups) (errors : List Diagnostic) (l : Int) :
    errorsAt (errors.foldl (fun groups e => insertByLine e groups) groups) l =
      errorsAt groups l ++ errors.filter fun e => e.line == l := by
  induction errors generalizing groups with
  | nil => simp
  | cons e errors ih =>
    rw [List.foldl_cons, ih (isOrdered_insertByLine h), errorsAt_insertByLine h, List.filter_cons,
      List.append_assoc]
    split <;> rfl

/-- The group of a line holds the diagnostics on the line in their order. -/
theorem errorsAt_errorLines (r : Result) (l : Int) :
    errorsAt r.errorLines l = r.errors.filter fun e => e.line == l :=
  errorsAt_foldl List.Pairwise.nil r.errors l

end Result

/-- On a line of a text there is no diagnostic or one. -/
theorem errorsAt_parse_cases (text : Bytes) (l : Int) :
    Result.errorsAt (parse text).errorLines l = [] ∨
      ∃ e, e.line = l ∧ Result.errorsAt (parse text).errorLines l = [e] := by
  rw [Result.errorsAt_errorLines]
  have hsorted : ((parse text).errors.filter fun e => e.line == l).Pairwise
      fun e f => e.line < f.line :=
    (accounts_parseMaxRepeat text 0).errors_sorted.filter _
  have hline : ∀ e ∈ (parse text).errors.filter fun e => e.line == l, e.line = l := fun e he =>
    beq_iff_eq.mp (List.mem_filter.mp he).2
  generalize (parse text).errors.filter (fun e => e.line == l) = errors at hsorted hline ⊢
  rcases errors with _ | ⟨e, _ | ⟨f, rest⟩⟩
  · exact .inl rfl
  · exact .inr ⟨e, hline e List.mem_cons_self, rfl⟩
  · -- Two diagnostics would be on different lines.
    have hlt := (List.pairwise_cons.mp hsorted).1 f List.mem_cons_self
    have he := hline e List.mem_cons_self
    have hf := hline f (by simp)
    omega

/-- The groups of the lines of a text, put together in the order of the lines, are all its
diagnostics. -/
theorem flatMap_errorsAt_parse (text : Bytes) :
    ((splitLines text).zipIdx 1).flatMap (fun p =>
        Result.errorsAt (parse text).errorLines (p.2 : Nat)) = (parse text).errors := by
  have hpieces := (LineByLine.separates_errorsOf 0 (splitLines text)).flatMap_filter_range
  have hlength : (LineByLine.errorsOf 0 (splitLines text)).length = (splitLines text).length := by
    rw [LineByLine.errorsOf, List.length_map, LineByLine.length_run]
  rw [hlength, LineByLine.flatten_errorsOf, ← parseMaxRepeat_eq_result] at hpieces
  have hnumbers : ((splitLines text).zipIdx 1).map Prod.snd =
      (List.range (splitLines text).length).map (1 + ·) := by
    rw [List.zipIdx_map_snd, List.range'_eq_map_range]
  rw [← List.flatMap_map Prod.snd fun n : Nat => Result.errorsAt (parse text).errorLines n,
    hnumbers, List.flatMap_map]
  simp only [Result.errorsAt_errorLines, Int.natCast_add, Int.natCast_one, Int.add_comm 1]
  exact hpieces

end KeyScript
