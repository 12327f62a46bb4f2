import Mathlib.Algebra.GroupWithZero.Nat
import SourceLint.Proofs.Report.Stability
import SourceLint.Report.Report

/-!
# Reports merged in turn

Reports can be put together in two ways: each is merged into the one so far, which is sorted every time, or
all are laid behind one another and sorted at the end.  Both ways lead to the same report, because a list of
which a part was sorted before is sorted into the same order.

* **`sortViolations_append_left`**, **`sortViolations_append_right`** — sorting a part beforehand makes no
  difference.
* **`Report.together`** — reports laid behind one another.
* **`Report.foldl_merge_sort_together`** — merging in turn, from any point on.
* **`Report.merged_in_turn_eq_sorted_once`** — what is known of the merged report.
-/

namespace SourceLint

/-! ### Parts that were sorted before -/

/-- Reports with the same ties are sorted into the same report. -/
theorem sortViolations_congr {vs ws : List Violation} (h : ∀ x, vs.filter (·.ties x) = ws.filter (·.ties x)) :
    sortViolations vs = sortViolations ws :=
  eq_sortViolations (pairwise_sortViolations vs) fun x => (filter_ties_sortViolations x vs).trans (h x)

theorem sortViolations_append_left (vs ws : List Violation) :
    sortViolations (sortViolations vs ++ ws) = sortViolations (vs ++ ws) := by
  refine sortViolations_congr fun x => ?_
  rw [List.filter_append, List.filter_append, filter_ties_sortViolations]

theorem sortViolations_append_right (vs ws : List Violation) :
    sortViolations (vs ++ sortViolations ws) = sortViolations (vs ++ ws) := by
  refine sortViolations_congr fun x => ?_
  rw [List.filter_append, List.filter_append, filter_ties_sortViolations]

namespace Report

/-! ### Merging in turn -/

/-- What the reports say, laid behind one another. -/
def together (rs : List Report) : Report :=
  ⟨rs.flatMap (·.violations), (rs.map (·.filesChecked)).sum, (rs.map (·.correctionsApplied)).sum⟩

theorem together_concat (rs : List Report) (r : Report) :
    together (rs ++ [r]) = ⟨(together rs).violations ++ r.violations,
      (together rs).filesChecked + r.filesChecked,
      (together rs).correctionsApplied + r.correctionsApplied⟩ := by
  simp [together]

/-- One more report is merged into those that were put together. -/
theorem merge_sort_together (rs : List Report) (r : Report) :
    (together rs).sort.merge r = (together (rs ++ [r])).sort := by
  rw [together_concat]
  simp only [merge, sort, sortViolations_append_left]

/-- **Reports that are merged in turn** add up to all of them, sorted once. -/
theorem foldl_merge_sort_together (rs later : List Report) :
    later.foldl merge (together rs).sort = (together (rs ++ later)).sort := by
  induction later generalizing rs with
  | nil => rw [List.append_nil, List.foldl_nil]
  | cons r later ih => rw [List.foldl_cons, merge_sort_together, ih, List.append_assoc, List.singleton_append]

/-- How the reports are grouped makes no difference. -/
theorem merge_assoc (a b c : Report) : (a.merge b).merge c = a.merge (b.merge c) := by
  simp only [merge, sort, sortViolations_append_left, sortViolations_append_right, List.append_assoc,
    Nat.add_assoc]

/-! ### Counting -/

/-- What is no error is a warning. -/
theorem countBySeverity_eq (r : Report) :
    r.countBySeverity = (r.violations.countP (·.severity == .error),
      r.violations.countP (·.severity == .warning)) := by
  have hwarnings : r.violations.countP (fun v => decide ¬ (v.severity == .error) = true) =
      r.violations.countP (·.severity == .warning) := by
    refine List.countP_congr fun v _ => ?_
    cases v.severity <;> decide
  have hlength : r.violations.length = r.violations.countP (·.severity == .error) +
      r.violations.countP (·.severity == .warning) := by
    rw [← hwarnings]
    exact List.length_eq_countP_add_countP fun v : Violation => v.severity == .error
  rw [countBySeverity, hlength, Nat.add_sub_cancel_left]

/-- Sorting changes no number. -/
theorem countP_sort_together (p : Violation → Bool) (rs : List Report) :
    (together rs).sort.violations.countP p = (rs.map fun r => r.violations.countP p).sum := by
  rw [sort, (sortViolations_perm _).countP_eq, together, List.countP_flatMap]
  rfl

/-- **Merging reports in turn is sorting all of them once.**  Hence the grouping of the reports does not
matter; the merged report has the violations of all reports in order, and those that the order does not tell
apart as the reports have them, one behind the other.  A violation in it reaches a threshold if one does in
some report, and its errors and warnings are those of the reports, added up. -/
theorem merged_in_turn_eq_sorted_once (rs : List Report) :
    rs.foldl merge empty = (together rs).sort ∧
      (∀ a b c : Report, (a.merge b).merge c = a.merge (b.merge c)) ∧
      (rs.foldl merge empty).violations.Perm (rs.flatMap (·.violations)) ∧
      ((rs.foldl merge empty).violations.Pairwise fun v w => v.notAfter w = true) ∧
      (∀ x, (rs.foldl merge empty).violations.filter (·.ties x) =
        (rs.flatMap (·.violations)).filter (·.ties x)) ∧
      (∀ threshold, (rs.foldl merge empty).hasViolationsAt threshold =
        rs.any (·.hasViolationsAt threshold)) ∧
      (rs.foldl merge empty).countBySeverity =
        ((rs.map (·.countBySeverity.1)).sum, (rs.map (·.countBySeverity.2)).sum) := by
  have hmerged : rs.foldl merge empty = (together rs).sort := by
    have hempty : empty = (together []).sort := by
      rw [sort, together, List.flatMap_nil, sortViolations, List.mergeSort_nil]
      rfl
    rw [hempty, foldl_merge_sort_together, List.nil_append]
  rw [hmerged]
  refine ⟨rfl, merge_assoc, sortViolations_perm _, pairwise_sortViolations _,
    fun x => filter_ties_sortViolations x _, fun threshold => ?_, ?_⟩
  · show (sortViolations (rs.flatMap (·.violations))).any _ = rs.any fun r => r.violations.any _
    rw [(sortViolations_perm _).any_eq, List.any_flatMap]
  · simp only [countBySeverity_eq, countP_sort_together]

end Report

end SourceLint
