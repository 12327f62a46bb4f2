import SourceLint.Proofs.Files.Names
import SourceLint.Proofs.Report.Stability

/-!
# The one way to sort a report

The order of reports puts any two violations in an order, except for those that agree in file, offset and
rule.  Files agree if their names have the same steps, which is less than being the same text.  A list has
therefore just one sorting that leaves such violations as they were.

* **`ComparesPreorder`** — a comparison is that of a total preorder.
* **`Violation.order_eq_eq_iff`** — which violations the order of reports does not tell apart.
* **`IsSorting`** — a list is another one, sorted and with equal violations as they were.
* **`reports_sorted_uniquely`** — the laws of the order, and the list that sorting returns.
-/

namespace SourceLint

open Files

/-! ### Laws of comparisons -/

/-- The comparison is that of a total preorder. -/
structure ComparesPreorder {α : Type} (compare : α → α → Ordering) : Prop where
  total : ∀ a b, (compare a b).isLE = true ∨ (compare b a).isLE = true
  swap : ∀ a b, compare b a = (compare a b).swap
  trans : ∀ a b c, (compare a b).isLE = true → (compare b c).isLE = true → (compare a c).isLE = true

namespace Violation

theorem comparesPreorder_order : ComparesPreorder order where
  total a b := by
    have h := notAfter_total a b
    rw [Bool.or_eq_true, notAfter_iff, notAfter_iff] at h
    exact h
  swap _ _ := Std.OrientedCmp.eq_swap
  trans _ _ _ := Std.TransCmp.isLE_trans

theorem order_eq_eq_iff {a b : Violation} :
    a.order b = .eq ↔
      PathName.components a.location.file = PathName.components b.location.file ∧
        a.location.offset = b.location.offset ∧ a.rule = b.rule := by
  rw [← ties_iff, ties, beq_iff_eq]

end Violation

/-! ### Sortings -/

/-- The second list has the violations of the first one in the order of reports, and those that the order does
not tell apart as they were. -/
structure IsSorting (vs ws : List Violation) : Prop where
  perm : ws.Perm vs
  ascending : ws.Pairwise fun a b => (a.order b).isLE = true
  stable : ∀ x : Violation, (ws.filter fun v => v.order x == .eq) = vs.filter fun v => v.order x == .eq

theorem isSorting_sortViolations (vs : List Violation) : IsSorting vs (sortViolations vs) where
  perm := sortViolations_perm vs
  ascending := (pairwise_sortViolations vs).imp Violation.notAfter_iff.1
  stable x := filter_ties_sortViolations x vs

theorem IsSorting.eq_sortViolations {vs ws : List Violation} (h : IsSorting vs ws) :
    ws = sortViolations vs :=
  SourceLint.eq_sortViolations (h.ascending.imp Violation.notAfter_iff.2) h.stable

/-- A sorted list is its own sorting. -/
theorem IsSorting.self {vs ws : List Violation} (h : IsSorting vs ws) : IsSorting ws ws :=
  ⟨.refl ws, h.ascending, fun _ => rfl⟩

/-- **The order of reports is a total preorder, and sorting returns the only stable sorting.**  Any two
violations can be compared, the other way round with the opposite result, and comparisons are transitive.
Violations are equal for the order exactly if the names of their files have the same steps and they agree in
offset and rule.  For every list, sorting returns the permutation of it that is ascending and keeps equal
violations in the order in which they were, and there is no other.  To sort again changes nothing. -/
theorem reports_sorted_uniquely :
    ComparesPreorder Violation.order ∧
      (∀ a b : Violation, a.order b = .eq ↔
        PathName.components a.location.file = PathName.components b.location.file ∧
          a.location.offset = b.location.offset ∧ a.rule = b.rule) ∧
      (∀ vs ws : List Violation, IsSorting vs ws ↔ ws = sortViolations vs) ∧
      ∀ vs : List Violation, sortViolations (sortViolations vs) = sortViolations vs := by
  refine ⟨Violation.comparesPreorder_order, fun _ _ => Violation.order_eq_eq_iff, fun vs ws => ⟨?_, ?_⟩,
    fun vs => ?_⟩
  · exact IsSorting.eq_sortViolations
  · rintro rfl
    exact isSorting_sortViolations vs
  · exact (isSorting_sortViolations vs).self.eq_sortViolations.symm

/-- Violations in files whose names differ as texts, but not in their steps: the rule decides. -/
example : Violation.order ⟨"b", .error, ⟨"./src//a.rs", 1, 1, 0, 1⟩, none⟩
    ⟨"a", .error, ⟨"./src/./a.rs/", 1, 1, 0, 1⟩, none⟩ = .gt := by
  decide

end SourceLint
