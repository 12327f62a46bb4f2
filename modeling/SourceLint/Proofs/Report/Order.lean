import SourceLint.Report.Violation

/-!
# The order of reports

The order of reports compares files by the steps of their names, then offsets, then rules.  It is a
total preorder, which is what sorting needs.

* **`notAfter_trans`**, **`notAfter_total`** — the laws of the order.
* **`sortViolations_perm`**, **`pairwise_sortViolations`** — a sorted report has the same violations, in
  order.
-/

namespace SourceLint

namespace Files

instance : Std.TransOrd Component :=
  inferInstanceAs (Std.TransCmp
    (compareLex (compareLex (compareOn fun c : Component => c.key.1)
      (compareOn fun c : Component => PathName.bytes c.key.2)) (compareOn fun c : Component => c.key.2)))

end Files

namespace Violation

/-- The order of reports compares three keys, one after the other. -/
theorem order_eq_compareLex : order =
    compareLex (compareLex (compareOn fun v : Violation => Files.PathName.components v.location.file)
      (compareOn fun v : Violation => v.location.offset)) (compareOn fun v : Violation => v.rule) :=
  rfl

instance : Std.TransCmp order := by
  rw [order_eq_compareLex]
  infer_instance

theorem notAfter_iff {a b : Violation} : a.notAfter b = true ↔ (a.order b).isLE = true := by
  rw [notAfter]
  cases a.order b <;> decide

theorem notAfter_trans (a b c : Violation) (hab : a.notAfter b = true)
    (hbc : b.notAfter c = true) : a.notAfter c = true := by
  rw [notAfter_iff] at hab hbc ⊢
  exact Std.TransCmp.isLE_trans hab hbc

theorem notAfter_total (a b : Violation) : (a.notAfter b || b.notAfter a) = true := by
  have hswap : b.order a = (a.order b).swap := Std.OrientedCmp.eq_swap
  rw [Bool.or_eq_true, notAfter_iff, notAfter_iff, hswap]
  cases a.order b <;> decide

end Violation

theorem sortViolations_perm (vs : List Violation) : (sortViolations vs).Perm vs :=
  List.mergeSort_perm vs _

theorem pairwise_sortViolations (vs : List Violation) :
    (sortViolations vs).Pairwise fun a b => a.notAfter b = true :=
  List.pairwise_mergeSort Violation.notAfter_trans Violation.notAfter_total vs

end SourceLint
