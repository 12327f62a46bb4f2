import SourceLint.Proofs.Data.StableSort
import SourceLint.Proofs.Report.Order

/-!
# Reports are sorted stably

Violations that the order of reports does not tell apart stay in the order in which they were found.
Together with being sorted this leaves one list: it suffices to compare two reports tie by tie.

* **`Violation.ties`** — two violations that the order of reports does not tell apart;
  `Violation.ties_iff` says which these are.
* **`filter_ties_sortViolations`** — sorting keeps the violations that tie with a given one as they
  were.
* **`eq_of_filter_ties_eq`** — two sorted reports with the same ties are equal.
* **`eq_sortViolations`** — the sorted report is the one that is sorted and keeps all ties.
* **`filter_sortViolations`** — it makes no difference whether violations are left out before or after
  sorting.
-/

namespace SourceLint

namespace Files

instance : Std.LawfulEqOrd Component where
  compare_self {c} := by
    show ((compare c.key.1 c.key.1).then (compare (PathName.bytes c.key.2) (PathName.bytes c.key.2))).then
      (compare c.key.2 c.key.2) = .eq
    rw [Std.ReflOrd.compare_self, Std.ReflOrd.compare_self, Std.ReflOrd.compare_self]
    rfl
  eq_of_compare {a b} h := by
    change ((compare a.key.1 b.key.1).then
      (compare (PathName.bytes a.key.2) (PathName.bytes b.key.2))).then (compare a.key.2 b.key.2) = .eq at h
    rw [Ordering.then_eq_eq, Ordering.then_eq_eq] at h
    have h₁ : a.key.1 = b.key.1 := Std.LawfulEqOrd.eq_of_compare h.1.1
    have h₂ : a.key.2 = b.key.2 := Std.LawfulEqOrd.eq_of_compare h.2
    exact Component.key_injective (Prod.ext h₁ h₂)

end Files

namespace Violation

/-! ### Ties -/

/-- The order of reports does not tell the violations apart. -/
def ties (a b : Violation) : Bool :=
  a.order b == .eq

/-- Violations tie if their files have the same steps and they agree in offset and rule. -/
theorem ties_iff {a b : Violation} :
    a.ties b = true ↔
      Files.PathName.components a.location.file = Files.PathName.components b.location.file ∧
        a.location.offset = b.location.offset ∧ a.rule = b.rule := by
  rw [ties, beq_iff_eq, order, Ordering.then_eq_eq, Ordering.then_eq_eq, Files.PathName.order,
    Std.LawfulEqOrd.compare_eq_iff_eq, Std.LawfulEqOrd.compare_eq_iff_eq,
    Std.LawfulEqOrd.compare_eq_iff_eq, and_assoc]

theorem ties_self (a : Violation) : a.ties a = true :=
  ties_iff.2 ⟨rfl, rfl, rfl⟩

theorem ties_comm (a b : Violation) : a.ties b = b.ties a := by
  rw [Bool.eq_iff_iff, ties_iff, ties_iff]
  constructor
  · rintro ⟨hf, ho, hr⟩
    exact ⟨hf.symm, ho.symm, hr.symm⟩
  · rintro ⟨hf, ho, hr⟩
    exact ⟨hf.symm, ho.symm, hr.symm⟩

theorem ties_trans {a b c : Violation} (hab : a.ties b = true) (hbc : b.ties c = true) :
    a.ties c = true := by
  rw [ties_iff] at hab hbc ⊢
  exact ⟨hab.1.trans hbc.1, hab.2.1.trans hbc.2.1, hab.2.2.trans hbc.2.2⟩

/-- Violations tie if neither comes after the other. -/
theorem ties_iff_notAfter {a b : Violation} :
    a.ties b = true ↔ a.notAfter b = true ∧ b.notAfter a = true := by
  have hswap : b.order a = (a.order b).swap := Std.OrientedCmp.eq_swap
  rw [ties, notAfter, notAfter, hswap]
  cases a.order b <;> decide

end Violation

/-! ### Sorting keeps ties -/

/-- Those of some violations that tie with a given one stay as they were. -/
theorem filter_ties_sortViolations (x : Violation) (vs : List Violation) :
    (sortViolations vs).filter (·.ties x) = vs.filter (·.ties x) := by
  refine filter_mergeSort Violation.notAfter_trans Violation.notAfter_total (fun a b ha hb => ?_) vs
  have hab : a.ties b = true := Violation.ties_trans ha ((Violation.ties_comm x b).trans hb)
  exact (Violation.ties_iff_notAfter.1 hab).1

/-- Sorted reports are equal if for every violation they have the same violations, in the same order,
that tie with it. -/
theorem eq_of_filter_ties_eq {vs ws : List Violation}
    (hvs : vs.Pairwise fun a b => a.notAfter b = true)
    (hws : ws.Pairwise fun a b => a.notAfter b = true)
    (h : ∀ x, vs.filter (·.ties x) = ws.filter (·.ties x)) : vs = ws := by
  have htied : ∀ x, tied Violation.notAfter x = (·.ties x) := by
    intro x
    funext v
    rw [Violation.ties_comm, Bool.eq_iff_iff, tied_iff, Violation.ties_iff_notAfter]
  refine eq_of_filter_tied_eq (fun v => ?_) hvs hws fun x => ?_
  · exact (Violation.ties_iff_notAfter.1 v.ties_self).1
  · rw [htied, h x]

/-- **The sorted report** of some violations is the list that is sorted and keeps their ties. -/
theorem eq_sortViolations {vs ws : List Violation}
    (hws : ws.Pairwise fun a b => a.notAfter b = true)
    (h : ∀ x, ws.filter (·.ties x) = vs.filter (·.ties x)) : ws = sortViolations vs :=
  eq_of_filter_ties_eq hws (pairwise_sortViolations vs) fun x =>
    (h x).trans (filter_ties_sortViolations x vs).symm

/-- What is left out of a sorted report might as well have been left out before. -/
theorem filter_sortViolations (p : Violation → Bool) (vs : List Violation) :
    (sortViolations vs).filter p = sortViolations (vs.filter p) := by
  refine eq_sortViolations ((pairwise_sortViolations vs).filter p) fun x => ?_
  rw [List.filter_comm, filter_ties_sortViolations, List.filter_comm]

end SourceLint
