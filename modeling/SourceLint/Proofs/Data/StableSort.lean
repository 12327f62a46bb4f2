import Mathlib.Data.List.Basic

/-!
# Sorting and ties

An order that is total need not tell all elements apart.  Sorting keeps those that it does not tell apart
as they were, and that makes the sorted list the only one of its kind.

* **`filter_mergeSort`** — elements that all tie with each other stay as they were.
* **`eq_of_filter_tied_eq`** — two sorted lists with the same ties are equal.
-/

namespace SourceLint

variable {α : Type} {le : α → α → Bool}

/-- The order does not tell the elements apart. -/
def tied (le : α → α → Bool) (a b : α) : Bool :=
  le a b && le b a

theorem tied_iff {a b : α} : tied le a b = true ↔ le a b = true ∧ le b a = true := by
  rw [tied, Bool.and_eq_true]

/-- Elements that all tie with each other stay as they were. -/
theorem filter_mergeSort (trans : ∀ a b c, le a b = true → le b c = true → le a c = true)
    (total : ∀ a b, (le a b || le b a) = true) {p : α → Bool}
    (hp : ∀ a b, p a = true → p b = true → le a b = true) (as : List α) :
    (as.mergeSort le).filter p = as.filter p := by
  have hordered : (as.filter p).Pairwise fun a b => le a b = true :=
    List.pairwise_of_forall_mem_list fun a ha b hb =>
      hp a b (List.mem_filter.1 ha).2 (List.mem_filter.1 hb).2
  have hsub := (List.sublist_mergeSort trans total hordered List.filter_sublist).filter p
  simp only [List.filter_filter, Bool.and_self] at hsub
  exact (hsub.eq_of_length ((List.mergeSort_perm as le).filter p).length_eq.symm).symm

/-- Sorted lists are equal if for every element they have the same ties with it, in the same order. -/
theorem eq_of_filter_tied_eq (refl : ∀ a, le a a = true) {as bs : List α}
    (has : as.Pairwise fun a b => le a b = true) (hbs : bs.Pairwise fun a b => le a b = true)
    (h : ∀ x, as.filter (tied le x) = bs.filter (tied le x)) : as = bs := by
  have hself : ∀ a, tied le a a = true := fun a => tied_iff.2 ⟨refl a, refl a⟩
  induction as generalizing bs with
  | nil =>
    cases bs with
    | nil => rfl
    | cons b bs =>
      have hb := h b
      rw [List.filter_cons, if_pos (hself b)] at hb
      cases hb
  | cons a as ih =>
    cases bs with
    | nil =>
      have ha := h a
      rw [List.filter_cons, if_pos (hself a)] at ha
      cases ha
    | cons b bs =>
      have hmem : a ∈ b :: bs ∧ b ∈ a :: as := by
        constructor
        · have ha : a ∈ (a :: as).filter (tied le a) := List.mem_filter.2 ⟨List.mem_cons_self, hself a⟩
          rw [h a] at ha
          exact (List.mem_filter.1 ha).1
        · have hb : b ∈ (b :: bs).filter (tied le b) := List.mem_filter.2 ⟨List.mem_cons_self, hself b⟩
          rw [← h b] at hb
          exact (List.mem_filter.1 hb).1
      -- each head is in the other list, so neither comes after the other
      have hab : le a b = true := by
        rcases List.mem_cons.1 hmem.2 with rfl | hb
        · exact refl b
        · exact List.rel_of_pairwise_cons has hb
      have hba : le b a = true := by
        rcases List.mem_cons.1 hmem.1 with rfl | ha
        · exact refl a
        · exact List.rel_of_pairwise_cons hbs ha
      have hheads := h a
      rw [List.filter_cons, List.filter_cons, if_pos (hself a), if_pos (tied_iff.2 ⟨hab, hba⟩)] at hheads
      obtain rfl : a = b := (List.cons.inj hheads).1
      congr 1
      refine ih has.tail hbs.tail fun x => ?_
      have hx := h x
      rw [List.filter_cons, List.filter_cons] at hx
      cases hax : tied le x a with
      | true => simpa [hax] using hx
      | false => simpa [hax] using hx

end SourceLint
