import SourceLint.Proofs.Edit.Compatible

/-!
# Choosing substitutions

Of a list of labelled substitutions each one is accepted that no earlier accepted one overlaps.  The
induction is on the list; what was accepted before is arbitrary, so that each fact is one about the rest
of a list.

* **`acceptAfter_perm`** — every label is kept or dropped, and once.
* **`acceptAfter_sublist`** — what is kept stays in order.
* **`pairwise_acceptAfter`** — no two that are kept overlap.
* **`acceptAfter_append`** — what comes later in the list changes no decision.
* **`acceptNonOverlapping_eq_nil_iff`** — the first of the list is always kept.
* **`acceptNonOverlapping_concat`** — the last of the list is kept if nothing that is kept overlaps it, and
  dropped otherwise.
* **`acceptNonOverlapping_map`** — choosing asks for nothing but overlaps.
-/

namespace SourceLint

variable {α : Type}

theorem acceptAfter_cons_of_overlap {accepted : List Substitution} {s : Substitution}
    (h : (accepted.any fun a => a.overlaps s) = true) (label : α)
    (rest : List (α × Substitution)) :
    acceptAfter accepted ((label, s) :: rest) =
      ((acceptAfter accepted rest).1, label :: (acceptAfter accepted rest).2) := by
  rw [acceptAfter, if_pos h]

theorem acceptAfter_cons_of_no_overlap {accepted : List Substitution} {s : Substitution}
    (h : (accepted.any fun a => a.overlaps s) = false) (label : α)
    (rest : List (α × Substitution)) :
    acceptAfter accepted ((label, s) :: rest) =
      ((label, s) :: (acceptAfter (accepted ++ [s]) rest).1,
        (acceptAfter (accepted ++ [s]) rest).2) := by
  rw [acceptAfter, if_neg (by rw [h]; exact Bool.false_ne_true)]

theorem acceptAfter_perm (accepted : List Substitution) (candidates : List (α × Substitution)) :
    ((acceptAfter accepted candidates).1.map (·.1) ++ (acceptAfter accepted candidates).2).Perm
      (candidates.map (·.1)) := by
  induction candidates generalizing accepted with
  | nil => exact List.Perm.refl _
  | cons c rest ih =>
    obtain ⟨label, s⟩ := c
    cases h : accepted.any fun a => a.overlaps s with
    | true =>
      rw [acceptAfter_cons_of_overlap h]
      exact List.perm_middle.trans ((ih accepted).cons label)
    | false =>
      rw [acceptAfter_cons_of_no_overlap h]
      exact (ih (accepted ++ [s])).cons label

theorem acceptAfter_sublist (accepted : List Substitution)
    (candidates : List (α × Substitution)) :
    (acceptAfter accepted candidates).1.Sublist candidates := by
  induction candidates generalizing accepted with
  | nil => exact List.Sublist.refl _
  | cons c rest ih =>
    obtain ⟨label, s⟩ := c
    cases h : accepted.any fun a => a.overlaps s with
    | true =>
      rw [acceptAfter_cons_of_overlap h]
      exact (ih accepted).cons _
    | false =>
      rw [acceptAfter_cons_of_no_overlap h]
      exact (ih (accepted ++ [s])).cons_cons _

/-- Nothing that is kept overlaps what was accepted before. -/
theorem overlaps_acceptAfter {accepted : List Substitution}
    {candidates : List (α × Substitution)} {a : Substitution} (ha : a ∈ accepted) :
    ∀ s ∈ (acceptAfter accepted candidates).1.map (·.2), a.overlaps s = false := by
  induction candidates generalizing accepted with
  | nil => simp [acceptAfter]
  | cons c rest ih =>
    obtain ⟨label, s⟩ := c
    cases h : accepted.any fun a => a.overlaps s with
    | true =>
      rw [acceptAfter_cons_of_overlap h]
      exact ih ha
    | false =>
      rw [acceptAfter_cons_of_no_overlap h]
      intro t ht
      rcases List.mem_cons.1 ht with rfl | ht
      · exact Bool.eq_false_iff.2 (List.any_eq_false.1 h a ha)
      · exact ih (List.mem_append_left [s] ha) t ht

theorem pairwise_acceptAfter (accepted : List Substitution)
    (candidates : List (α × Substitution)) :
    ((acceptAfter accepted candidates).1.map (·.2)).Pairwise fun a b => a.overlaps b = false := by
  induction candidates generalizing accepted with
  | nil => exact List.Pairwise.nil
  | cons c rest ih =>
    obtain ⟨label, s⟩ := c
    cases h : accepted.any fun a => a.overlaps s with
    | true =>
      rw [acceptAfter_cons_of_overlap h]
      exact ih accepted
    | false =>
      rw [acceptAfter_cons_of_no_overlap h]
      exact List.pairwise_cons.2 ⟨overlaps_acceptAfter (by simp), ih (accepted ++ [s])⟩

/-- The decisions about a list are the first of those about a longer one. -/
theorem acceptAfter_append (accepted : List Substitution) (as bs : List (α × Substitution)) :
    acceptAfter accepted (as ++ bs) =
      ((acceptAfter accepted as).1 ++
          (acceptAfter (accepted ++ (acceptAfter accepted as).1.map (·.2)) bs).1,
        (acceptAfter accepted as).2 ++
          (acceptAfter (accepted ++ (acceptAfter accepted as).1.map (·.2)) bs).2) := by
  induction as generalizing accepted with
  | nil => simp [acceptAfter]
  | cons c as ih =>
    obtain ⟨label, s⟩ := c
    rw [List.cons_append]
    cases h : accepted.any fun a => a.overlaps s with
    | true => rw [acceptAfter_cons_of_overlap h, acceptAfter_cons_of_overlap h, ih, List.cons_append]
    | false =>
      rw [acceptAfter_cons_of_no_overlap h, acceptAfter_cons_of_no_overlap h, ih, List.map_cons,
        ← List.append_cons, List.cons_append]

/-- One more candidate at the end is kept or dropped, and changes nothing else. -/
theorem acceptNonOverlapping_concat (candidates : List (α × Substitution)) (c : α × Substitution) :
    acceptNonOverlapping (candidates ++ [c]) =
      if ((acceptNonOverlapping candidates).1.map (·.2)).any fun a => a.overlaps c.2 then
        ((acceptNonOverlapping candidates).1, (acceptNonOverlapping candidates).2 ++ [c.1])
      else ((acceptNonOverlapping candidates).1 ++ [c], (acceptNonOverlapping candidates).2) := by
  rw [acceptNonOverlapping, acceptAfter_append, List.nil_append]
  cases h : ((acceptAfter [] candidates).1.map (·.2)).any fun a => a.overlaps c.2 with
  | true =>
    rw [acceptAfter_cons_of_overlap h, acceptNonOverlapping, if_pos h, acceptAfter, List.append_nil]
  | false =>
    rw [acceptAfter_cons_of_no_overlap h, acceptNonOverlapping, h, if_neg Bool.false_ne_true, acceptAfter,
      List.append_nil]

/-- Where substitutions are changed so that the same ones overlap, the same ones are chosen, whatever the
labels are turned into. -/
theorem acceptAfter_map {β : Type} {g : Substitution → Substitution}
    (hg : ∀ a b, (g a).overlaps (g b) = a.overlaps b) (f : α → β) (accepted : List Substitution)
    (candidates : List (α × Substitution)) :
    acceptAfter (accepted.map g) (candidates.map (Prod.map f g)) =
      ((acceptAfter accepted candidates).1.map (Prod.map f g),
        (acceptAfter accepted candidates).2.map f) := by
  induction candidates generalizing accepted with
  | nil => rfl
  | cons c rest ih =>
    obtain ⟨label, s⟩ := c
    have hany : ((accepted.map g).any fun a => a.overlaps (g s)) = accepted.any fun a => a.overlaps s := by
      rw [List.any_map]
      exact congrArg accepted.any (funext fun a => hg a s)
    rw [List.map_cons, Prod.map_apply]
    cases h : accepted.any fun a => a.overlaps s with
    | true => rw [acceptAfter_cons_of_overlap h, acceptAfter_cons_of_overlap (hany.trans h), ih, List.map_cons]
    | false =>
      have hlater := ih (accepted ++ [s])
      rw [List.map_append, List.map_singleton] at hlater
      rw [acceptAfter_cons_of_no_overlap h, acceptAfter_cons_of_no_overlap (hany.trans h), hlater,
        List.map_cons, Prod.map_apply]

theorem acceptNonOverlapping_map {β : Type} {g : Substitution → Substitution}
    (hg : ∀ a b, (g a).overlaps (g b) = a.overlaps b) (f : α → β) (candidates : List (α × Substitution)) :
    acceptNonOverlapping (candidates.map (Prod.map f g)) =
      ((acceptNonOverlapping candidates).1.map (Prod.map f g),
        (acceptNonOverlapping candidates).2.map f) :=
  acceptAfter_map hg f [] candidates

theorem acceptNonOverlapping_eq_nil_iff {candidates : List (α × Substitution)} :
    (acceptNonOverlapping candidates).1 = [] ↔ candidates = [] := by
  cases candidates with
  | nil => simp [acceptNonOverlapping, acceptAfter]
  | cons c rest =>
    obtain ⟨label, s⟩ := c
    rw [acceptNonOverlapping, acceptAfter_cons_of_no_overlap rfl]
    simp

/-- Of substitutions that do not overlap all are kept. -/
theorem acceptAfter_eq_self {accepted : List Substitution} {candidates : List (α × Substitution)}
    (h : (accepted ++ candidates.map (·.2)).Pairwise fun a b => a.overlaps b = false) :
    acceptAfter accepted candidates = (candidates, []) := by
  induction candidates generalizing accepted with
  | nil => rfl
  | cons c rest ih =>
    obtain ⟨label, s⟩ := c
    have hs : (accepted.any fun a => a.overlaps s) = false := by
      rw [List.any_eq_false]
      intro a ha
      rw [(List.pairwise_append.1 h).2.2 a ha s List.mem_cons_self]
      exact Bool.false_ne_true
    rw [List.map_cons, List.append_cons] at h
    rw [acceptAfter_cons_of_no_overlap hs, ih h]

/-- Of valid substitutions those that are kept can be applied together. -/
theorem compatible_acceptNonOverlapping {text : List Char} {candidates : List (α × Substitution)}
    (hv : ∀ c ∈ candidates, c.2.validate text = .ok ()) :
    Compatible text ((acceptNonOverlapping candidates).1.map (·.2)) := by
  refine ⟨fun s hs => ?_, pairwise_acceptAfter [] candidates⟩
  obtain ⟨c, hc, rfl⟩ := List.mem_map.1 hs
  exact hv c ((acceptAfter_sublist [] candidates).subset hc)

end SourceLint
