import Mathlib.Data.List.Induction
import SourceLint.Proofs.Edit.Acceptance

/-!
# The first one wins

Candidates are decided one after the other, and a decision is never taken back: a candidate is accepted if
and only if no candidate that was accepted before it overlaps it.  This rule alone leaves one possible list of
decisions, whatever the substitutions are; they need not be valid.

* **`FirstWins`** — decisions about candidates that follow the rule.
* **`acceptedBy`**, **`rejectedBy`** — what decisions make of the candidates.
* **`FirstWins.concat`** — the decision about one more candidate.
* **`FirstWins.unique`**, **`FirstWins.take`** — there is one list of decisions, and that for a longer list
  begins with it.
* **`mem_or_exists_overlaps`** — what becomes of one candidate.
* **`acceptNonOverlapping_firstWins`** — substitutions are chosen by these decisions.
-/

namespace SourceLint

variable {α : Type} {candidates : List (α × Substitution)} {decisions others : List Bool}

/-- Decisions about candidates, one for each: a candidate is accepted if and only if no candidate before it
that is accepted overlaps it. -/
structure FirstWins (candidates : List (α × Substitution)) (decisions : List Bool) : Prop where
  length_eq : decisions.length = candidates.length
  accepts_iff : ∀ (i : Nat) (c : α × Substitution), candidates[i]? = some c → (decisions[i]? = some true ↔
    ∀ (j : Nat) (d : α × Substitution), j < i → candidates[j]? = some d → decisions[j]? = some true →
      d.2.overlaps c.2 = false)

/-- The candidates that are accepted, in their order. -/
def acceptedBy (candidates : List (α × Substitution)) (decisions : List Bool) :
    List (α × Substitution) :=
  ((candidates.zip decisions).filter fun p => p.2).map fun p => p.1

/-- The labels of the candidates that are not accepted, in their order. -/
def rejectedBy (candidates : List (α × Substitution)) (decisions : List Bool) : List α :=
  ((candidates.zip decisions).filter fun p => !p.2).map fun p => p.1.1

theorem mem_acceptedBy {a : α × Substitution} :
    a ∈ acceptedBy candidates decisions ↔ ∃ j : Nat, candidates[j]? = some a ∧ decisions[j]? = some true := by
  rw [acceptedBy, List.mem_map]
  constructor
  · rintro ⟨p, hp, rfl⟩
    obtain ⟨hmem, haccepted⟩ := List.mem_filter.1 hp
    obtain ⟨j, hj⟩ := List.mem_iff_getElem?.1 hmem
    obtain ⟨hcandidate, hdecision⟩ := List.getElem?_zip_eq_some.1 hj
    exact ⟨j, hcandidate, hdecision.trans (congrArg some haccepted)⟩
  · rintro ⟨j, hcandidate, hdecision⟩
    have hmem : (a, true) ∈ candidates.zip decisions :=
      List.mem_iff_getElem?.2 ⟨j, List.getElem?_zip_eq_some.2 ⟨hcandidate, hdecision⟩⟩
    exact ⟨(a, true), List.mem_filter.2 ⟨hmem, rfl⟩, rfl⟩

theorem acceptedBy_concat (hlength : decisions.length = candidates.length) (c : α × Substitution)
    (accepts : Bool) : acceptedBy (candidates ++ [c]) (decisions ++ [accepts]) =
      acceptedBy candidates decisions ++ if accepts then [c] else [] := by
  rw [acceptedBy, List.zip_append hlength.symm, List.filter_append, List.map_append]
  cases accepts <;> rfl

theorem rejectedBy_concat (hlength : decisions.length = candidates.length) (c : α × Substitution)
    (accepts : Bool) : rejectedBy (candidates ++ [c]) (decisions ++ [accepts]) =
      rejectedBy candidates decisions ++ if accepts then [] else [c.1] := by
  rw [rejectedBy, List.zip_append hlength.symm, List.filter_append, List.map_append]
  cases accepts <;> rfl

/-! ### One candidate after the other -/

theorem firstWins_nil : FirstWins ([] : List (α × Substitution)) [] where
  length_eq := rfl
  accepts_iff i c hc := by cases hc

/-- The decision about one more candidate looks at those that are accepted. -/
theorem FirstWins.concat (h : FirstWins candidates decisions) (c : α × Substitution) :
    FirstWins (candidates ++ [c])
      (decisions ++ [!(acceptedBy candidates decisions).any fun a => a.2.overlaps c.2]) where
  length_eq := by rw [List.length_append, List.length_append, h.length_eq]; rfl
  accepts_iff i e he := by
    have hcandidate : ∀ j, j < candidates.length → (candidates ++ [c])[j]? = candidates[j]? := fun j hj =>
      List.getElem?_append_left hj
    have hdecision : ∀ j, j < candidates.length → ∀ b, (decisions ++ [b])[j]? = decisions[j]? :=
      fun j hj b => List.getElem?_append_left (h.length_eq ▸ hj)
    by_cases hi : i < candidates.length
    · -- what is said about an earlier candidate does not mention the new one
      rw [hcandidate i hi] at he
      rw [hdecision i hi, h.accepts_iff i e he]
      refine forall₃_congr fun j d hj => ?_
      rw [hcandidate j (Nat.lt_trans hj hi), hdecision j (Nat.lt_trans hj hi)]
    · obtain ⟨rfl, rfl⟩ : i = candidates.length ∧ c = e := by
        have hlast : i < (candidates ++ [c]).length := (List.getElem?_eq_some_iff.1 he).1
        rw [List.length_append, List.length_singleton] at hlast
        obtain rfl : i = candidates.length := by omega
        rw [List.getElem?_concat_length] at he
        exact ⟨rfl, Option.some.inj he⟩
      rw [← h.length_eq, List.getElem?_concat_length, Option.some.injEq, Bool.not_eq_true',
        List.any_eq_false, h.length_eq]
      constructor
      · intro hfree j d hj hd hb
        rw [hcandidate j hj] at hd
        rw [hdecision j hj] at hb
        exact Bool.eq_false_iff.2 (hfree d (mem_acceptedBy.2 ⟨j, hd, hb⟩))
      · intro hfree a ha
        obtain ⟨j, hd, hb⟩ := mem_acceptedBy.1 ha
        have hj : j < candidates.length := (List.getElem?_eq_some_iff.1 hd).1
        rw [← hcandidate j hj] at hd
        rw [← hdecision j hj] at hb
        exact Bool.eq_false_iff.1 (hfree j a hj hd hb)

/-- **All candidates are decided by the rule.** -/
theorem exists_firstWins (candidates : List (α × Substitution)) :
    ∃ decisions, FirstWins candidates decisions ∧
      acceptNonOverlapping candidates = (acceptedBy candidates decisions, rejectedBy candidates decisions) := by
  induction candidates using List.reverseRecOn with
  | nil => exact ⟨[], firstWins_nil, rfl⟩
  | append_singleton candidates c ih =>
    obtain ⟨decisions, hwins, hchoice⟩ := ih
    refine ⟨_, hwins.concat c, ?_⟩
    rw [acceptNonOverlapping_concat, hchoice, List.any_map, acceptedBy_concat hwins.length_eq,
      rejectedBy_concat hwins.length_eq]
    cases h : (acceptedBy candidates decisions).any fun a => a.2.overlaps c.2 with
    | true => simp [Function.comp_def, h]
    | false => simp [Function.comp_def, h]

/-! ### No other decisions -/

theorem FirstWins.exists_getElem? (h : FirstWins candidates decisions) {i : Nat} {c : α × Substitution}
    (hc : candidates[i]? = some c) : ∃ b, decisions[i]? = some b := by
  have hi : i < candidates.length := (List.getElem?_eq_some_iff.1 hc).1
  exact ⟨_, List.getElem?_eq_getElem (h.length_eq ▸ hi)⟩

/-- The rule leaves no choice. -/
theorem FirstWins.unique (h : FirstWins candidates decisions) (h' : FirstWins candidates others) :
    others = decisions := by
  refine List.ext_getElem? fun i => ?_
  -- a decision depends on the earlier ones only, which are the same by induction
  induction i using Nat.strongRecOn with
  | ind i ih =>
    cases hc : candidates[i]? with
    | none =>
      have hi : candidates.length ≤ i := List.getElem?_eq_none_iff.1 hc
      rw [List.getElem?_eq_none_iff.2 (h'.length_eq ▸ hi), List.getElem?_eq_none_iff.2 (h.length_eq ▸ hi)]
    | some c =>
      have hsame : others[i]? = some true ↔ decisions[i]? = some true := by
        rw [h.accepts_iff i c hc, h'.accepts_iff i c hc]
        refine forall₃_congr fun j d hj => ?_
        rw [ih j hj]
      obtain ⟨b, hb⟩ := h.exists_getElem? hc
      obtain ⟨b', hb'⟩ := h'.exists_getElem? hc
      rw [hb, hb', Option.some.injEq, Option.some.injEq, ← Bool.eq_iff_iff] at hsame
      rw [hb, hb', hsame]

/-- Decisions about a list say nothing else about its first candidates. -/
theorem FirstWins.take {more : List (α × Substitution)} (h : FirstWins (candidates ++ more) decisions) :
    FirstWins candidates (decisions.take candidates.length) where
  length_eq := by
    rw [List.length_take, h.length_eq, List.length_append]
    omega
  accepts_iff i c hc := by
    have hi : i < candidates.length := (List.getElem?_eq_some_iff.1 hc).1
    have hcandidate : ∀ j, j < candidates.length → (candidates ++ more)[j]? = candidates[j]? := fun j hj =>
      List.getElem?_append_left hj
    rw [List.getElem?_take_of_lt hi, h.accepts_iff i c ((hcandidate i hi).trans hc)]
    refine forall₃_congr fun j d hj => ?_
    rw [hcandidate j (Nat.lt_trans hj hi), List.getElem?_take_of_lt (Nat.lt_trans hj hi)]

/-- A candidate is rejected because of one that was accepted. -/
theorem FirstWins.exists_overlaps (h : FirstWins candidates decisions) {i : Nat} {c : α × Substitution}
    (hc : candidates[i]? = some c) (hrejected : decisions[i]? = some false) :
    ∃ a ∈ acceptedBy candidates decisions, a.2.overlaps c.2 = true := by
  by_contra hnone
  have haccepted : decisions[i]? = some true := by
    refine (h.accepts_iff i c hc).2 fun j d _ hd hb => Bool.eq_false_iff.2 fun hoverlap => ?_
    exact hnone ⟨d, mem_acceptedBy.2 ⟨j, hd, hb⟩, hoverlap⟩
  cases hrejected.symm.trans haccepted

/-- Every candidate is accepted, or one that it would get in the way of is. -/
theorem mem_or_exists_overlaps {c : α × Substitution} (hc : c ∈ candidates) :
    c ∈ (acceptNonOverlapping candidates).1 ∨
      ∃ a ∈ (acceptNonOverlapping candidates).1, a.2.overlaps c.2 = true := by
  obtain ⟨decisions, hwins, hchoice⟩ := exists_firstWins candidates
  obtain ⟨i, hi⟩ := List.mem_iff_getElem?.1 hc
  obtain ⟨b, hb⟩ := hwins.exists_getElem? hi
  rw [hchoice]
  cases b with
  | true => exact .inl (mem_acceptedBy.2 ⟨i, hi, hb⟩)
  | false => exact .inr (hwins.exists_overlaps hi hb)

/-- **The first one wins.**  Candidates are accepted and rejected by the only decisions of which each says
that a candidate is accepted if and only if no earlier accepted one overlaps it.  What is accepted stands in
the order of the candidates, and no two of it overlap, whichever is asked about the other; nothing that was
rejected could be added.  Choosing once more among what was accepted rejects nothing, and the decisions about
a list are the first ones about every longer list that begins with it. -/
theorem acceptNonOverlapping_firstWins (candidates : List (α × Substitution)) :
    ∃ decisions, FirstWins candidates decisions ∧
      (∀ others, FirstWins candidates others → others = decisions) ∧
      acceptNonOverlapping candidates =
        (acceptedBy candidates decisions, rejectedBy candidates decisions) ∧
      (acceptedBy candidates decisions).Sublist candidates ∧
      ((acceptedBy candidates decisions).Pairwise fun a b =>
        a.2.overlaps b.2 = false ∧ b.2.overlaps a.2 = false) ∧
      (∀ (i : Nat) c, candidates[i]? = some c → decisions[i]? = some false →
        ∃ a ∈ acceptedBy candidates decisions, a.2.overlaps c.2 = true ∧ c.2.overlaps a.2 = true) ∧
      acceptNonOverlapping (acceptedBy candidates decisions) = (acceptedBy candidates decisions, []) ∧
      ∀ more longer, FirstWins (candidates ++ more) longer → decisions <+: longer := by
  obtain ⟨decisions, hwins, hchoice⟩ := exists_firstWins candidates
  have haccepted : (acceptNonOverlapping candidates).1 = acceptedBy candidates decisions := by rw [hchoice]
  have hapart := pairwise_acceptAfter [] candidates
  rw [← acceptNonOverlapping, haccepted] at hapart
  refine ⟨decisions, hwins, fun others hothers => hwins.unique hothers, hchoice, ?_, ?_, ?_, ?_, ?_⟩
  · exact haccepted ▸ acceptAfter_sublist [] candidates
  · refine (List.pairwise_map.1 hapart).imp fun {a b} hab => ⟨hab, ?_⟩
    exact (Substitution.overlaps_comm b.2 a.2).trans hab
  · intro i c hc hrejected
    obtain ⟨a, ha, hoverlap⟩ := hwins.exists_overlaps hc hrejected
    exact ⟨a, ha, hoverlap, (Substitution.overlaps_comm c.2 a.2).trans hoverlap⟩
  · show acceptAfter [] (acceptedBy candidates decisions) = _
    exact acceptAfter_eq_self hapart
  · intro more longer hlonger
    exact hwins.unique hlonger.take ▸ List.take_prefix _ longer

/-- The third candidate overlaps the second one, which overlaps the first one and is not accepted. -/
example : acceptNonOverlapping [('a', .deletion 0 3), ('b', .deletion 2 5), ('c', .deletion 4 6)] =
    ([('a', .deletion 0 3), ('c', .deletion 4 6)], ['b']) := by
  decide

end SourceLint
