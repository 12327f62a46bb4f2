import Mathlib.Data.List.Forall2
import Mathlib.Data.List.Perm.Subperm
import SourceLint.Proofs.Edit.Compatible

/-!
# Substitutions in any order

The order of the text leaves open in which order substitutions of the same stretch come.  This has no
consequence: such substitutions overlap, so there are none where the text is edited, and the checks look
at stretches only.

* **`Substitution.stretch`** — what the checks look at.
* **`inTextOrder_stretches`** — in the order of the text the stretches are the same, whatever the order
  of the list; `Compatible.inTextOrder_eq` says this of the substitutions where there are no errors.
* **`exists_of_validateAll`**, **`exists_of_checkNeighbours`** — what the two checks complain about.
* **`FirstInvalid`**, **`IsErrorOf`** — what an error is about, said without going through the list.

`applySubstitutions_perm` says that neither the text nor the error depends on the order in which
substitutions are given, and what the error is about.
-/

namespace SourceLint

/-! ### Stretches -/

namespace Substitution

/-- The stretch that is replaced. -/
def stretch (s : Substitution) : Nat × Nat :=
  (s.start, s.stop)

theorem stretch_eq_iff {a b : Substitution} :
    a.stretch = b.stretch ↔ a.start = b.start ∧ a.stop = b.stop :=
  Prod.mk.injEq _ _ _ _ ▸ Iff.rfl

/-- Where neither of two stretches comes after the other one, they are the same. -/
theorem stretch_eq_of_notAfter {a b : Substitution} (hab : a.notAfter b = true)
    (hba : b.notAfter a = true) : a.stretch = b.stretch := by
  rw [notAfter_iff] at hab hba
  rw [stretch_eq_iff]
  omega

theorem validate_congr {a b : Substitution} (h : a.stretch = b.stretch) (text : List Char) :
    a.validate text = b.validate text := by
  obtain ⟨hstart, hstop⟩ := stretch_eq_iff.1 h
  rw [validate, validate, hstart, hstop]

theorem overlaps_congr {a a' b b' : Substitution} (ha : a.stretch = a'.stretch)
    (hb : b.stretch = b'.stretch) : a.overlaps b = a'.overlaps b' := by
  obtain ⟨hstart, hstop⟩ := stretch_eq_iff.1 ha
  obtain ⟨hstart', hstop'⟩ := stretch_eq_iff.1 hb
  rw [overlaps, overlaps, hstart, hstop, hstart', hstop']

theorem start_le_of_notAfter {a b : Substitution} (h : a.notAfter b = true) : a.start ≤ b.start := by
  rw [notAfter_iff] at h
  omega

end Substitution

/-- The lists replace the same stretches in the same order. -/
def SameStretches (as bs : List Substitution) : Prop :=
  List.Forall₂ (fun a b => a.stretch = b.stretch) as bs

theorem SameStretches.validateAll_eq {as bs : List Substitution} (h : SameStretches as bs)
    (text : List Char) : validateAll text as = validateAll text bs := by
  induction h with
  | nil => rfl
  | cons hab _ ih => rw [validateAll, validateAll, Substitution.validate_congr hab, ih]

theorem SameStretches.checkNeighbours_eq {as bs : List Substitution} (h : SameStretches as bs) :
    checkNeighbours as = checkNeighbours bs := by
  induction h with
  | nil => rfl
  | cons hab hrest ih =>
    cases hrest with
    | nil => rfl
    | cons hab' _ =>
      rw [checkNeighbours, checkNeighbours, Substitution.overlaps_congr hab hab', ih,
        (Substitution.stretch_eq_iff.1 hab).1, (Substitution.stretch_eq_iff.1 hab').1]

/-! ### The order of the text -/

/-- **In the order of the text the stretches are the same**, whatever the order of the list. -/
theorem inTextOrder_stretches {as bs : List Substitution} (h : as.Perm bs) :
    SameStretches (inTextOrder as) (inTextOrder bs) := by
  have hperm : (inTextOrder as).Perm (inTextOrder bs) :=
    (inTextOrder_perm as).trans (h.trans (inTextOrder_perm bs).symm)
  -- two lists of the same stretches that are in order are the same list
  have hsorted (subs : List Substitution) : ((inTextOrder subs).map (·.stretch)).Pairwise
      fun x y => x.1 < y.1 ∨ x.1 = y.1 ∧ x.2 ≤ y.2 :=
    List.pairwise_map.2 ((pairwise_notAfter_inTextOrder subs).imp Substitution.notAfter_iff.1)
  have hstretches : (inTextOrder as).map (·.stretch) = (inTextOrder bs).map (·.stretch) := by
    refine List.Perm.eq_of_pairwise (fun x y _ _ hxy hyx => ?_) (hsorted as) (hsorted bs)
      (hperm.map _)
    exact Prod.ext (by omega) (by omega)
  rwa [← List.forall₂_eq_eq_eq, List.forall₂_map_left_iff, List.forall₂_map_right_iff] at hstretches

/-- Substitutions that can be applied have one order in the text. -/
theorem Compatible.inTextOrder_eq {text : List Char} {as bs : List Substitution} (h : as.Perm bs)
    (hc : Compatible text as) : inTextOrder as = inTextOrder bs := by
  have hperm : (inTextOrder as).Perm (inTextOrder bs) :=
    (inTextOrder_perm as).trans (h.trans (inTextOrder_perm bs).symm)
  refine List.Perm.eq_of_pairwise (fun a b _ _ hab hba => ?_) hc.pairwise_precedes
    (hc.perm h).pairwise_precedes hperm
  exact absurd hab.1 (Nat.lt_asymm hba.1)

/-! ### What the checks complain about -/

/-- The first complaint about a stretch is about the first invalid one. -/
theorem exists_of_validateAll {text : List Char} {subs : List Substitution} {e : SubstitutionError}
    (h : validateAll text subs = .error e) :
    ∃ before s after, subs = before ++ s :: after ∧ s.validate text = .error e ∧
      ∀ t ∈ before, t.validate text = .ok () := by
  induction subs with
  | nil => cases h
  | cons s rest ih =>
    rw [validateAll] at h
    cases hs : s.validate text with
    | error e' =>
      rw [hs] at h
      cases h
      exact ⟨[], s, rest, rfl, hs, by simp⟩
    | ok u =>
      rw [hs] at h
      obtain ⟨before, t, after, rfl, ht, hbefore⟩ := ih h
      exact ⟨s :: before, t, after, rfl, ht, List.forall_mem_cons.2 ⟨hs, hbefore⟩⟩

/-- The complaint about two stretches is about two that stand side by side. -/
theorem exists_of_checkNeighbours {subs : List Substitution} {e : SubstitutionError}
    (h : checkNeighbours subs = .error e) :
    ∃ a b, [a, b].Sublist subs ∧ a.overlaps b = true ∧ e = .overlap a.start b.start := by
  induction subs with
  | nil => cases h
  | cons a rest ih =>
    cases rest with
    | nil => cases h
    | cons b rest =>
      rw [checkNeighbours] at h
      split at h
      · rename_i hab
        cases h
        exact ⟨a, b, by simp, hab, rfl⟩
      · obtain ⟨c, d, hsub, hcd, he⟩ := ih h
        exact ⟨c, d, hsub.cons a, hcd, he⟩

/-- The substitution is invalid, and no invalid one of the list comes before it in the text. -/
structure FirstInvalid (text : List Char) (subs : List Substitution) (s : Substitution) : Prop where
  mem : s ∈ subs
  invalid : s.isValid text = false
  first : ∀ t ∈ subs, t.isValid text = false → s.notAfter t = true

/-- The error is about the substitutions: it is that of an invalid one that comes first in the text or,
where all are valid, it names the beginnings of two that overlap. -/
inductive IsErrorOf (text : List Char) (subs : List Substitution) : SubstitutionError → Prop where
  | invalid {s : Substitution} {e : SubstitutionError} (first : FirstInvalid text subs s)
      (error : s.validate text = .error e) : IsErrorOf text subs e
  | overlap {a b : Substitution} (valid : ∀ s ∈ subs, s.validate text = .ok ())
      (given : [a, b].Subperm subs) (ordered : a.start ≤ b.start) (overlaps : a.overlaps b = true) :
      IsErrorOf text subs (.overlap a.start b.start)

theorem isValid_eq_false_of_error {text : List Char} {s : Substitution} {e : SubstitutionError}
    (h : s.validate text = .error e) : s.isValid text = false := by
  rw [Substitution.isValid, h]
  rfl

/-- All first invalid substitutions have the same error. -/
theorem FirstInvalid.validate_eq {text : List Char} {subs : List Substitution} {a b : Substitution}
    (ha : FirstInvalid text subs a) (hb : FirstInvalid text subs b) :
    a.validate text = b.validate text :=
  Substitution.validate_congr
    (Substitution.stretch_eq_of_notAfter (ha.first b hb.mem hb.invalid)
      (hb.first a ha.mem ha.invalid)) text

theorem firstInvalid_of_validateAll {text : List Char} {subs : List Substitution}
    {e : SubstitutionError} (h : validateAll text (inTextOrder subs) = .error e) :
    ∃ s, FirstInvalid text subs s ∧ s.validate text = .error e := by
  obtain ⟨before, s, after, hsplit, hs, hbefore⟩ := exists_of_validateAll h
  have hmem (t : Substitution) : t ∈ subs ↔ t ∈ before ++ s :: after := by
    rw [← hsplit, (inTextOrder_perm subs).mem_iff]
  have hsorted := pairwise_notAfter_inTextOrder subs
  rw [hsplit] at hsorted
  refine ⟨s, ⟨(hmem s).2 (by simp), isValid_eq_false_of_error hs, fun t ht hinvalid => ?_⟩, hs⟩
  rcases List.mem_append.1 ((hmem t).1 ht) with ht | ht
  · rw [Substitution.isValid_eq_true_iff.2 (hbefore t ht)] at hinvalid
    cases hinvalid
  · rcases List.mem_cons.1 ht with rfl | ht
    · simpa using Substitution.notAfter_total t t
    · exact List.rel_of_pairwise_cons (List.pairwise_append.1 hsorted).2.1 ht

/-! ### Applying -/

/-- **An error is about the substitutions**, and it says that one is invalid if any of them is. -/
theorem isErrorOf_of_applySubstitutions {text : List Char} {subs : List Substitution}
    {e : SubstitutionError} (h : applySubstitutions text subs = .error e) : IsErrorOf text subs e := by
  rw [applySubstitutions] at h
  cases hv : validateAll text (inTextOrder subs) with
  | error e' =>
    rw [hv] at h
    cases h
    obtain ⟨s, hfirst, hs⟩ := firstInvalid_of_validateAll hv
    exact .invalid hfirst hs
  | ok u =>
    cases hc : checkNeighbours (inTextOrder subs) with
    | ok u => simp [hv, hc, bind, Except.bind, pure, Except.pure] at h
    | error e' =>
      simp only [hv, hc, bind, Except.bind] at h
      cases h
      obtain ⟨a, b, hsub, hab, rfl⟩ := exists_of_checkNeighbours hc
      have hordered : a.notAfter b = true :=
        List.rel_of_pairwise_cons ((pairwise_notAfter_inTextOrder subs).sublist hsub)
          List.mem_cons_self
      refine .overlap (fun s hs => ?_) (hsub.subperm.trans (inTextOrder_perm subs).subperm)
        (Substitution.start_le_of_notAfter hordered) hab
      exact validateAll_eq_ok_iff.1 hv s ((inTextOrder_perm subs).mem_iff.2 hs)

/-- Whatever overlaps there are, the error is that of the first invalid substitution. -/
theorem FirstInvalid.applySubstitutions_eq {text : List Char} {subs : List Substitution}
    {s : Substitution} {e : SubstitutionError} (hs : FirstInvalid text subs s)
    (he : s.validate text = .error e) : applySubstitutions text subs = .error e := by
  cases h : applySubstitutions text subs with
  | ok out =>
    have hvalid := (applySubstitutions_eq_ok_iff.1 h).1.1 s hs.mem
    rw [he] at hvalid
    cases hvalid
  | error e' =>
    cases isErrorOf_of_applySubstitutions h with
    | invalid hfirst he' =>
      have hsame := hs.validate_eq hfirst
      rw [he, he'] at hsame
      cases hsame
      rfl
    | overlap hvalid _ _ _ =>
      have hok := hvalid s hs.mem
      rw [he] at hok
      cases hok

theorem applySubstitutions_congr (text : List Char) {as bs : List Substitution} (h : as.Perm bs) :
    applySubstitutions text as = applySubstitutions text bs := by
  have hstretches := inTextOrder_stretches h
  cases hv : validateAll text (inTextOrder as) with
  | error e =>
    rw [applySubstitutions, applySubstitutions, ← hstretches.validateAll_eq, hv]
    rfl
  | ok u =>
    cases hc : checkNeighbours (inTextOrder as) with
    | error e =>
      rw [applySubstitutions, applySubstitutions, ← hstretches.validateAll_eq,
        ← hstretches.checkNeighbours_eq, hv, hc]
      rfl
    | ok u =>
      -- only now the replacements matter, and there is one order
      have hok : applySubstitutions text as = .ok (splice text 0 (inTextOrder as)) := by
        simp [applySubstitutions, hv, hc, bind, Except.bind, pure, Except.pure]
      have hcompatible := (applySubstitutions_eq_ok_iff.1 hok).1
      rw [hok]
      exact (applySubstitutions_eq_ok_iff.2
        ⟨hcompatible.perm h, congrArg (splice text 0) (hcompatible.inTextOrder_eq h).symm⟩).symm

/-- **The order in which substitutions are given does not matter.**  In any order they lead to the same
text or to the same error.  If some are invalid, the error is that of an invalid one with the least
stretch, whatever overlaps there are; else it names the beginnings of two that overlap, in order. -/
theorem applySubstitutions_perm (text : List Char) (subs : List Substitution) :
    (∀ others, subs.Perm others →
      applySubstitutions text others = applySubstitutions text subs) ∧
    (∀ s e, FirstInvalid text subs s → s.validate text = .error e →
      applySubstitutions text subs = .error e) ∧
    ∀ e, applySubstitutions text subs = .error e → IsErrorOf text subs e :=
  ⟨fun _ h => (applySubstitutions_congr text h).symm, fun _ _ hs he => hs.applySubstitutions_eq he,
    fun _ h => isErrorOf_of_applySubstitutions h⟩

/-- Of three substitutions two overlap, one reaches past the end and one cuts a character.  The last one
has the least stretch, and it is blamed in any order. -/
theorem applySubstitutions_perm_cutsCharacter :
    applySubstitutions "é=1;".toList [⟨3, 9, "0"⟩, ⟨0, 3, "x"⟩, ⟨0, 1, "e"⟩] =
        .error (.notCharBoundary 0 1) ∧
      applySubstitutions "é=1;".toList [⟨0, 1, "e"⟩, ⟨3, 9, "0"⟩, ⟨0, 3, "x"⟩] =
        .error (.notCharBoundary 0 1) := by
  have hfirst : FirstInvalid "é=1;".toList [⟨3, 9, "0"⟩, ⟨0, 3, "x"⟩, ⟨0, 1, "e"⟩] ⟨0, 1, "e"⟩ :=
    ⟨by decide, by decide, by decide⟩
  have h := applySubstitutions_perm "é=1;".toList [⟨3, 9, "0"⟩, ⟨0, 3, "x"⟩, ⟨0, 1, "e"⟩]
  have hblamed := h.2.1 _ (.notCharBoundary 0 1) hfirst (by rfl)
  exact ⟨hblamed, (h.1 _ (by decide)).trans hblamed⟩

end SourceLint
