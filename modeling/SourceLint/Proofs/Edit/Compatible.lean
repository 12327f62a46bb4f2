import SourceLint.Edit.Substitution
import SourceLint.Proofs.Text.Boundary

/-!
# When substitutions can be applied

Substitutions are put in the order of the text, only neighbours are compared, and the stretches between
them are copied.  This module says when that succeeds.

* **`Precedes`** — one stretch lies before another; for valid stretches in order this is the same as not
  to overlap, and it passes from neighbours to all pairs.
* **`Compatible`** — all substitutions are valid and no two of them overlap.
* **`Laid`** — the invariant of the pass over the text: what is still to be done lies in the text, from
  the offset that was reached on, in order and without cutting a character.
* **`splice?`** — the pass with copies that fail where there is no such stretch; `splice?_of_laid` says
  that none does.

`applySubstitutions_eq_ok_iff` is the exact condition of success together with the result.
-/

namespace SourceLint

open SourceLint.Text

namespace Substitution

/-! ### Pairs of substitutions -/

/-- The first stretch begins before the other one and ends where the other one begins or before. -/
def Precedes (a b : Substitution) : Prop :=
  a.start < b.start ∧ a.stop ≤ b.start

theorem overlaps_comm (a b : Substitution) : a.overlaps b = b.overlaps a := by
  rw [overlaps, overlaps, Bool.and_comm, BEq.comm]

theorem overlaps_eq_false_iff {a b : Substitution} :
    a.overlaps b = false ↔ a.start ≠ b.start ∧ (b.stop ≤ a.start ∨ a.stop ≤ b.start) := by
  simp only [overlaps, Bool.or_eq_false_iff, Bool.and_eq_false_iff, beq_eq_false_iff_ne,
    decide_eq_false_iff_not, Nat.not_lt]

theorem notAfter_iff {a b : Substitution} :
    a.notAfter b = true ↔ a.start < b.start ∨ a.start = b.start ∧ a.stop ≤ b.stop := by
  simp only [notAfter, Bool.or_eq_true, Bool.and_eq_true, decide_eq_true_eq, beq_iff_eq]

theorem notAfter_trans (a b c : Substitution) (hab : a.notAfter b = true)
    (hbc : b.notAfter c = true) : a.notAfter c = true := by
  rw [notAfter_iff] at hab hbc ⊢
  omega

theorem notAfter_total (a b : Substitution) : (a.notAfter b || b.notAfter a) = true := by
  rw [Bool.or_eq_true, notAfter_iff, notAfter_iff]
  omega

theorem Precedes.trans {a b c : Substitution} (hab : a.Precedes b) (hbc : b.Precedes c) :
    a.Precedes c :=
  ⟨Nat.lt_trans hab.1 hbc.1, Nat.le_trans hab.2 (Nat.le_of_lt hbc.1)⟩

theorem Precedes.overlaps_eq_false {a b : Substitution} (h : a.Precedes b) :
    a.overlaps b = false :=
  overlaps_eq_false_iff.2 ⟨Nat.ne_of_lt h.1, .inr h.2⟩

/-- Of two stretches in order that do not overlap the first one precedes the other.  The second must
not be reversed, else it could end before the first one begins. -/
theorem precedes_of_notAfter {a b : Substitution} (hb : b.start ≤ b.stop)
    (hab : a.notAfter b = true) (hn : a.overlaps b = false) : a.Precedes b := by
  rw [notAfter_iff] at hab
  rw [overlaps_eq_false_iff] at hn
  constructor <;> omega

/-! ### Validity -/

theorem validate_eq_ok_iff {s : Substitution} {text : List Char} :
    s.validate text = .ok () ↔
      s.start ≤ s.stop ∧ isBoundary text s.start = true ∧ isBoundary text s.stop = true := by
  constructor
  · intro h
    rw [validate] at h
    split at h
    · cases h
    · rename_i hr
      split at h
      · cases h
      · rename_i hb
        simp only [Bool.or_eq_true, decide_eq_true_eq, not_or] at hr
        simp only [Bool.not_eq_true', Bool.not_eq_false, Bool.and_eq_true] at hb
        exact ⟨by omega, hb⟩
  · rintro ⟨hle, hstart, hstop⟩
    have hend : s.stop ≤ byteLength text := le_byteLength_of_isBoundary hstop
    rw [validate, if_neg (by simp only [Bool.or_eq_true, decide_eq_true_eq]; omega),
      if_neg (by simp [hstart, hstop])]

theorem isValid_eq_true_iff {s : Substitution} {text : List Char} :
    s.isValid text = true ↔ s.validate text = .ok () := by
  rw [isValid]
  cases s.validate text with
  | error e => simp [Except.toBool]
  | ok u => simp [Except.toBool]

end Substitution

/-! ### The checks before the pass -/

theorem validateAll_eq_ok_iff {text : List Char} {subs : List Substitution} :
    validateAll text subs = .ok () ↔ ∀ s ∈ subs, s.validate text = .ok () := by
  induction subs with
  | nil => simp [validateAll]
  | cons s rest ih =>
    rw [validateAll, List.forall_mem_cons, ← ih]
    cases s.validate text with
    | error e => simp [bind, Except.bind]
    | ok u => simp [bind, Except.bind]

/-- Comparing neighbours is enough: in order, each stretch precedes all the later ones. -/
theorem pairwise_precedes_of_checkNeighbours {subs : List Substitution}
    (hle : ∀ s ∈ subs, s.start ≤ s.stop) (hs : subs.Pairwise fun a b => a.notAfter b = true)
    (hc : checkNeighbours subs = .ok ()) : subs.Pairwise Substitution.Precedes := by
  induction subs with
  | nil => exact .nil
  | cons a rest ih =>
    cases rest with
    | nil => exact List.pairwise_singleton _ a
    | cons b rest =>
      rw [checkNeighbours] at hc
      split at hc
      · cases hc
      · rename_i hab
        have htail := ih (fun s hs' => hle s (List.mem_cons_of_mem a hs')) hs.tail hc
        have hfirst : a.Precedes b :=
          Substitution.precedes_of_notAfter (hle b (by simp))
            (List.rel_of_pairwise_cons hs List.mem_cons_self) (Bool.eq_false_iff.2 hab)
        -- the neighbour precedes all the later ones, so the first does as well
        refine List.pairwise_cons.2 ⟨fun c hcm => ?_, htail⟩
        rcases List.mem_cons.1 hcm with rfl | hcm
        · exact hfirst
        · exact hfirst.trans (List.rel_of_pairwise_cons htail hcm)

theorem checkNeighbours_of_pairwise {subs : List Substitution}
    (h : subs.Pairwise fun a b => a.overlaps b = false) : checkNeighbours subs = .ok () := by
  induction subs with
  | nil => rfl
  | cons a rest ih =>
    cases rest with
    | nil => rfl
    | cons b rest =>
      have hab : a.overlaps b = false := List.rel_of_pairwise_cons h List.mem_cons_self
      rw [checkNeighbours, hab]
      exact ih h.tail

/-! ### When the pass succeeds -/

/-- Each substitution is valid, and no two at different places of the list overlap. -/
def Compatible (text : List Char) (subs : List Substitution) : Prop :=
  (∀ s ∈ subs, s.validate text = .ok ()) ∧ subs.Pairwise fun a b => a.overlaps b = false

theorem inTextOrder_perm (subs : List Substitution) : (inTextOrder subs).Perm subs :=
  List.mergeSort_perm subs _

theorem pairwise_notAfter_inTextOrder (subs : List Substitution) :
    (inTextOrder subs).Pairwise fun a b => a.notAfter b = true :=
  List.pairwise_mergeSort Substitution.notAfter_trans Substitution.notAfter_total subs

theorem Compatible.perm {text : List Char} {as bs : List Substitution} (hp : as.Perm bs)
    (h : Compatible text as) : Compatible text bs :=
  ⟨fun s hs => h.1 s (hp.mem_iff.2 hs),
    h.2.perm hp fun {a b} hab => (Substitution.overlaps_comm b a).trans hab⟩

theorem Compatible.pairwise_precedes {text : List Char} {subs : List Substitution}
    (h : Compatible text subs) : (inTextOrder subs).Pairwise Substitution.Precedes := by
  have ho : Compatible text (inTextOrder subs) := h.perm (inTextOrder_perm subs).symm
  exact pairwise_precedes_of_checkNeighbours
    (fun s hs => (Substitution.validate_eq_ok_iff.1 (ho.1 s hs)).1)
    (pairwise_notAfter_inTextOrder subs) (checkNeighbours_of_pairwise ho.2)

/-- **The pass succeeds exactly on compatible substitutions**, and then its result is the spliced
text. -/
theorem applySubstitutions_eq_ok_iff {text out : List Char} {subs : List Substitution} :
    applySubstitutions text subs = .ok out ↔
      Compatible text subs ∧ splice text 0 (inTextOrder subs) = out := by
  have hperm := inTextOrder_perm subs
  constructor
  · intro h
    rw [applySubstitutions] at h
    cases hv : validateAll text (inTextOrder subs) with
    | error e => simp [hv, bind, Except.bind] at h
    | ok u =>
      cases hc : checkNeighbours (inTextOrder subs) with
      | error e => simp [hv, hc, bind, Except.bind] at h
      | ok u =>
        have hvalid := validateAll_eq_ok_iff.1 hv
        have hprec := pairwise_precedes_of_checkNeighbours
          (fun s hs => (Substitution.validate_eq_ok_iff.1 (hvalid s hs)).1)
          (pairwise_notAfter_inTextOrder subs) hc
        have hcomp : Compatible text (inTextOrder subs) :=
          ⟨hvalid, hprec.imp fun hab => hab.overlaps_eq_false⟩
        refine ⟨hcomp.perm hperm, ?_⟩
        simpa [hv, hc, bind, Except.bind, pure, Except.pure] using h
  · rintro ⟨h, rfl⟩
    have ho : Compatible text (inTextOrder subs) := h.perm hperm.symm
    have hv := validateAll_eq_ok_iff.2 ho.1
    have hc := checkNeighbours_of_pairwise ho.2
    simp [applySubstitutions, hv, hc, bind, Except.bind, pure, Except.pure]

/-! ### The invariant of the pass -/

/-- The substitutions can be spliced into the text from the offset on: each begins at the offset or
later, its ends are boundaries, and the others can be spliced in from its end on. -/
inductive Laid (text : List Char) : Nat → List Substitution → Prop where
  | nil {done : Nat} : isBoundary text done = true → Laid text done []
  | cons {done : Nat} {s : Substitution} {rest : List Substitution} :
      isBoundary text done = true → done ≤ s.start → isBoundary text s.start = true →
      s.start ≤ s.stop → Laid text s.stop rest → Laid text done (s :: rest)

theorem Laid.isBoundary {text : List Char} {done : Nat} {subs : List Substitution}
    (h : Laid text done subs) : isBoundary text done = true := by
  cases h with
  | nil hd => exact hd
  | cons hd _ _ _ _ => exact hd

theorem Laid.tail {text : List Char} {done : Nat} {s : Substitution} {rest : List Substitution}
    (h : Laid text done (s :: rest)) : Laid text s.stop rest := by
  cases h with
  | cons _ _ _ _ hrest => exact hrest

theorem laid_of_pairwise {text : List Char} {done : Nat} {subs : List Substitution}
    (hd : isBoundary text done = true) (hv : ∀ s ∈ subs, s.validate text = .ok ())
    (hp : subs.Pairwise Substitution.Precedes) (hs : ∀ s ∈ subs, done ≤ s.start) :
    Laid text done subs := by
  induction subs generalizing done with
  | nil => exact .nil hd
  | cons s rest ih =>
    obtain ⟨hle, hstart, hstop⟩ := Substitution.validate_eq_ok_iff.1 (hv s List.mem_cons_self)
    refine .cons hd (hs s List.mem_cons_self) hstart hle (ih hstop ?_ hp.tail ?_)
    · exact fun t ht => hv t (List.mem_cons_of_mem s ht)
    · exact fun t ht => (List.rel_of_pairwise_cons hp ht).2

theorem Compatible.laid {text : List Char} {subs : List Substitution} (h : Compatible text subs) :
    Laid text 0 (inTextOrder subs) :=
  laid_of_pairwise (isBoundary_zero text) (h.perm (inTextOrder_perm subs).symm).1
    h.pairwise_precedes fun s _ => Nat.zero_le s.start

/-! ### Copies that can fail -/

/-- The stretch of the text between two offsets, if they are boundaries and in order. -/
def stretch? (text : List Char) (start stop : Nat) : Option (List Char) :=
  if start ≤ stop && isBoundary text start && isBoundary text stop then
    some (slice start stop text)
  else none

/-- The pass over the text from the offset on, which fails as soon as a stretch that it copies does
not exist. -/
def splice? (text : List Char) (done : Nat) : List Substitution → Option (List Char)
  | [] => stretch? text done (byteLength text)
  | s :: rest => do
    let before ← stretch? text done s.start
    let after ← splice? text s.stop rest
    return before ++ s.replacement.toList ++ after

theorem stretch?_of_isBoundary {text : List Char} {start stop : Nat}
    (hs : isBoundary text start = true) (he : isBoundary text stop = true) (hle : start ≤ stop) :
    stretch? text start stop = some (slice start stop text) := by
  rw [stretch?, if_pos (by simp [hs, he, hle])]

/-- No copy of the pass fails. -/
theorem splice?_of_laid {text : List Char} {done : Nat} {subs : List Substitution}
    (h : Laid text done subs) : splice? text done subs = some (splice text done subs) := by
  induction h with
  | @nil done hd =>
    have hle : done ≤ byteLength text := le_byteLength_of_isBoundary hd
    have hend := slice_append_dropBytes hd (isBoundary_byteLength text) hle
    have hrest : dropBytes (byteLength text) text = [] := by
      simpa using dropBytes_append text []
    rw [splice?, stretch?_of_isBoundary hd (isBoundary_byteLength text) hle, splice,
      ← hend, hrest, List.append_nil]
  | @cons done s rest hd hle hstart _ _ ih =>
    rw [splice?, stretch?_of_isBoundary hd hstart hle, ih, splice]
    rfl

end SourceLint
