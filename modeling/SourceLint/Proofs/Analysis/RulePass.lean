import Mathlib.Data.List.Induction
import SourceLint.Proofs.Analysis.Correction
import SourceLint.Proofs.Data.StableSort

/-!
# The pass of one rule

The violations of a rule are mended from the first to the last.  An edit is made if it fits the text and
overlaps no edit that was chosen for an earlier violation; all edits are then made in one go.  This says
which text a pass leaves, without the way in which the edits are found.

* **`ByOffset`** — violations by their offsets, those at the same offset as they were found.
* **`Chosen`** — the edits that are chosen from proposals.
* **`Rule.Turns`** — a pass of the rule over the file leaves the text.
* **`byOffset_iff`**, **`chosen_iff`** — there is one such order, and one such choice.
* **`Rule.turns_iff`** — a pass leaves one text, which is `correctedText`.
-/

namespace SourceLint

/-- The violations that were found, in ascending order; those at the same offset are as they were. -/
structure ByOffset (found vs : List Violation) : Prop where
  ascending : vs.Pairwise fun v w => v.location.offset ≤ w.location.offset
  stable : ∀ offset, vs.filter (fun v => v.location.offset == offset) =
    found.filter (fun v => v.location.offset == offset)

/-- From proposals in their order, the edits that overlap none that was chosen before. -/
inductive Chosen : List Substitution → List Substitution → Prop where
  | none : Chosen [] []
  | keep {proposals edits : List Substitution} {s : Substitution} (earlier : Chosen proposals edits)
      (free : ∀ e ∈ edits, e.overlaps s = false) : Chosen (proposals ++ [s]) (edits ++ [s])
  | drop {proposals edits : List Substitution} {s e : Substitution} (earlier : Chosen proposals edits)
      (chosen : e ∈ edits) (overlap : e.overlaps s = true) : Chosen (proposals ++ [s]) edits

/-- One pass of the edits of the rule over the file leaves the text. -/
inductive Rule.Turns (r : Rule) (source : SourceFile) : List Char → Prop where
  | idle (absent : r.correction = none) : r.Turns source source.text
  | edit {correct : Violation → SourceFile → Option Substitution} {vs : List Violation}
      {edits : List Substitution} {text : List Char} (present : r.correction = some correct)
      (ordered : ByOffset (r.check source) vs)
      (chosen : Chosen ((vs.filterMap fun v => correct v source).filter fun s => s.isValid source.text)
        edits)
      (applied : applySubstitutions source.text edits = .ok text) : r.Turns source text

/-! ### The order of violations -/

namespace Violation

theorem beginsBy_iff {v w : Violation} : v.beginsBy w = true ↔ v.location.offset ≤ w.location.offset :=
  decide_eq_true_iff

theorem beginsBy_trans (u v w : Violation) (huv : u.beginsBy v = true) (hvw : v.beginsBy w = true) :
    u.beginsBy w = true :=
  beginsBy_iff.2 (Nat.le_trans (beginsBy_iff.1 huv) (beginsBy_iff.1 hvw))

theorem beginsBy_total (v w : Violation) : (v.beginsBy w || w.beginsBy v) = true := by
  rw [Bool.or_eq_true, beginsBy_iff, beginsBy_iff]
  exact Nat.le_total _ _

theorem tied_beginsBy (v : Violation) :
    tied beginsBy v = fun w => w.location.offset == v.location.offset := by
  funext w
  rw [Bool.eq_iff_iff, tied_iff, beginsBy_iff, beginsBy_iff, beq_iff_eq, eq_comm]
  exact Nat.le_antisymm_iff.symm

end Violation

theorem byOffset_mergeSort (found : List Violation) : ByOffset found (found.mergeSort Violation.beginsBy) where
  ascending := by
    have hsorted := List.pairwise_mergeSort Violation.beginsBy_trans Violation.beginsBy_total found
    exact hsorted.imp fun h => Violation.beginsBy_iff.1 h
  stable offset := by
    refine filter_mergeSort Violation.beginsBy_trans Violation.beginsBy_total (fun v w hv hw => ?_) found
    exact Violation.beginsBy_iff.2 (Nat.le_of_eq ((eq_of_beq hv).trans (eq_of_beq hw).symm))

theorem byOffset_iff {found vs : List Violation} :
    ByOffset found vs ↔ found.mergeSort Violation.beginsBy = vs := by
  have hsort := byOffset_mergeSort found
  constructor
  · intro h
    have hsorted : (found.mergeSort Violation.beginsBy).Pairwise fun v w => v.beginsBy w = true :=
      hsort.ascending.imp fun h => Violation.beginsBy_iff.2 h
    have hordered : vs.Pairwise fun v w => v.beginsBy w = true :=
      h.ascending.imp fun h => Violation.beginsBy_iff.2 h
    refine eq_of_filter_tied_eq (fun v => ?_) hsorted hordered fun v => ?_
    · exact Violation.beginsBy_iff.2 (Nat.le_refl _)
    · rw [Violation.tied_beginsBy, hsort.stable, h.stable]
  · rintro rfl
    exact hsort

/-! ### The choice of edits -/

/-- The proposals that are accepted. -/
def keptOf (proposals : List Substitution) : List Substitution :=
  (acceptNonOverlapping (proposals.map fun s => ((), s))).1.map (·.2)

theorem keptOf_concat (proposals : List Substitution) (s : Substitution) :
    keptOf (proposals ++ [s]) =
      if (keptOf proposals).any fun e => e.overlaps s then keptOf proposals else keptOf proposals ++ [s] := by
  rw [keptOf, List.map_append, List.map_singleton, acceptNonOverlapping_concat, keptOf]
  split
  · rfl
  · rw [List.map_append, List.map_singleton]

theorem chosen_keptOf (proposals : List Substitution) : Chosen proposals (keptOf proposals) := by
  induction proposals using List.reverseRecOn with
  | nil => exact .none
  | append_singleton proposals s ih =>
    rw [keptOf_concat]
    cases hany : (keptOf proposals).any fun e => e.overlaps s with
    | true =>
      obtain ⟨e, he, hoverlap⟩ := List.any_eq_true.1 hany
      exact .drop ih he hoverlap
    | false =>
      refine .keep ih fun e he => ?_
      exact Bool.eq_false_iff.2 (List.any_eq_false.1 hany e he)

theorem chosen_iff {proposals edits : List Substitution} : Chosen proposals edits ↔ keptOf proposals = edits := by
  constructor
  · intro h
    induction h with
    | none => rfl
    | @keep _ edits s _ hfree ih =>
      have hany : (edits.any fun e => e.overlaps s) = false :=
        List.any_eq_false.2 fun e he => Bool.eq_false_iff.1 (hfree e he)
      rw [keptOf_concat, ih, hany, if_neg Bool.false_ne_true]
    | @drop _ edits s e _ he hoverlap ih =>
      have hany : (edits.any fun e => e.overlaps s) = true := List.any_eq_true.2 ⟨e, he, hoverlap⟩
      rw [keptOf_concat, ih, if_pos hany]
  · rintro rfl
    exact chosen_keptOf proposals

/-! ### The text -/

theorem ownEdits_eq_keptOf {r : Rule} {correct : Violation → SourceFile → Option Substitution}
    (h : r.correction = some correct) (source : SourceFile) :
    ownEdits r source = keptOf ((((r.check source).mergeSort Violation.beginsBy).filterMap fun v =>
      correct v source).filter fun s => s.isValid source.text) := by
  rw [ownEdits, h]
  rfl

/-- **A pass leaves one text.** -/
theorem Rule.turns_iff {r : Rule} {source : SourceFile} {text : List Char} :
    r.Turns source text ↔ correctedText r source = text := by
  constructor
  · rintro (hnone | ⟨hsome, hordered, hchosen, happlied⟩)
    · rw [correctedText, hnone]
    · rw [byOffset_iff] at hordered
      rw [chosen_iff, ← hordered, ← ownEdits_eq_keptOf hsome] at hchosen
      simp only [correctedText, hsome, hchosen, happlied]
  · rintro rfl
    cases h : r.correction with
    | none =>
      rw [correctedText, h]
      exact .idle h
    | some correct =>
      refine .edit h (byOffset_mergeSort _) (chosen_keptOf _) ?_
      rw [← ownEdits_eq_keptOf h, correctedText_eq_splice]
      exact applySubstitutions_eq_ok_iff.2 ⟨compatible_ownEdits r source, rfl⟩

end SourceLint
