import SourceLint.Proofs.Analysis.Transfer
import SourceLint.Proofs.Edit.Relocation
import SourceLint.Proofs.Source.ByteOrderMark

/-!
# Analyzing a file behind a prefix

Where a file is the same as another one behind a prefix, an analyzer does the same with both, except that
everything comes later in the one by the length of the prefix.  This takes no more than that each of its
rules does the same with both files.

* **`Violation.moveBy`** — the violation that much later in the file.
* **`Rule.MovesAlong`** — a rule reports and proposes the same in both files.
* **`SourceFile.MovedBy.keeps`** — moving along changes no answer that an analyzer asks for.
* **`Analyzer.analyze_moveBy`**, **`Analyzer.correct_moveBy`** — the report and the pass.
-/

namespace SourceLint

open SourceLint.Text

/-! ### Violations that come later -/

namespace Violation

/-- The violation of the stretch that comes the given number of bytes later. -/
def moveBy (n : Nat) (v : Violation) : Violation :=
  { v with location := v.location.moveBy n }

@[simp] theorem location_moveBy (n : Nat) (v : Violation) :
    (v.moveBy n).location = v.location.moveBy n := rfl

/-- The order of reports does not depend on where in the file two violations are. -/
theorem notAfter_moveBy (n : Nat) (a b : Violation) :
    (a.moveBy n).notAfter (b.moveBy n) = a.notAfter b := by
  have hoffset : compare (n + a.location.offset) (n + b.location.offset) =
      compare a.location.offset b.location.offset := by
    rw [Nat.compare_eq_ite_lt, Nat.compare_eq_ite_lt]
    simp only [Nat.add_lt_add_iff_left]
  rw [notAfter, notAfter, order, order]
  simp only [moveBy, Location.moveBy, hoffset]

end Violation

/-- In the second file the rule reports what it reports in the first one, and proposes the edits that it
proposes there, all of it the given number of bytes later. -/
structure Rule.MovesAlong (n : Nat) (source moved : SourceFile) (r : Rule) : Prop where
  check : r.check moved = (r.check source).map (·.moveBy n)
  correction : ∀ correct, r.correction = some correct → ∀ v,
    correct (v.moveBy n) moved = (correct v source).map (·.moveBy n)

/-- Everything comes the given number of bytes later. -/
def Translation.moveBy (n : Nat) : Translation :=
  ⟨(·.moveBy n), (·.moveBy n)⟩

theorem Rule.MovesAlong.carries {n : Nat} {source moved : SourceFile} {r : Rule}
    (h : r.MovesAlong n source moved) : r.Carries (.moveBy n) (fun _ => True) source moved r where
  kind _ _ := trivial
  check := h.check
  proposal v := by
    rw [proposal?, proposal?]
    cases hcorrection : r.correction with
    | none => rfl
    | some correct => exact h.correction correct hcorrection v

theorem SourceFile.MovedBy.keeps {before : List Char} {source moved : SourceFile}
    (h : MovedBy before source moved) :
    (Translation.moveBy (byteLength before)).Keeps (fun _ => True) source moved where
  order v w _ _ := Violation.notAfter_moveBy _ v w
  allowance v := h.allowance v.location.line v.rule
  anchored s v := by
    simp only [Translation.moveBy, Analyzer.isAnchored, Substitution.start_moveBy, Substitution.stop_moveBy,
      Violation.location_moveBy, Location.offset_moveBy, Nat.add_le_add_iff_left]
  valid s := by
    rw [h.text]
    exact Substitution.isValid_moveBy before source.text s
  overlaps := Substitution.overlaps_moveBy _

namespace Analyzer

/-- The outcome with a text in front and everything that much later. -/
def Outcome.moveBy (before : List Char) (o : Outcome) : Outcome where
  text := before ++ o.text
  applied := o.applied.map (Prod.map (·.moveBy (byteLength before)) (·.moveBy (byteLength before)))
  uncorrected := o.uncorrected.map (·.moveBy (byteLength before))

section Moved

variable {a : Analyzer} {before : List Char} {source moved : SourceFile}
  (hmoved : SourceFile.MovedBy before source moved)
  (hrules : ∀ r ∈ a.rules, r.MovesAlong (byteLength before) source moved)

include hmoved hrules

theorem analyze_moveBy :
    a.analyze moved = (a.analyze source).map (·.moveBy (byteLength before)) :=
  analyze_carried hmoved.keeps rfl (List.forall₂_same.2 fun r hr => (hrules r hr).carries)

/-- **A pass behind a prefix** has the outcome of the pass without it, with the prefix in front. -/
theorem correct_moveBy :
    ∃ o, a.correct source = .ok o ∧ a.correct moved = .ok (o.moveBy before) := by
  obtain ⟨o, ho, htext, hcarried⟩ :=
    correct_carried hmoved.keeps rfl (List.forall₂_same.2 fun r hr => (hrules r hr).carries)
  refine ⟨o, ho, hcarried.trans ?_⟩
  have hmovedText : splice moved.text 0
      (inTextOrder ((o.applied.map (·.2)).map (·.moveBy (byteLength before)))) = before ++ o.text := by
    rw [inTextOrder_moveBy, hmoved.text, splice_zero_moveBy, htext]
  rw [Outcome.moveBy, ← hmovedText]
  rfl

end Moved

end Analyzer

end SourceLint
