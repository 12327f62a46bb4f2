import SourceLint.Proofs.Analysis.Transfer
import SourceLint.Proofs.Data.Steps
import SourceLint.Proofs.Edit.FirstWins
import SourceLint.Rules.Scripted

/-!
# Edits at the places of violations

A rule may propose any edit for a violation.  It is made if it fits the text, reaches the place of the
violation and is not in the way of an edit that was accepted before.  An edit reaches the place if it covers
the byte there, if it begins there, and also if it ends there; in the last case all that it replaces lies in
front of the violation.

* **`Substitution.IsAt`**, **`Substitution.EndsAt`** — where an edit stands to a place.
* **`Analyzer.Proposes`** — the edits that the rules of an analyzer propose.
* **`Analyzer.mem_candidates_iff_proposes`** — which of them are made, overlaps apart.
* **`applied_edits_reach_violations`** — all edits that a pass applies, and what becomes of the others.
* **`applies_edit_before_violation`** — an edit that leaves the violation alone and is applied.
-/

namespace SourceLint

open SourceLint.Text

/-! ### Edits and places -/

namespace Substitution

/-- The edit begins at the offset or covers the byte there. -/
def IsAt (s : Substitution) (offset : Nat) : Prop :=
  s.start = offset ∨ s.start ≤ offset ∧ offset < s.stop

/-- The edit begins before the offset and ends there: what it replaces lies wholly before the offset. -/
def EndsAt (s : Substitution) (offset : Nat) : Prop :=
  s.start < offset ∧ s.stop = offset

instance (s : Substitution) (offset : Nat) : Decidable (s.IsAt offset) :=
  inferInstanceAs (Decidable (_ ∨ _))

instance (s : Substitution) (offset : Nat) : Decidable (s.EndsAt offset) :=
  inferInstanceAs (Decidable (_ ∧ _))

/-- The edit replaces a stretch of the text that cuts no character. -/
structure FitsIn (s : Substitution) (text : List Char) : Prop where
  ordered : s.start ≤ s.stop
  inside : s.stop ≤ byteLength text
  start_boundary : isBoundary text s.start = true
  stop_boundary : isBoundary text s.stop = true

theorem fitsIn_iff {s : Substitution} {text : List Char} : s.FitsIn text ↔ s.validate text = .ok () := by
  rw [validate_eq_ok_iff]
  constructor
  · rintro ⟨hordered, -, hstart, hstop⟩
    exact ⟨hordered, hstart, hstop⟩
  · rintro ⟨hordered, hstart, hstop⟩
    exact ⟨hordered, le_byteLength_of_isBoundary hstop, hstart, hstop⟩

/-- An edit whose ends are in order reaches a place in one of two ways. -/
theorem isAnchored_iff {s : Substitution} {v : Violation} (h : s.start ≤ s.stop) :
    Analyzer.isAnchored s v = true ↔ s.IsAt v.location.offset ∨ s.EndsAt v.location.offset := by
  rw [Analyzer.isAnchored, Bool.and_eq_true, decide_eq_true_eq, decide_eq_true_eq, IsAt, EndsAt]
  omega

end Substitution

/-! ### Proposals -/

namespace Analyzer

variable {a : Analyzer} {source : SourceFile} {v : Violation} {s : Substitution}

/-- One of the rules reports the violation, and the edit is what it proposes for it. -/
def Proposes (a : Analyzer) (source : SourceFile) (v : Violation) (s : Substitution) : Prop :=
  ∃ r ∈ a.rules, v ∈ a.runRule source r ∧ r.proposal? source v = some s

theorem usableCorrection?_eq_some_iff {r : Rule} :
    usableCorrection? source r v = some s ↔ r.proposal? source v = some s ∧ s.FitsIn source.text ∧
      (s.IsAt v.location.offset ∨ s.EndsAt v.location.offset) := by
  rw [usableCorrection?_eq, Option.filter_eq_some_iff, Bool.and_eq_true, Substitution.isValid_eq_true_iff,
    ← Substitution.fitsIn_iff]
  refine and_congr_right fun _ => ?_
  constructor
  · rintro ⟨hanchored, hfits⟩
    exact ⟨hfits, (Substitution.isAnchored_iff hfits.ordered).1 hanchored⟩
  · rintro ⟨hfits, hreaches⟩
    exact ⟨(Substitution.isAnchored_iff hfits.ordered).2 hreaches, hfits⟩

/-- **The proposals that can be used** are those that fit the text and reach the place of the violation. -/
theorem mem_candidates_iff_proposes :
    (v, s) ∈ a.candidates source ↔ a.Proposes source v s ∧ s.FitsIn source.text ∧
      (s.IsAt v.location.offset ∨ s.EndsAt v.location.offset) := by
  simp only [mem_candidates, usableCorrection?_eq_some_iff, Proposes]
  constructor
  · rintro ⟨r, hr, hv, hproposal, husable⟩
    exact ⟨⟨r, hr, hv, hproposal⟩, husable⟩
  · rintro ⟨⟨r, hr, hv, hproposal⟩, husable⟩
    exact ⟨r, hr, hv, hproposal, husable⟩

end Analyzer

/-- **Edits are applied at the places of violations, or right in front of them.**  Whatever the rules propose,
each edit of a pass is what a rule proposed for a violation that it reported, and replaces a stretch of the
text that cuts no character.  It covers the byte at the offset of the violation or begins there, unless it is
one that begins before and ends at the offset; no edit that ends before the offset or begins behind it is
applied.  Every proposal that meets these conditions is applied if no edit that is applied overlaps it. -/
theorem applied_edits_reach_violations (a : Analyzer) (source : SourceFile) :
    ∃ o, a.correct source = .ok o ∧
      (∀ v s, (v, s) ∈ o.applied → a.Proposes source v s ∧ s.FitsIn source.text ∧
        (¬ s.EndsAt v.location.offset → s.IsAt v.location.offset) ∧
        ¬ s.stop < v.location.offset ∧ ¬ v.location.offset < s.start) ∧
      ∀ v s, a.Proposes source v s → s.FitsIn source.text →
        s.IsAt v.location.offset ∨ s.EndsAt v.location.offset →
        (v, s) ∈ o.applied ∨ ∃ c ∈ o.applied, c.2.overlaps s = true := by
  refine ⟨_, a.correct_eq_ok source, fun v s hs => ?_, fun v s hproposes hfits hreaches => ?_⟩
  · have hcandidate := (acceptAfter_sublist [] (a.candidates source)).subset hs
    obtain ⟨hproposes, hfits, hreaches⟩ := Analyzer.mem_candidates_iff_proposes.1 hcandidate
    have hordered := hfits.ordered
    refine ⟨hproposes, hfits, hreaches.resolve_right, ?_, ?_⟩
    · rw [Substitution.IsAt, Substitution.EndsAt] at hreaches
      omega
    · rw [Substitution.IsAt, Substitution.EndsAt] at hreaches
      omega
  · exact mem_or_exists_overlaps (Analyzer.mem_candidates_iff_proposes.2 ⟨hproposes, hfits, hreaches⟩)

/-! ### An edit in front of a violation -/

/-- A file with two modules. -/
def twoModules : List Char := "mod a; mod b;".toList

/-- A rule that reports the second module of this file and takes away the first one. -/
def erasesNeighbour : Rule :=
  Scripted.rule {
    identifier := "erases-neighbour"
    description := ⟨"erases-neighbour", "", "", .lint, .ignore, [], [], []⟩
    severity := .warning
    isOptIn := false
    isCorrectable := true
    violations := [⟨"erases-neighbour", .warning, 1, 8, 7, 6, none, some (.deletion 0 7)⟩] }

/-- What is taken away lies wholly before the violation, which is left as it was. -/
theorem applies_edit_before_violation :
    ∃ source o, SourceFile.parse SourceFile.snippetPath twoModules = .ok source ∧
      Analyzer.correct ⟨[erasesNeighbour], [], true⟩ source = .ok o ∧ o.text = "mod b;".toList ∧
      ∃ c ∈ o.applied, c.2.EndsAt c.1.location.offset ∧ ¬ c.2.IsAt c.1.location.offset := by
  have hpass : (SourceFile.parse SourceFile.snippetPath twoModules).toOption.any (fun source =>
      (Analyzer.correct ⟨[erasesNeighbour], [], true⟩ source).toOption.any fun o =>
        o.text = "mod b;".toList ∧
          ∃ c ∈ o.applied, c.2.EndsAt c.1.location.offset ∧ ¬ c.2.IsAt c.1.location.offset) = true := by
    decide +kernel
  obtain ⟨source, hsource, hcorrect⟩ := exists_of_any_toOption hpass
  obtain ⟨o, ho, hedit⟩ := exists_of_any_toOption hcorrect
  exact ⟨source, o, hsource, ho, of_decide_eq_true hedit⟩

end SourceLint
