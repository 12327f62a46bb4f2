import SourceLint.Proofs.Analysis.Independence
import SourceLint.Proofs.Rules.Builtin

/-!
# What rules of the program report

A rule of the program asks for the location of a node whenever it reports something.  So what is reported
bears the name of the file and is a stretch of its text that begins and ends between characters.

* **`SourceFile.Covers`** — a violation is such a stretch of the file.
* **`Rule.IsBuiltin.covers`**, **`Analyzer.covers_of_isBuiltin`** — rules of the program report no others.
-/

namespace SourceLint

open SourceLint.Text

/-- The violation is a stretch of the file. -/
structure SourceFile.Covers (source : SourceFile) (v : Violation) : Prop where
  file : v.location.file = source.path
  offset_le_stop : v.location.offset ≤ v.location.stop
  stop_le : v.location.stop ≤ byteLength source.text
  isBoundary_offset : isBoundary source.text v.location.offset = true
  isBoundary_stop : isBoundary source.text v.location.stop = true

theorem SourceFile.covers_violation (source : SourceFile) (rule : String) (severity : Severity)
    (span : Span) (reason : String) : source.Covers (source.violation rule severity span reason) where
  file := rfl
  offset_le_stop := Nat.le_add_right _ _
  stop_le := le_byteLength_of_isBoundary (source.isBoundary_stop_location span)
  isBoundary_offset := source.isBoundary_offset span.start
  isBoundary_stop := source.isBoundary_stop_location span

/-- What a rule of the program reports is a stretch of the file. -/
theorem Rule.IsBuiltin.covers {r : Rule} (hr : r.IsBuiltin) {source : SourceFile} {v : Violation}
    (hv : v ∈ r.check source) : source.Covers v := by
  cases hr with
  | preferExpect settings =>
    change v ∈ (settings.visitor source).run source.tree at hv
    rw [Visitor.run_of_skipped_nil rfl] at hv
    obtain ⟨p, -, hanswer⟩ := List.mem_flatMap.1 hv
    rw [Visitor.answersAt] at hanswer
    cases hat : source.tree.at? p with
    | none =>
      rw [hat] at hanswer
      cases hanswer
    | some n =>
      rw [hat] at hanswer
      change v ∈ (settings.visitor source).leave n at hanswer
      rw [PreferExpect.visitor] at hanswer
      dsimp only at hanswer
      split at hanswer
      · cases List.mem_singleton.1 hanswer
        exact source.covers_violation _ _ _ _
      · cases hanswer
  | testCaseAccessibility settings =>
    rw [TestCaseAccessibility.check_eq_exposures] at hv
    obtain ⟨e, -, rfl⟩ := List.mem_map.1 hv
    exact source.covers_violation _ _ _ _

/-- What an analyzer of rules of the program reports are stretches of the file. -/
theorem Analyzer.covers_of_isBuiltin {a : Analyzer} (hbuiltin : ∀ r ∈ a.rules, r.IsBuiltin)
    {source : SourceFile} {v : Violation} (hv : v ∈ a.analyze source) : source.Covers v := by
  rw [analyze, (sortViolations_perm _).mem_iff] at hv
  obtain ⟨r, hr, hreported⟩ := List.mem_flatMap.1 hv
  exact (hbuiltin r hr).covers (mem_runRule.1 hreported).1

end SourceLint
