import SourceLint.Proofs.Analysis.Correction
import SourceLint.Proofs.Report.Stability

/-!
# Honouring directives

Comments are consulted for each rule by itself, before its violations are sorted and before those of all
rules are.  All the same the report is the one without directives, less the violations that a comment
allows, and a pass of edits never sees one of these.

* **`Allowance.isAllowed_eq_false_iff`** — the two words for not being allowed.
* **`Analyzer.counts_iff`** — the violations that count where directives are honoured.
* **`Analyzer.analyze_eq_filter_counts`** — leaving out violations commutes with both levels of sorting.
* **`honoring_directives_eq_filter`** — the report and the pass with directives honoured.
-/

namespace SourceLint

theorem Allowance.isAllowed_eq_false_iff {a : Allowance} : a.isAllowed = false ↔ a = .denied := by
  cases a with
  | denied => simp [isAllowed]
  | allowed reason => simp [isAllowed]

namespace Analyzer

variable (rules : List Rule) (errors : List SettingsError) (source : SourceFile)

/-- Where directives are honoured, what counts is what no comment allows. -/
theorem counts_iff {v : Violation} :
    counts ⟨rules, errors, true⟩ source v = true ↔
      allowance source.text v.location.line v.rule = .denied := by
  rw [counts, Bool.true_and, Bool.not_eq_true', Allowance.isAllowed_eq_false_iff]

/-- The report of one rule is its report without directives, less what does not count. -/
theorem runRule_eq_filter_counts (r : Rule) :
    runRule ⟨rules, errors, true⟩ source r =
      (runRule ⟨rules, errors, false⟩ source r).filter (counts ⟨rules, errors, true⟩ source) := by
  have hall : (r.check source).filter (counts ⟨rules, errors, false⟩ source) = r.check source :=
    List.filter_eq_self.2 fun _ _ => rfl
  rw [runRule, runRule, filter_sortViolations, hall]

theorem analyze_eq_filter_counts :
    analyze ⟨rules, errors, true⟩ source =
      (analyze ⟨rules, errors, false⟩ source).filter (counts ⟨rules, errors, true⟩ source) := by
  have hrules : (rules.flatMap (runRule ⟨rules, errors, false⟩ source)).filter
      (counts ⟨rules, errors, true⟩ source) = rules.flatMap (runRule ⟨rules, errors, true⟩ source) := by
    rw [List.filter_flatMap]
    exact congrArg rules.flatMap (funext fun r => (runRule_eq_filter_counts rules errors source r).symm)
  rw [analyze, analyze, filter_sortViolations, hrules]

end Analyzer

/-- **Honouring directives is filtering the report.**  Whatever rules there are and whatever they report,
the report with directives honoured is the one without, less the violations that a comment allows on their
line, and in the same order.  What a pass of edits then mends or leaves, no comment allows. -/
theorem honoring_directives_eq_filter (rules : List Rule) (errors : List SettingsError)
    (source : SourceFile) :
    Analyzer.analyze ⟨rules, errors, true⟩ source =
        (Analyzer.analyze ⟨rules, errors, false⟩ source).filter
          (fun v => !(allowance source.text v.location.line v.rule).isAllowed) ∧
      ∃ o, Analyzer.correct ⟨rules, errors, true⟩ source = .ok o ∧
        ∀ v ∈ o.applied.map (·.1) ++ o.uncorrected,
          allowance source.text v.location.line v.rule = .denied := by
  have hcorrect := Analyzer.correct_eq_ok ⟨rules, errors, true⟩ source
  refine ⟨Analyzer.analyze_eq_filter_counts rules errors source, _, hcorrect, fun v hv => ?_⟩
  obtain ⟨r, -, hr⟩ := List.mem_flatMap.1 (Analyzer.mem_findings_of_correct hcorrect hv)
  rw [Analyzer.runRule_eq_filter_counts, List.mem_filter] at hr
  exact (Analyzer.counts_iff rules errors source).1 hr.2

end SourceLint
