import Mathlib.Data.List.Perm.Basic
import SourceLint.Analysis.Analyzer
import SourceLint.Analysis.Verification
import SourceLint.Proofs.Edit.Acceptance
import SourceLint.Proofs.Report.Order

/-!
# Passes of corrections

Rules are arbitrary here: they may report anything anywhere and propose any edit.  What an analyzer
does with their proposals always works out.

* **`sift_eq`** — violations with usable edits and the others, each in their order.
* **`candidates`**, **`leftovers`** — the two lists of all rules together.
* **`correct_eq_ok`** — the outcome of a pass, which always has one.
* **`correct_and_correctOnce_succeed`** — neither the pass of an analyzer nor that of the examples can
  fail once there is a source file.
* **`correct_perm_analyze`** — the outcome accounts for every violation of the report once.
-/

namespace SourceLint

open scoped List

namespace Analyzer

/-! ### Sifting -/

theorem sift_eq (correct : Violation → Option Substitution) (vs : List Violation) :
    sift correct vs =
      (vs.filterMap fun v => (correct v).map fun s => (v, s),
        vs.filter fun v => (correct v).isNone) := by
  induction vs with
  | nil => rfl
  | cons v vs ih =>
    rw [sift, ih]
    cases h : correct v with
    | none => simp [h]
    | some s => simp [h]

/-- A violation is sifted to one side. -/
theorem sift_perm (correct : Violation → Option Substitution) (vs : List Violation) :
    ((sift correct vs).1.map (·.1) ++ (sift correct vs).2).Perm vs := by
  have hfst : (sift correct vs).1.map (·.1) = vs.filter fun v => (correct v).isSome := by
    rw [sift_eq, List.map_filterMap, ← List.filterMap_eq_filter]
    refine List.filterMap_congr fun v _ => ?_
    cases h : correct v with
    | none => simp [Option.guard, h]
    | some s => simp [Option.guard, h]
  have hsnd : (sift correct vs).2 = vs.filter fun v => !(correct v).isSome := by
    rw [sift_eq]
    refine List.filter_congr fun v _ => ?_
    cases correct v <;> rfl
  rw [hfst, hsnd]
  exact List.filter_append_perm _ vs

/-- Without an edit nothing is sifted out. -/
theorem sift_snd_of_fst_eq_nil {correct : Violation → Option Substitution} {vs : List Violation}
    (h : (sift correct vs).1 = []) : (sift correct vs).2 = vs := by
  rw [sift_eq] at h ⊢
  refine List.filter_eq_self.2 fun v hv => ?_
  have hn := List.filterMap_eq_nil_iff.1 h v hv
  simpa using hn

theorem validate_of_usableCorrection? {source : SourceFile} {r : Rule} {v : Violation}
    {s : Substitution} (h : usableCorrection? source r v = some s) :
    s.validate source.text = .ok () := by
  simp only [usableCorrection?, Option.bind_eq_bind, Option.bind_eq_some_iff] at h
  obtain ⟨correct, _, t, _, hif⟩ := h
  split at hif
  · rename_i hc
    rw [Bool.and_eq_true] at hc
    cases hif
    exact Substitution.isValid_eq_true_iff.1 hc.2
  · cases hif

/-! ### All rules together -/

/-- The violations that have usable edits, rule by rule. -/
def candidates (a : Analyzer) (source : SourceFile) : List (Violation × Substitution) :=
  a.rules.flatMap fun r => (a.siftRule source r).1

/-- The violations that have none, rule by rule. -/
def leftovers (a : Analyzer) (source : SourceFile) : List Violation :=
  a.rules.flatMap fun r => (a.siftRule source r).2

/-- The violations of all rules, rule by rule. -/
def findings (a : Analyzer) (source : SourceFile) : List Violation :=
  a.rules.flatMap (a.runRule source)

theorem candidates_perm_findings (a : Analyzer) (source : SourceFile) :
    ((a.candidates source).map (·.1) ++ a.leftovers source).Perm (a.findings source) := by
  rw [candidates, leftovers, findings, List.map_flatMap]
  refine (List.flatMap_append_perm _ _ _).trans ?_
  exact List.Perm.flatMap_left _ fun r _ => sift_perm _ _

theorem leftovers_of_candidates_eq_nil {a : Analyzer} {source : SourceFile}
    (h : a.candidates source = []) : a.leftovers source = a.findings source := by
  rw [leftovers, findings, List.flatMap_def, List.flatMap_def]
  congr 1
  refine List.map_congr_left fun r hr => ?_
  exact sift_snd_of_fst_eq_nil (List.flatMap_eq_nil_iff.1 h r hr)

/-- The candidates are the usable edits for the violations that the rules report. -/
theorem mem_candidates {a : Analyzer} {source : SourceFile} {c : Violation × Substitution} :
    c ∈ a.candidates source ↔
      ∃ r ∈ a.rules, c.1 ∈ a.runRule source r ∧ usableCorrection? source r c.1 = some c.2 := by
  simp only [candidates, List.mem_flatMap, siftRule, sift_eq, List.mem_filterMap, Option.map_eq_some_iff]
  constructor
  · rintro ⟨r, hr, v, hv, s, hs, rfl⟩
    exact ⟨r, hr, hv, hs⟩
  · rintro ⟨r, hr, hv, hs⟩
    exact ⟨r, hr, c.1, hv, c.2, hs, rfl⟩

theorem validate_of_mem_candidates {a : Analyzer} {source : SourceFile}
    {c : Violation × Substitution} (hc : c ∈ a.candidates source) :
    c.2.validate source.text = .ok () := by
  obtain ⟨r, -, -, hs⟩ := mem_candidates.1 hc
  exact validate_of_usableCorrection? hs

/-- What a pass applies can be applied. -/
theorem compatible_candidates (a : Analyzer) (source : SourceFile) :
    Compatible source.text ((acceptNonOverlapping (a.candidates source)).1.map (·.2)) :=
  compatible_acceptNonOverlapping fun _ hc => validate_of_mem_candidates hc

/-- **The outcome of a pass.** -/
theorem correct_eq_ok (a : Analyzer) (source : SourceFile) :
    a.correct source = .ok
      ⟨splice source.text 0
          (inTextOrder ((acceptNonOverlapping (a.candidates source)).1.map (·.2))),
        (acceptNonOverlapping (a.candidates source)).1,
        sortViolations (a.leftovers source ++ (acceptNonOverlapping (a.candidates source)).2)⟩ := by
  have happly := applySubstitutions_eq_ok_iff.2 ⟨a.compatible_candidates source, rfl⟩
  have hcandidates : (a.rules.map (a.siftRule source)).flatMap (·.1) = a.candidates source := by
    rw [List.flatMap_map]
    rfl
  have hleftovers : (a.rules.map (a.siftRule source)).flatMap (·.2) = a.leftovers source := by
    rw [List.flatMap_map]
    rfl
  simp only [correct, hcandidates, hleftovers, happly]

/-- A pass mends and leaves only what the rules found. -/
theorem mem_findings_of_correct {a : Analyzer} {source : SourceFile} {o : Outcome}
    (ho : a.correct source = .ok o) {v : Violation}
    (hv : v ∈ o.applied.map (·.1) ++ o.uncorrected) : v ∈ a.findings source := by
  rw [correct_eq_ok] at ho
  cases ho
  refine (a.candidates_perm_findings source).mem_iff.1 ?_
  rw [List.mem_append, (sortViolations_perm _).mem_iff, List.mem_append] at hv
  rw [List.mem_append, ← (acceptAfter_perm [] (a.candidates source)).mem_iff, List.mem_append]
  rcases hv with happlied | hleft | hrejected
  · exact .inl (.inl happlied)
  · exact .inr hleft
  · exact .inl (.inr hrejected)

end Analyzer

/-! ### The pass of the examples -/

theorem text_of_parseExample {r : Rule} {code : String} {text : List Char} {source : SourceFile}
    (h : parseExample r code text = .ok source) : source.text = text := by
  rw [parseExample, SourceFile.parse] at h
  split at h
  · rename_i file hfile
    split at hfile
    · cases hfile
      cases h
      rfl
    · cases hfile
  · cases h

theorem compatible_ownEdits (r : Rule) (source : SourceFile) :
    Compatible source.text (ownEdits r source) := by
  rw [ownEdits]
  cases r.correction with
  | none => exact ⟨by simp, List.Pairwise.nil⟩
  | some correct =>
    refine compatible_acceptNonOverlapping fun c hc => ?_
    obtain ⟨s, hs, rfl⟩ := List.mem_map.1 hc
    exact Substitution.isValid_eq_true_iff.1 (List.mem_filter.1 hs).2

theorem correctedText_eq_splice (r : Rule) (source : SourceFile) :
    correctedText r source = splice source.text 0 (inTextOrder (ownEdits r source)) := by
  have happly := applySubstitutions_eq_ok_iff.2 ⟨compatible_ownEdits r source, rfl⟩
  cases h : r.correction with
  | none => simp [correctedText, ownEdits, h, inTextOrder, splice, Text.dropBytes_zero]
  | some correct => simp [correctedText, h, happly]

/-! ### What a pass guarantees -/

/-- **Correction never fails.**  Whatever the rules propose, the pass of an analyzer has an outcome: the
edits that it chose are accepted, and every stretch that is copied from the text exists.  The same holds
of the pass of the examples once the code is parsed, so its text is never the wording of an error. -/
theorem correct_and_correctOnce_succeed :
    (∀ (a : Analyzer) (source : SourceFile), ∃ o, a.correct source = .ok o ∧
      applySubstitutions source.text (o.applied.map (·.2)) = .ok o.text ∧
      splice? source.text 0 (inTextOrder (o.applied.map (·.2))) = some o.text) ∧
    ∀ (r : Rule) (code : String) (text : List Char),
      (∃ e, parseExample r code text = .error e ∧ correctOnce r code text = .error e) ∨
      ∃ source out, parseExample r code text = .ok source ∧ correctOnce r code text = .ok out ∧
        applySubstitutions text (ownEdits r source) = .ok out ∧
        splice? text 0 (inTextOrder (ownEdits r source)) = some out := by
  constructor
  · intro a source
    have hc := a.compatible_candidates source
    exact ⟨_, a.correct_eq_ok source, applySubstitutions_eq_ok_iff.2 ⟨hc, rfl⟩,
      splice?_of_laid hc.laid⟩
  · intro r code text
    rw [correctOnce]
    cases h : parseExample r code text with
    | error e => exact .inl ⟨e, rfl, rfl⟩
    | ok source =>
      have hc := compatible_ownEdits r source
      have htext : source.text = text := text_of_parseExample h
      rw [← htext]
      exact .inr ⟨source, _, rfl, congrArg _ (correctedText_eq_splice r source),
        applySubstitutions_eq_ok_iff.2 ⟨hc, rfl⟩, splice?_of_laid hc.laid⟩

/-- **Correction accounts for every violation once.**  What was applied and what was left are together
the report, what was left is in the order of reports, and where nothing was applied the text is as
before and what was left is the report, element by element. -/
theorem correct_perm_analyze (a : Analyzer) (source : SourceFile) :
    ∃ o, a.correct source = .ok o ∧
      (o.applied.map (·.1) ++ o.uncorrected).Perm (a.analyze source) ∧
      (o.uncorrected.Pairwise fun v w => v.notAfter w = true) ∧
      (o.applied = [] → o.text = source.text ∧ o.uncorrected = a.analyze source) := by
  refine ⟨_, a.correct_eq_ok source, ?_, pairwise_sortViolations _, ?_⟩
  · calc
      _ ~ (acceptNonOverlapping (a.candidates source)).1.map (·.1) ++
          (a.leftovers source ++ (acceptNonOverlapping (a.candidates source)).2) :=
        (sortViolations_perm _).append_left _
      _ ~ (acceptNonOverlapping (a.candidates source)).1.map (·.1) ++
          (acceptNonOverlapping (a.candidates source)).2 ++ a.leftovers source := by
        rw [List.append_assoc]
        exact List.perm_append_comm.append_left _
      _ ~ (a.candidates source).map (·.1) ++ a.leftovers source :=
        (acceptAfter_perm [] (a.candidates source)).append_right _
      _ ~ a.findings source := a.candidates_perm_findings source
      _ ~ a.analyze source := (sortViolations_perm _).symm
  · intro happlied
    have hnil : a.candidates source = [] := acceptNonOverlapping_eq_nil_iff.1 happlied
    constructor
    · simp [hnil, acceptNonOverlapping, acceptAfter, inTextOrder, splice, Text.dropBytes_zero]
    · simp only [hnil, acceptNonOverlapping, acceptAfter, List.append_nil,
        Analyzer.leftovers_of_candidates_eq_nil hnil]
      rfl

end SourceLint
