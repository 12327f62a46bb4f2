import Mathlib.Data.List.Forall2
import SourceLint.Proofs.Analysis.Independence

/-!
# Two analyzers on two files

An analyzer asks little of violations and edits: which of two violations comes first, whether a comment
allows one, whether an edit touches its violation and fits the text, and whether two edits overlap.  Where a
translation of violations and edits leaves all these answers alone, and turns what the rules of one analyzer
say about one file into what the rules of another say about another file, it turns the one report into the
other, and the one pass into the other.

* **`Translation.Keeps`** — the answers stay the same.
* **`Rule.Carries`** — what a rule says about a file is translated into what another says.
* **`Analyzer.analyze_carried`**, **`Analyzer.correct_carried`** — the report and the pass are translated.
-/

namespace SourceLint

/-- A way to say of one file what was said of another one. -/
structure Translation where
  violation : Violation → Violation
  edit : Substitution → Substitution

/-- What an analyzer asks has the same answer after the translation.  About the order of reports that is
only required of violations of a certain kind. -/
structure Translation.Keeps (t : Translation) (kind : Violation → Prop) (source target : SourceFile) :
    Prop where
  order : ∀ v w, kind v → kind w → (t.violation v).notAfter (t.violation w) = v.notAfter w
  allowance : ∀ v, allowance target.text (t.violation v).location.line (t.violation v).rule =
    allowance source.text v.location.line v.rule
  anchored : ∀ s v, Analyzer.isAnchored (t.edit s) (t.violation v) = Analyzer.isAnchored s v
  valid : ∀ s, (t.edit s).isValid target.text = s.isValid source.text
  overlaps : ∀ a b, (t.edit a).overlaps (t.edit b) = a.overlaps b

/-- The edit that a rule proposes for a violation, if it proposes one. -/
def Rule.proposal? (r : Rule) (source : SourceFile) (v : Violation) : Option Substitution :=
  r.correction.bind fun correct => correct v source

/-- What the first rule says about the first file is of the given kind, and translated it is what the
second rule says about the second file. -/
structure Rule.Carries (t : Translation) (kind : Violation → Prop) (source target : SourceFile)
    (r s : Rule) : Prop where
  kind : ∀ v ∈ r.check source, kind v
  check : s.check target = (r.check source).map t.violation
  proposal : ∀ v, s.proposal? target (t.violation v) = (r.proposal? source v).map t.edit

/-- Sorting commutes with what leaves the order of the violations alone. -/
theorem sortViolations_map {f : Violation → Violation} {vs : List Violation}
    (h : ∀ v ∈ vs, ∀ w ∈ vs, (f v).notAfter (f w) = v.notAfter w) :
    sortViolations (vs.map f) = (sortViolations vs).map f :=
  (List.map_mergeSort fun v hv w hw => (h v hv w hw).symm).symm

/-- Lists that are computed from elements that correspond to each other. -/
theorem flatMap_of_forall₂ {α β γ δ : Type} {R : α → β → Prop} {as : List α} {bs : List β}
    (h : List.Forall₂ R as bs) {F : α → List γ} {G : β → List δ} {f : γ → δ}
    (hR : ∀ a b, R a b → G b = (F a).map f) : bs.flatMap G = (as.flatMap F).map f := by
  induction h with
  | nil => rfl
  | cons hab _ ih => rw [List.flatMap_cons, List.flatMap_cons, List.map_append, hR _ _ hab, ih]

namespace Analyzer

theorem usableCorrection?_eq (source : SourceFile) (r : Rule) (v : Violation) :
    usableCorrection? source r v =
      (r.proposal? source v).filter fun s => isAnchored s v && s.isValid source.text := by
  rw [usableCorrection?, Rule.proposal?]
  cases r.correction with
  | none => rfl
  | some correct =>
    simp only [Option.bind_eq_bind, Option.bind_some]
    cases correct v source with
    | none => rfl
    | some s => rfl

section Carried

variable {t : Translation} {kind : Violation → Prop} {source target : SourceFile}
  (hkeeps : t.Keeps kind source target) {a b : Analyzer} (hhonors : a.honorsDirectives = b.honorsDirectives)

/-! ### One rule -/

section OneRule

variable {r s : Rule} (hcarries : r.Carries t kind source target s)

include hkeeps hhonors hcarries in
theorem runRule_carried : b.runRule target s = (a.runRule source r).map t.violation := by
  have hcounts : b.counts target ∘ t.violation = a.counts source := by
    funext v
    rw [Function.comp_apply, counts, counts, hkeeps.allowance, hhonors]
  rw [runRule, runRule, hcarries.check, List.filter_map, hcounts]
  refine sortViolations_map fun v hv w hw => ?_
  exact hkeeps.order v w (hcarries.kind v (List.mem_filter.1 hv).1) (hcarries.kind w (List.mem_filter.1 hw).1)

include hkeeps hcarries in
theorem usableCorrection?_carried (v : Violation) :
    usableCorrection? target s (t.violation v) = (usableCorrection? source r v).map t.edit := by
  rw [usableCorrection?_eq, usableCorrection?_eq, hcarries.proposal]
  cases r.proposal? source v with
  | none => rfl
  | some e =>
    rw [Option.map_some, Option.filter_some, Option.filter_some, hkeeps.anchored, hkeeps.valid]
    split
    · rfl
    · rfl

include hkeeps hhonors hcarries in
/-- The rules have edits for violations that correspond to each other. -/
theorem siftRule_carried :
    b.siftRule target s = ((a.siftRule source r).1.map (Prod.map t.violation t.edit),
      (a.siftRule source r).2.map t.violation) := by
  rw [siftRule, siftRule, sift_eq, sift_eq, runRule_carried hkeeps hhonors hcarries, List.filterMap_map,
    List.filter_map, List.map_filterMap]
  congr 2
  · funext v
    rw [Function.comp_apply, usableCorrection?_carried hkeeps hcarries]
    cases usableCorrection? source r v with
    | none => rfl
    | some e => rfl
  · refine List.filter_congr fun v _ => ?_
    rw [Function.comp_apply, usableCorrection?_carried hkeeps hcarries, Option.isNone_map]

end OneRule

/-! ### All rules together -/

variable (hrules : List.Forall₂ (Rule.Carries t kind source target) a.rules b.rules)

include hrules in
theorem kind_of_mem_findings {v : Violation} (hv : v ∈ a.findings source) : kind v := by
  obtain ⟨r, hr, hv⟩ := List.mem_flatMap.1 hv
  obtain ⟨i, hi, rfl⟩ := List.getElem_of_mem hr
  have hcarries := hrules.get hi (hrules.length_eq ▸ hi)
  exact hcarries.kind v (mem_runRule.1 hv).1

include hkeeps hhonors hrules

/-- **The report is translated.** -/
theorem analyze_carried : b.analyze target = (a.analyze source).map t.violation := by
  have hfindings : b.rules.flatMap (b.runRule target) = (a.rules.flatMap (a.runRule source)).map t.violation :=
    flatMap_of_forall₂ hrules fun r s hcarries => runRule_carried hkeeps hhonors hcarries
  rw [analyze, analyze, hfindings]
  refine sortViolations_map fun v hv w hw => ?_
  exact hkeeps.order v w (kind_of_mem_findings hrules hv) (kind_of_mem_findings hrules hw)

theorem candidates_carried :
    b.candidates target = (a.candidates source).map (Prod.map t.violation t.edit) :=
  flatMap_of_forall₂ hrules fun r s hcarries => by rw [siftRule_carried hkeeps hhonors hcarries]

theorem leftovers_carried : b.leftovers target = (a.leftovers source).map t.violation :=
  flatMap_of_forall₂ hrules fun r s hcarries => by rw [siftRule_carried hkeeps hhonors hcarries]

/-- **The pass is translated**: the same edits are applied, to the text of the other file. -/
theorem correct_carried : ∃ o, a.correct source = .ok o ∧
    o.text = splice source.text 0 (inTextOrder (o.applied.map (·.2))) ∧
    b.correct target = .ok
      ⟨splice target.text 0 (inTextOrder ((o.applied.map (·.2)).map t.edit)),
        o.applied.map (Prod.map t.violation t.edit), o.uncorrected.map t.violation⟩ := by
  refine ⟨_, a.correct_eq_ok source, rfl, ?_⟩
  have hedits : ((acceptNonOverlapping (a.candidates source)).1.map (Prod.map t.violation t.edit)).map (·.2) =
      ((acceptNonOverlapping (a.candidates source)).1.map (·.2)).map t.edit := by
    rw [List.map_map, List.map_map]
    rfl
  -- what is left over or rejected was found, so it is of the kind whose order is kept
  have hkind : ∀ v ∈ a.leftovers source ++ (acceptNonOverlapping (a.candidates source)).2, kind v := by
    intro v hv
    refine kind_of_mem_findings hrules (mem_findings_of_correct (a.correct_eq_ok source) ?_)
    exact List.mem_append_right _ ((sortViolations_perm _).mem_iff.2 hv)
  rw [correct_eq_ok, candidates_carried hkeeps hhonors hrules, leftovers_carried hkeeps hhonors hrules,
    acceptNonOverlapping_map hkeeps.overlaps, hedits, ← List.map_append,
    sortViolations_map fun v hv w hw => hkeeps.order v w (hkind v hv) (hkind w hw)]

end Carried

end Analyzer

end SourceLint
