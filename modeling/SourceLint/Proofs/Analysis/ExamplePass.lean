import SourceLint.Proofs.Analysis.Independence
import SourceLint.Proofs.Data.Steps

/-!
# The pass of the examples is that of an analyzer

The examples of a rule are corrected by a pass of their own.  It sorts violations by their offsets alone,
asks for all edits before it leaves out those that cannot be used, and never asks whether an edit touches
its violation.  For a rule that reports under its own name and edits only where it reports, that makes no
difference: an analyzer with this rule alone chooses the same edits.

* **`sortViolations_eq_mergeSort_beginsBy`** — violations of one rule in one file are in the order of
  reports once they are in the order of their offsets.
* **`Rule.EditsInPlace`** — the edits of a rule touch the violations that it reports.
* **`ownEdits_eq_applied`** — both passes choose the same edits.
* **`correctOnce_eq_correct`** — both passes leave the same text.
-/

namespace SourceLint

/-! ### Sorting -/

/-- Where neither the file nor the rule tells violations apart, only their offsets do. -/
theorem sortViolations_eq_mergeSort_beginsBy {vs : List Violation} {file rule : String}
    (h : ∀ v ∈ vs, v.rule = rule ∧ v.location.file = file) :
    sortViolations vs = vs.mergeSort Violation.beginsBy := by
  have hagree : ∀ v ∈ vs, ∀ w ∈ vs, v.notAfter w = v.beginsBy w := by
    intro v hv w hw
    have horder : v.order w = compare v.location.offset w.location.offset := by
      rw [Violation.order, (h v hv).1, (h w hw).1, (h v hv).2, (h w hw).2, Files.PathName.order,
        Std.ReflOrd.compare_self, Std.ReflOrd.compare_self, Ordering.then_eq, Ordering.eq_then]
    rw [Violation.notAfter, Violation.beginsBy, horder, Bool.eq_iff_iff, bne_iff_ne, ne_eq,
      Nat.compare_eq_gt, decide_eq_true_eq, Nat.not_lt]
  have hsort := List.map_mergeSort (f := id) hagree
  rwa [List.map_id, List.map_id] at hsort

/-! ### Both passes -/

/-- The edits of the rule for what it reports in the file begin at the place of the violation or before it
and end there or behind it. -/
def Rule.EditsInPlace (r : Rule) (source : SourceFile) : Prop :=
  ∀ correct, r.correction = some correct → ∀ v ∈ r.check source, ∀ s, correct v source = some s →
    s.start ≤ v.location.offset ∧ v.location.offset ≤ s.stop

section OneRule

variable {r : Rule} {a : Analyzer} {source : SourceFile} (hrules : a.rules = [r])
  (hhonors : a.honorsDirectives = false) (hstamps : Analyzer.Stamps source r)
  (hplace : r.EditsInPlace source)

include hhonors hstamps in
/-- Without directives the analyzer looks at the violations in the order in which the examples do. -/
theorem runRule_eq_mergeSort_beginsBy :
    a.runRule source r = (r.check source).mergeSort Violation.beginsBy := by
  have hall : (r.check source).filter (a.counts source) = r.check source := by
    refine List.filter_eq_self.2 fun v _ => ?_
    rw [Analyzer.counts, hhonors]
    rfl
  rw [Analyzer.runRule, hall, sortViolations_eq_mergeSort_beginsBy hstamps]

include hplace in
/-- Of an edit in its place only validity is asked. -/
theorem usableCorrection?_eq_filter {correct : Violation → SourceFile → Option Substitution}
    (hcorrect : r.correction = some correct) {v : Violation} (hv : v ∈ r.check source) :
    Analyzer.usableCorrection? source r v =
      (correct v source).filter fun s => s.isValid source.text := by
  simp only [Analyzer.usableCorrection?, hcorrect, bind, Option.bind_some]
  cases hs : correct v source with
  | none => rfl
  | some s =>
    obtain ⟨hstart, hstop⟩ := hplace correct hcorrect v hv s hs
    have hanchored : Analyzer.isAnchored s v = true := by
      simp [Analyzer.isAnchored, hstart, hstop]
    rw [Option.bind_some, hanchored, Bool.true_and, Option.filter]

include hrules hhonors hstamps hplace in
/-- **Both passes choose the same edits.** -/
theorem ownEdits_eq_applied :
    ownEdits r source = (acceptNonOverlapping (a.candidates source)).1.map (·.2) := by
  have hcandidates : a.candidates source =
      ((r.check source).mergeSort Violation.beginsBy).filterMap fun v =>
        (Analyzer.usableCorrection? source r v).map fun s => (v, s) := by
    rw [Analyzer.candidates, hrules, List.flatMap_singleton, Analyzer.siftRule, Analyzer.sift_eq,
      runRule_eq_mergeSort_beginsBy hhonors hstamps]
  rw [hcandidates, ownEdits]
  cases hcorrect : r.correction with
  | none =>
    have hnone : ∀ v, Analyzer.usableCorrection? source r v = none := by
      intro v
      simp only [Analyzer.usableCorrection?, hcorrect, bind, Option.bind_none]
    simp [hnone, acceptNonOverlapping, acceptAfter]
  | some correct =>
    dsimp only
    set vs := (r.check source).mergeSort Violation.beginsBy
    have hmem : ∀ v ∈ vs, v ∈ r.check source := fun v hv => (List.mergeSort_perm _ _).mem_iff.1 hv
    -- the proposals of the examples are the candidates of the analyzer without their labels
    have hproposals : ((vs.filterMap fun v => correct v source).filter
          fun s => s.isValid source.text).map (fun s => ((), s)) =
        (vs.filterMap fun v => (Analyzer.usableCorrection? source r v).map fun s => (v, s)).map
          (Prod.map (fun _ => ()) id) := by
      rw [List.filter_filterMap, List.map_filterMap, List.map_filterMap]
      refine List.filterMap_congr fun v hv => ?_
      rw [usableCorrection?_eq_filter hplace hcorrect (hmem v hv), Option.map_map]
      rfl
    rw [hproposals, acceptNonOverlapping_map (g := id) (fun _ _ => rfl), List.map_map]
    rfl

end OneRule

/-- **The examples of a rule are corrected as an analyzer would.**  Let a rule report under its own name and
in the file at hand, and edit only where it reports; otherwise its edits may be anything.  Then the pass of
the examples over a text that can be parsed, and the pass of an analyzer that has this rule alone and does
not honour directives, succeed with the same text. -/
theorem correctOnce_eq_correct {r : Rule} {a : Analyzer} (hrules : a.rules = [r])
    (hhonors : a.honorsDirectives = false) {text : List Char} {source : SourceFile}
    (hparsed : SourceFile.parse SourceFile.snippetPath text = .ok source)
    (hstamps : ∀ v ∈ r.check source, v.rule = r.identifier ∧ v.location.file = source.path)
    (hplace : r.EditsInPlace source) (code : String) :
    ∃ o, a.correct source = .ok o ∧ correctOnce r code text = .ok o.text := by
  refine ⟨_, a.correct_eq_ok source, ?_⟩
  have hexample : parseExample r code text = .ok source := by
    rw [parseExample, hparsed]
  rw [correctOnce, hexample]
  show Except.ok (correctedText r source) = _
  rw [correctedText_eq_splice, ownEdits_eq_applied hrules hhonors hstamps hplace]

/-- A rule that reports a place twice, with two edits that overlap, and another place with an edit that
reaches past the end of every short file. -/
def contradictsItself : Rule :=
  Scripted.rule {
    identifier := "restless"
    description := ⟨"restless", "", "", .lint, .ignore, [], [], []⟩
    severity := .warning
    isOptIn := false
    isCorrectable := true
    violations := [
      ⟨"restless", .warning, 1, 5, 4, 1, some "past the end", some ⟨4, 900, ""⟩⟩,
      ⟨"restless", .warning, 1, 1, 0, 3, some "longer", some ⟨0, 5, "use b"⟩⟩,
      ⟨"restless", .error, 1, 1, 0, 3, some "shorter", some ⟨0, 3, "use"⟩⟩] }

/-- The file that the rule is run on. -/
def shortFile : List Char := "mod a;".toList

/-- Two of the edits of the rule are for one place, and one does not fit the file. -/
theorem correctOnce_eq_correct_contradictsItself :
    ∃ source o, SourceFile.parse SourceFile.snippetPath shortFile = .ok source ∧
      (∀ v ∈ contradictsItself.check source,
        v.rule = contradictsItself.identifier ∧ v.location.file = source.path) ∧
      contradictsItself.EditsInPlace source ∧
      Analyzer.correct ⟨[contradictsItself], [], false⟩ source = .ok o ∧
      correctOnce contradictsItself "" shortFile = .ok o.text := by
  have hparses : (SourceFile.parse SourceFile.snippetPath shortFile).isOk = true := by decide +kernel
  obtain ⟨source, hparsed⟩ := exists_of_isOk hparses
  have hstamps : ∀ v ∈ contradictsItself.check source,
      v.rule = contradictsItself.identifier ∧ v.location.file = source.path := by
    simp [contradictsItself, Scripted.rule, ScriptedViolation.inFile]
  have hplace : contradictsItself.EditsInPlace source := by
    intro correct hcorrect v hv s hs
    cases hcorrect
    simp only [contradictsItself, Scripted.rule, List.map_cons, List.map_nil, List.mem_cons,
      List.not_mem_nil, or_false] at hv
    rcases hv with rfl | rfl | rfl
    · cases hs
      exact ⟨Nat.le_refl 4, show 4 ≤ 900 by decide⟩
    · cases hs
      exact ⟨Nat.le_refl 0, Nat.zero_le 5⟩
    · cases hs
      exact ⟨Nat.le_refl 0, Nat.zero_le 3⟩
  obtain ⟨o, hcorrect, hexample⟩ :=
    correctOnce_eq_correct (a := ⟨[contradictsItself], [], false⟩) rfl rfl hparsed hstamps hplace ""
  exact ⟨source, o, hparsed, hstamps, hplace, hcorrect, hexample⟩

end SourceLint
