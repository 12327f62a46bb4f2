import Mathlib.Data.List.Perm.Subperm
import SourceLint.Proofs.Analysis.Correction
import SourceLint.Proofs.Report.Stability
import SourceLint.Rules.Scripted

/-!
# Rules are independent

The report of some rules is the part of a larger report that is theirs, whatever the other rules report
and in whatever order the rules were registered.  Their edits are applied in the order of registration, so
rules that are added behind them take none away.

* **`Analyzer.nodup_identifiers_of_build`** — the rules of an analyzer that was built have different
  names.
* **`Analyzer.filter_ties_findings`** — all violations that tie with a given one were reported by one
  rule.
* **`analyze_eq_filter`** — two analyzers, of which one has some of the rules of the other.
* **`correct_keeps_earlier_edits`** — two analyzers, of which one has further rules behind those of the
  other.
-/

namespace SourceLint

open scoped List

/-! ### Names that occur twice -/

theorem laterCopies_eq_nil_iff {seen texts : List String} :
    laterCopies seen texts = [] ↔ texts.Nodup ∧ ∀ t ∈ texts, t ∉ seen := by
  induction texts generalizing seen with
  | nil => simp [laterCopies]
  | cons t ts ih =>
    rw [laterCopies, List.nodup_cons, List.forall_mem_cons]
    by_cases ht : t ∈ seen
    · simp [ht]
    · have hc : seen.contains t = false := by simpa using ht
      rw [hc, if_neg Bool.false_ne_true, ih]
      constructor
      · rintro ⟨hnodup, hseen⟩
        refine ⟨⟨fun hmem => hseen t hmem List.mem_cons_self, hnodup⟩, ht, fun u hu hus => ?_⟩
        exact hseen u hu (List.mem_cons_of_mem t hus)
      · rintro ⟨⟨hnew, hnodup⟩, _, hseen⟩
        refine ⟨hnodup, fun u hu hus => ?_⟩
        rcases List.mem_cons.1 hus with rfl | hus
        · exact hnew hu
        · exact hseen u hu hus

theorem sortedSet_eq_nil_iff {texts : List String} : sortedSet texts = [] ↔ texts = [] := by
  have hperm : (texts.mergeSort fun a b => a ≤ b).Perm texts := List.mergeSort_perm texts _
  rw [sortedSet]
  constructor
  · intro h
    cases hsort : texts.mergeSort fun a b => a ≤ b with
    | nil => exact List.perm_nil.1 (hsort ▸ hperm).symm
    | cons t ts =>
      rw [hsort, List.eraseDups_cons] at h
      cases h
  · rintro rfl
    rw [List.mergeSort_nil, List.eraseDups_nil]

/-- No text occurs twice. -/
theorem duplicates_eq_nil_iff {texts : List String} : duplicates texts = [] ↔ texts.Nodup := by
  rw [duplicates, sortedSet_eq_nil_iff, laterCopies_eq_nil_iff]
  simp

namespace Analyzer

/-! ### Analyzers that were built -/

/-- Building keeps the rules and their order, and the setting. -/
theorem of_build {set : RuleSet} {honors : Bool} {a : Analyzer} (h : build set honors = .ok a) :
    a = ⟨set.rules, set.settingsErrors, honors⟩ ∧ defect? set.rules = none := by
  rw [build] at h
  split at h
  · cases h
  · rename_i hnone
    cases h
    exact ⟨rfl, hnone⟩

/-- Nothing is wrong with rules that go by the names of their descriptions, where the names have the right
form and are different. -/
theorem defect?_eq_none_iff {rules : List Rule} :
    defect? rules = none ↔
      (∀ r ∈ rules, r.identifier = r.description.identifier) ∧
        (∀ r ∈ rules, isValidIdentifier r.identifier = true) ∧ (rules.map (·.identifier)).Nodup := by
  have hnames : rules.find? (fun r => r.identifier != r.description.identifier) = none ↔
      ∀ r ∈ rules, r.identifier = r.description.identifier := by
    simp [List.find?_eq_none]
  have hforms : (rules.map (·.identifier)).find? (fun n => !isValidIdentifier n) = none ↔
      ∀ r ∈ rules, isValidIdentifier r.identifier = true := by
    simp [List.find?_eq_none]
  rw [← hnames, ← hforms, defect?]
  split
  · rename_i hfound
    simp [hfound]
  · rename_i hnone
    dsimp only
    split
    · rename_i hfound
      simp [hfound]
    · rename_i hvalid
      rw [Option.map_eq_none_iff, List.head?_eq_none_iff, duplicates_eq_nil_iff]
      exact ⟨fun h => ⟨hnone, hvalid, h⟩, fun h => h.2.2⟩

theorem nodup_identifiers_of_build {set : RuleSet} {honors : Bool} {a : Analyzer}
    (h : build set honors = .ok a) : a.identifiers.Nodup := by
  obtain ⟨rfl, hnone⟩ := of_build h
  exact (defect?_eq_none_iff.1 hnone).2.2

/-! ### What one rule contributes -/

theorem mem_runRule {a : Analyzer} {source : SourceFile} {r : Rule} {v : Violation} :
    v ∈ a.runRule source r ↔ v ∈ r.check source ∧ a.counts source v = true := by
  rw [runRule, (sortViolations_perm _).mem_iff, List.mem_filter]

/-- The rule reports under its own name. -/
def Stamps (source : SourceFile) (r : Rule) : Prop :=
  ∀ v ∈ r.check source, v.rule = r.identifier ∧ v.location.file = source.path

/-- A rule of another name reports nothing that ties with a violation. -/
theorem filter_ties_runRule_of_ne {a : Analyzer} {source : SourceFile} {r : Rule}
    (hr : Stamps source r) {x : Violation} (hx : r.identifier ≠ x.rule) :
    (a.runRule source r).filter (·.ties x) = [] := by
  refine List.filter_eq_nil_iff.2 fun v hv htie => hx ?_
  have hrule : v.rule = r.identifier := (hr v (mem_runRule.1 hv).1).1
  rw [← hrule]
  exact (Violation.ties_iff.1 htie).2.2

/-- **Ties have one author.**  Of the violations of all rules, those that tie with a given one are those
that the rule of its name reports. -/
theorem filter_ties_findings {a : Analyzer} {source : SourceFile} {r : Rule} {x : Violation}
    (hstamps : ∀ s ∈ a.rules, Stamps source s) (hnodup : a.identifiers.Nodup) (hr : r ∈ a.rules)
    (hx : r.identifier = x.rule) :
    (a.findings source).filter (·.ties x) = (a.runRule source r).filter (·.ties x) := by
  obtain ⟨before, after, hrules⟩ := List.append_of_mem hr
  rw [identifiers, hrules, List.map_append, List.map_cons, List.nodup_append, List.nodup_cons]
    at hnodup
  obtain ⟨-, ⟨hafter, -⟩, hbefore⟩ := hnodup
  rw [findings, hrules, List.flatMap_append, List.flatMap_cons, List.filter_append,
    List.filter_append]
  have hnone : ∀ others : List Rule, (∀ s ∈ others, s ∈ a.rules ∧ s.identifier ≠ r.identifier) →
      (others.flatMap (a.runRule source)).filter (·.ties x) = [] := by
    intro others hothers
    rw [List.filter_flatMap, List.flatMap_eq_nil_iff]
    intro s hs
    obtain ⟨hmem, hne⟩ := hothers s hs
    exact filter_ties_runRule_of_ne (hstamps s hmem) (hx ▸ hne)
  rw [hnone before, hnone after, List.nil_append, List.append_nil]
  · intro s hs
    refine ⟨by rw [hrules]; simp [hs], fun heq => hafter ?_⟩
    exact List.mem_map.2 ⟨s, hs, heq⟩
  · intro s hs
    refine ⟨by rw [hrules]; simp [hs], ?_⟩
    exact hbefore s.identifier (List.mem_map.2 ⟨s, hs, rfl⟩) r.identifier List.mem_cons_self

/-- Where no rule has the name of a violation, nothing ties with it. -/
theorem filter_ties_findings_of_notMem {a : Analyzer} {source : SourceFile} {x : Violation}
    (hstamps : ∀ s ∈ a.rules, Stamps source s) (hx : x.rule ∉ a.identifiers) :
    (a.findings source).filter (·.ties x) = [] := by
  rw [findings, List.filter_flatMap, List.flatMap_eq_nil_iff]
  intro s hs
  refine filter_ties_runRule_of_ne (hstamps s hs) fun heq => hx ?_
  exact List.mem_map.2 ⟨s, hs, heq⟩

theorem filter_ties_analyze (a : Analyzer) (source : SourceFile) (x : Violation) :
    (a.analyze source).filter (·.ties x) = (a.findings source).filter (·.ties x) :=
  filter_ties_sortViolations x _

end Analyzer

/-! ### Two analyzers -/

/-- **Rules do not influence each other's reports.**  Of two analyzers that were built with the same
setting for directives, let the second have some of the rules of the first, in any order.  If every rule
reports under its own name in the file at hand, the report of the second is the report of the first
without the violations of the missing rules, in the same order. -/
theorem analyze_eq_filter {setA setB : RuleSet} {honors : Bool} {a b : Analyzer}
    (ha : Analyzer.build setA honors = .ok a) (hb : Analyzer.build setB honors = .ok b)
    (hrules : b.rules <+~ a.rules) (source : SourceFile)
    (hstamps : ∀ r ∈ a.rules, ∀ v ∈ r.check source,
      v.rule = r.identifier ∧ v.location.file = source.path) :
    b.analyze source =
      (a.analyze source).filter fun v => b.identifiers.contains v.rule := by
  have hnodupA := Analyzer.nodup_identifiers_of_build ha
  have hnodupB := Analyzer.nodup_identifiers_of_build hb
  have hstampsB : ∀ r ∈ b.rules, Analyzer.Stamps source r :=
    fun r hr => hstamps r (hrules.subset hr)
  have hsame : b.runRule source = a.runRule source := by
    obtain ⟨rfl, -⟩ := Analyzer.of_build ha
    obtain ⟨rfl, -⟩ := Analyzer.of_build hb
    rfl
  refine eq_of_filter_ties_eq (pairwise_sortViolations _) ((pairwise_sortViolations _).filter _)
    fun x => ?_
  -- what ties with `x` has its name, so the restriction to names keeps all of it or none
  have hrestrict : ((a.analyze source).filter fun v => b.identifiers.contains v.rule).filter
      (·.ties x) = if b.identifiers.contains x.rule then (a.findings source).filter (·.ties x)
        else [] := by
    rw [← Analyzer.filter_ties_analyze, List.filter_filter]
    split
    · rename_i hx
      refine List.filter_congr fun v _ => ?_
      cases htie : v.ties x with
      | false => rfl
      | true => rw [(Violation.ties_iff.1 htie).2.2, hx]; rfl
    · rename_i hx
      refine List.filter_eq_nil_iff.2 fun v _ hv => hx ?_
      rw [Bool.and_eq_true] at hv
      rw [← (Violation.ties_iff.1 hv.1).2.2]
      exact hv.2
  rw [hrestrict, Analyzer.filter_ties_analyze]
  by_cases hx : x.rule ∈ b.identifiers
  · obtain ⟨r, hr, hname⟩ := List.mem_map.1 hx
    rw [if_pos (by simpa using hx), Analyzer.filter_ties_findings hstampsB hnodupB hr hname,
      Analyzer.filter_ties_findings hstamps hnodupA (hrules.subset hr) hname, hsame]
  · rw [if_neg (by simpa using hx), Analyzer.filter_ties_findings_of_notMem hstampsB hx]

/-- A rule that reports twice at the beginning of every file, each time with a reason of its own. -/
def reportsTwice (identifier : String) : Rule :=
  Scripted.rule {
    identifier
    description := ⟨identifier, "", "", .lint, .ignore, [], [], []⟩
    severity := .warning
    isOptIn := false
    isCorrectable := false
    violations := [⟨identifier, .warning, 1, 1, 0, 0, some "second", none⟩,
      ⟨identifier, .error, 1, 1, 0, 0, some "first", none⟩] }

/-- Three rules, not in the order of their names. -/
def threeReporters : RuleSet :=
  ⟨[reportsTwice "b", reportsTwice "a", reportsTwice "c"], []⟩

/-- Two of the three rules, in the other order. -/
def twoReporters : RuleSet :=
  ⟨[reportsTwice "c", reportsTwice "b"], []⟩

/-- A file without a text. -/
def emptyFile : SourceFile :=
  ⟨"a.rs", [], Syntax.wholeText .file [], rfl⟩

/-- Three rules report six violations at one place; two of the rules are kept, in the other order. -/
theorem analyze_eq_filter_reportsTwice :
    twoReporters.rules <+~ threeReporters.rules ∧
      (∀ r ∈ threeReporters.rules, ∀ v ∈ r.check emptyFile,
        v.rule = r.identifier ∧ v.location.file = emptyFile.path) ∧
      Analyzer.analyze ⟨twoReporters.rules, [], true⟩ emptyFile =
        (Analyzer.analyze ⟨threeReporters.rules, [], true⟩ emptyFile).filter fun v =>
          ["c", "b"].contains v.rule := by
  have hthree : Analyzer.build threeReporters true = .ok ⟨threeReporters.rules, [], true⟩ := by
    have h : Analyzer.defect? threeReporters.rules = none := by decide +kernel
    rw [Analyzer.build, h]
    rfl
  have htwo : Analyzer.build twoReporters true = .ok ⟨twoReporters.rules, [], true⟩ := by
    have h : Analyzer.defect? twoReporters.rules = none := by decide +kernel
    rw [Analyzer.build, h]
    rfl
  have hrules : twoReporters.rules <+~ threeReporters.rules := by
    refine ⟨[reportsTwice "b", reportsTwice "c"], List.Perm.swap _ _ _, ?_⟩
    exact (List.sublist_cons_self _ _).cons_cons _
  have hstamps : ∀ r ∈ threeReporters.rules, ∀ v ∈ r.check emptyFile,
      v.rule = r.identifier ∧ v.location.file = emptyFile.path := by
    decide +kernel
  exact ⟨hrules, hstamps, analyze_eq_filter hthree htwo hrules emptyFile hstamps⟩

/-! ### Rules that come later -/

namespace Analyzer

variable {a b : Analyzer}

/-- What a rule contributes depends on the analyzer only by its setting for directives. -/
theorem runRule_eq_of_honorsDirectives_eq (h : a.honorsDirectives = b.honorsDirectives)
    (source : SourceFile) : a.runRule source = b.runRule source := by
  have hcounts : a.counts source = b.counts source := by
    funext v
    rw [counts, counts, h]
  funext r
  rw [runRule, runRule, hcounts]

theorem siftRule_eq_of_honorsDirectives_eq (h : a.honorsDirectives = b.honorsDirectives)
    (source : SourceFile) : a.siftRule source = b.siftRule source := by
  funext r
  rw [siftRule, siftRule, runRule_eq_of_honorsDirectives_eq h]

/-- The candidates and the leftovers of further rules come behind those of the first rules. -/
theorem candidates_leftovers_prefix (hrules : a.rules <+: b.rules)
    (hhonors : a.honorsDirectives = b.honorsDirectives) (source : SourceFile) :
    a.candidates source <+: b.candidates source ∧ a.leftovers source <+: b.leftovers source := by
  obtain ⟨later, hlater⟩ := hrules
  have hsift := siftRule_eq_of_honorsDirectives_eq hhonors source
  rw [candidates, candidates, leftovers, leftovers, hsift, ← hlater, List.flatMap_append,
    List.flatMap_append]
  exact ⟨List.prefix_append _ _, List.prefix_append _ _⟩

end Analyzer

/-- **Later rules take no edit from earlier ones.**  Let one analyzer have the rules of another and
further rules behind them, and the same setting for directives.  Whatever any of the rules propose, the
edits that it applies begin with those of the other, and each violation that the other leaves is left at
least as often. -/
theorem correct_keeps_earlier_edits {a b : Analyzer} (hrules : a.rules <+: b.rules)
    (hhonors : a.honorsDirectives = b.honorsDirectives) (source : SourceFile) :
    ∃ o p, a.correct source = .ok o ∧ b.correct source = .ok p ∧
      o.applied <+: p.applied ∧ ∀ v, o.uncorrected.count v ≤ p.uncorrected.count v := by
  obtain ⟨⟨candidates, hcandidates⟩, ⟨leftovers, hleftovers⟩⟩ :=
    Analyzer.candidates_leftovers_prefix hrules hhonors source
  refine ⟨_, _, a.correct_eq_ok source, b.correct_eq_ok source, ?_, fun v => ?_⟩
  · rw [← hcandidates, acceptNonOverlapping, acceptNonOverlapping, acceptAfter_append]
    exact List.prefix_append _ _
  · rw [(sortViolations_perm _).count_eq, (sortViolations_perm _).count_eq, ← hcandidates,
      ← hleftovers, acceptNonOverlapping, acceptNonOverlapping, acceptAfter_append,
      List.count_append, List.count_append, List.count_append, List.count_append]
    omega

/-- A rule that reports the beginning of every file and inserts a text there. -/
def insertsFirst (identifier text : String) : Rule :=
  Scripted.rule {
    identifier
    description := ⟨identifier, "", "", .lint, .ignore, [], [], []⟩
    severity := .warning
    isOptIn := false
    isCorrectable := true
    violations := [⟨identifier, .warning, 1, 1, 0, 0, none, some (.insertion 0 text)⟩] }

/-- Two rules want to insert a text at one place; the first one does, with the other rule or without. -/
theorem correct_keeps_earlier_edits_insertsFirst :
    [insertsFirst "b" "1"] <+: [insertsFirst "b" "1", insertsFirst "a" "2"] ∧
      ∃ o p, Analyzer.correct ⟨[insertsFirst "b" "1"], [], true⟩ emptyFile = .ok o ∧
        Analyzer.correct ⟨[insertsFirst "b" "1", insertsFirst "a" "2"], [], true⟩ emptyFile = .ok p ∧
        o.applied <+: p.applied ∧ ∀ v, o.uncorrected.count v ≤ p.uncorrected.count v := by
  have hrules : [insertsFirst "b" "1"] <+: [insertsFirst "b" "1", insertsFirst "a" "2"] :=
    List.prefix_append [insertsFirst "b" "1"] [insertsFirst "a" "2"]
  refine ⟨hrules, ?_⟩
  exact correct_keeps_earlier_edits (a := ⟨_, [], true⟩) (b := ⟨_, [], true⟩) hrules rfl emptyFile

end SourceLint
