import SourceLint.Proofs.Rules.Reports
import SourceLint.Proofs.Rules.Selection
import SourceLint.Proofs.Settings.Severities

/-!
# Severities and names of files

A violation is stamped with the severity of its rule and with the name of the file.  Neither of them is
looked at before the report is shown: with other severities, and under another name, a file has the same
report and the same corrections, up to the stamps.

* **`Violation.restamp`** — the violation with other stamps.
* **`Rule.SameButSeverity.carries`** — what a rule says is what it says with another severity, restamped.
* **`severity_and_path_only_stamp`** — the analyzers of two configurations on one text under two names.
-/

namespace SourceLint

/-- The violation in a file of the given name, and as severe as its rule is said to be. -/
def Violation.restamp (file : String) (severityOf : String → Severity) (v : Violation) : Violation :=
  { v with severity := severityOf v.rule, location := { v.location with file } }

/-- Violations are restamped, and edits are left alone. -/
def Translation.restamp (file : String) (severityOf : String → Severity) : Translation :=
  ⟨Violation.restamp file severityOf, id⟩

/-- A text has one tree. -/
theorem SourceFile.tree_eq_of_text_eq {a b : SourceFile} (h : a.text = b.text) : a.tree = b.tree :=
  Except.ok.inj (a.parsed.symm.trans (h ▸ b.parsed))

/-- The order of the reports on one file does not depend on the name of the file. -/
theorem Violation.notAfter_restamp (file : String) (severityOf : String → Severity) {v w : Violation}
    (h : v.location.file = w.location.file) :
    (v.restamp file severityOf).notAfter (w.restamp file severityOf) = v.notAfter w := by
  have hsame (name : String) : Files.PathName.order name name = .eq :=
    Std.ReflOrd.compare_self (a := Files.PathName.components name)
  rw [notAfter, notAfter, order, order, h, hsame]
  simp only [restamp, hsame]

section SameText

variable {source target : SourceFile} (htext : target.text = source.text)
  (htree : target.tree = source.tree) {severityOf : String → Severity}

include htext in
theorem Translation.keeps_restamp :
    (Translation.restamp target.path severityOf).Keeps (·.location.file = source.path) source target where
  order v w hv hw := Violation.notAfter_restamp target.path severityOf (hv.trans hw.symm)
  allowance v := by rw [htext]; rfl
  anchored s v := rfl
  valid s := by rw [htext]; rfl
  overlaps a b := rfl

include htext in
theorem SourceFile.violation_restamp (rule : String) (severity : Severity) (span : Span) (reason : String) :
    target.violation rule (severityOf rule) span reason =
      (source.violation rule severity span reason).restamp target.path severityOf := by
  simp only [violation, Violation.restamp, location, offset, htext]

include htext htree

/-- What a rule says about a file is what it says with another severity about the file under another name,
up to the stamps. -/
theorem Rule.SameButSeverity.carries {r s : Rule} (h : r.SameButSeverity s)
    (hseverity : s.severity = severityOf s.identifier) :
    r.Carries (.restamp target.path severityOf) (·.location.file = source.path) source target s where
  kind v hv := (h.isBuiltin.covers hv).file
  check := by
    cases h with
    | preferExpect settings severity =>
      obtain rfl : severity = severityOf PreferExpect.identifier := hseverity
      exact PreferExpect.check_map htree settings (SourceFile.violation_restamp htext _ _)
    | testCaseAccessibility settings severity =>
      obtain rfl : severity = severityOf TestCaseAccessibility.identifier := hseverity
      exact TestCaseAccessibility.check_map htree settings (SourceFile.violation_restamp htext _ _)
  proposal v := by
    cases h with
    | preferExpect => rfl
    | testCaseAccessibility =>
      -- the edit is made from the bytes of the violation
      show TestCaseAccessibility.correction? (v.restamp target.path severityOf) target =
        (TestCaseAccessibility.correction? v source).map id
      rw [Option.map_id, TestCaseAccessibility.correction?, TestCaseAccessibility.correction?, htext]
      rfl

end SameText

/-! ### Two configurations -/

section Configurations

variable {c d : Config} (hc : c.InOrder) (hd : d.InOrder) (h : c.SameButSeverities d)

include hc hd h

theorem identifiers_configured_eq :
    (RuleSet.configured builtinRules c).rules.map (·.identifier) =
      (RuleSet.configured builtinRules d).rules.map (·.identifier) := by
  rw [← List.forall₂_eq_eq_eq, List.forall₂_map_left_iff, List.forall₂_map_right_iff]
  exact (forall₂_rules_configured hc hd h).imp fun r s hsame => hsame.identifier_eq

theorem forall₂_carries_configured {source target : SourceFile} (htext : target.text = source.text)
    (htree : target.tree = source.tree) :
    List.Forall₂ (Rule.Carries (.restamp target.path d.severityOf) (·.location.file = source.path) source target)
      (RuleSet.configured builtinRules c).rules (RuleSet.configured builtinRules d).rules := by
  have hsame := forall₂_rules_configured hc hd h
  refine List.forall₂_iff_get.2 ⟨hsame.length_eq, fun i hi hi' => ?_⟩
  exact (hsame.get hi hi').carries htext htree (severity_of_mem_configured hd (List.get_mem _ _))

end Configurations

namespace Analyzer

variable {source target : SourceFile} (htext : target.text = source.text) {severityOf : String → Severity}
  {a b : Analyzer} (hhonors : a.honorsDirectives = b.honorsDirectives)
  (hrules : List.Forall₂ (Rule.Carries (.restamp target.path severityOf) (·.location.file = source.path)
    source target) a.rules b.rules)

include htext hhonors hrules

theorem analyze_restamp : b.analyze target = (a.analyze source).map (·.restamp target.path severityOf) :=
  analyze_carried (Translation.keeps_restamp htext) hhonors hrules

theorem correct_restamp : ∃ o, a.correct source = .ok o ∧
    b.correct target = .ok ⟨o.text, o.applied.map (Prod.map (·.restamp target.path severityOf) id),
      o.uncorrected.map (·.restamp target.path severityOf)⟩ := by
  obtain ⟨o, ho, hspliced, hcarried⟩ := correct_carried (Translation.keeps_restamp htext) hhonors hrules
  refine ⟨o, ho, hcarried.trans ?_⟩
  have hedits : (o.applied.map (·.2)).map (Translation.restamp target.path severityOf).edit =
      o.applied.map (·.2) := List.map_id _
  rw [hedits, htext, ← hspliced]
  rfl

end Analyzer

/-- The rules of the program make an analyzer under every configuration. -/
theorem Registry.exists_analyzer_of_builtin {registry : Registry} (h : builtin = .ok registry)
    (config : Config) : ∃ a, registry.analyzer config = .ok a ∧
      a.rules = (RuleSet.configured builtinRules config).rules ∧ a.honorsDirectives = true := by
  rw [builtin_eq_ok] at h
  cases h
  have hanalyzer := analyzer_eq_ok
    (fun e he => namesRules_of_mem_knownEntries (List.mem_cons_of_mem _ he)) nodup_builtinRules config
  exact ⟨_, hanalyzer, rfl, rfl⟩

/-- What the rules of the program find bears the severity that the configuration gives to the rule, and the
name of the file. -/
theorem stamp_of_mem_findings {c : Config} (hc : c.InOrder) {a : Analyzer}
    (ha : a.rules = (RuleSet.configured builtinRules c).rules) {source : SourceFile} {v : Violation}
    (hv : v ∈ a.findings source) : v.severity = c.severityOf v.rule ∧ v.location.file = source.path := by
  -- with its own stamps, the report is as it is
  have htext : source.text = source.text := rfl
  have hcarries := forall₂_carries_configured hc hc (fun _ => .inl rfl) htext rfl
  rw [← ha] at hcarries
  have hself : (a.analyze source).map id = (a.analyze source).map (·.restamp source.path c.severityOf) :=
    (List.map_id _).trans (Analyzer.analyze_restamp htext rfl hcarries)
  have hv : v = v.restamp source.path c.severityOf :=
    List.map_inj_left.1 hself v ((sortViolations_perm _).mem_iff.2 hv)
  exact ⟨congrArg Violation.severity hv, congrArg (·.location.file) hv⟩

/-- **Severities and names of files only stamp.**  Take a text that can be parsed, two names for it, and two
configurations that differ in the severities of rules alone.  Under both, the rules of the program make an
analyzer, and both analyzers have the same rules.  They report the same on the text, one violation after the
other, except for the severity and the name of the file; a pass makes the same text by the same edits in the
same order, and leaves the same violations uncorrected, except for these two.  Every violation in the report
or in the outcome of the pass is as severe as the configuration says of its rule. -/
theorem severity_and_path_only_stamp {c d : Config} (hc : c.InOrder) (hd : d.InOrder)
    (hsame : c.SameButSeverities d) {registry : Registry} (hregistry : Registry.builtin = .ok registry)
    {path : String} {text : List Char} {source : SourceFile} (hsource : SourceFile.parse path text = .ok source)
    (otherPath : String) :
    ∃ other a b, SourceFile.parse otherPath text = .ok other ∧
      registry.analyzer c = .ok a ∧ registry.analyzer d = .ok b ∧
      a.identifiers = b.identifiers ∧
      b.analyze other = (a.analyze source).map (·.restamp otherPath d.severityOf) ∧
      ∃ o, a.correct source = .ok o ∧
        b.correct other = .ok ⟨o.text, o.applied.map (Prod.map (·.restamp otherPath d.severityOf) id),
          o.uncorrected.map (·.restamp otherPath d.severityOf)⟩ ∧
        ∀ v, v ∈ a.analyze source ∨ v ∈ o.applied.map (·.1) ++ o.uncorrected →
          v.severity = c.severityOf v.rule ∧ v.location.file = path := by
  obtain ⟨rfl, rfl⟩ := SourceFile.parse_eq_ok_iff.1 hsource
  obtain ⟨other, hother⟩ : ∃ other, SourceFile.parse otherPath source.text = .ok other :=
    ⟨⟨otherPath, source.text, source.tree, source.parsed⟩, SourceFile.parse_eq_ok_iff.2 ⟨rfl, rfl⟩⟩
  obtain ⟨rfl, htext⟩ := SourceFile.parse_eq_ok_iff.1 hother
  have htree : other.tree = source.tree := SourceFile.tree_eq_of_text_eq htext
  obtain ⟨a, ha, harules, hahonors⟩ := Registry.exists_analyzer_of_builtin hregistry c
  obtain ⟨b, hb, hbrules, hbhonors⟩ := Registry.exists_analyzer_of_builtin hregistry d
  have hhonors : a.honorsDirectives = b.honorsDirectives := hahonors.trans hbhonors.symm
  have hcarries := forall₂_carries_configured hc hd hsame htext htree
  have hidentifiers := identifiers_configured_eq hc hd hsame
  rw [← harules, ← hbrules] at hcarries hidentifiers
  obtain ⟨o, ho, hcorrected⟩ := Analyzer.correct_restamp htext hhonors hcarries
  refine ⟨other, a, b, hother, ha, hb, hidentifiers, Analyzer.analyze_restamp htext hhonors hcarries, o, ho,
    hcorrected, ?_⟩
  rintro v (hreported | houtcome)
  · exact stamp_of_mem_findings hc harules ((sortViolations_perm _).mem_iff.1 hreported)
  · exact stamp_of_mem_findings hc harules (Analyzer.mem_findings_of_correct ho houtcome)

/-- Both rules of the program are enabled, with the given severities. -/
def Config.withSeverities (preferExpect testCaseAccessibility : String) : Config :=
  { Config.standard with rules := [(PreferExpect.identifier, enabledWith preferExpect)] ++
      [(TestCaseAccessibility.identifier, enabledWith testCaseAccessibility)] }
where
  /-- The table that enables a rule and gives it a severity. -/
  enabledWith (severity : String) : Toml.Table :=
    [(RuleSettings.enabledKey, .scalar (.boolean true)), (RuleSettings.severityKey, .scalar (.string severity))]

theorem Config.inOrder_withSeverities (x y : String) : (withSeverities x y).InOrder := by
  constructor
  · change [PreferExpect.identifier, TestCaseAccessibility.identifier].Pairwise (· < ·)
    decide
  · intro entry hentry
    have hkeys : entry.2.map (·.1) = [RuleSettings.enabledKey, RuleSettings.severityKey] := by
      rcases List.mem_append.1 hentry with h | h
      · obtain rfl := List.mem_singleton.1 h
        rfl
      · obtain rfl := List.mem_singleton.1 h
        rfl
    rw [hkeys]
    decide

/-- A test case of which two members are not private, with the severities of both rules exchanged. -/
theorem severity_and_path_only_stamp_loginTests :
    let c := Config.withSeverities "warning" "error"
    let d := Config.withSeverities "error" "warning"
    c.InOrder ∧ d.InOrder ∧ c.SameButSeverities d ∧
      c.severityOf TestCaseAccessibility.identifier = .error ∧
      d.severityOf TestCaseAccessibility.identifier = .warning ∧
      ∃ registry source other a b, Registry.builtin = .ok registry ∧
        SourceFile.parse "src/login.rs" TestCaseAccessibility.loginTests = .ok source ∧
        SourceFile.parse "tests/login.rs" TestCaseAccessibility.loginTests = .ok other ∧
        registry.analyzer c = .ok a ∧ registry.analyzer d = .ok b ∧
        a.identifiers = [PreferExpect.identifier, TestCaseAccessibility.identifier] ∧
        b.analyze other = (a.analyze source).map (·.restamp "tests/login.rs" d.severityOf) := by
  intro c d
  have hc : c.InOrder := Config.inOrder_withSeverities _ _
  have hd : d.InOrder := Config.inOrder_withSeverities _ _
  have hnames : ∀ name ∈ ["warning", "error"],
      RuleSettings.NamesSeverity (Config.withSeverities.enabledWith name) := by
    intro name hname value hvalue
    cases hvalue
    revert name
    decide
  have hsame : c.SameButSeverities d := by
    intro rule
    by_cases hfirst : rule = PreferExpect.identifier
    · subst hfirst
      exact .inr ⟨hnames _ (by simp), hnames _ (by simp), rfl⟩
    by_cases hsecond : rule = TestCaseAccessibility.identifier
    · subst hsecond
      exact .inr ⟨hnames _ (by simp), hnames _ (by simp), rfl⟩
    · have hnone (x y : String) : (Config.withSeverities x y).rules.lookup rule = none :=
        List.lookup_eq_none_iff.2 (by simp [Config.withSeverities, hfirst, hsecond])
      exact .inl (by rw [Config.table, Config.table, hnone, hnone])
  obtain ⟨source, htext, -⟩ := TestCaseAccessibility.exists_loginTests
  have hsource : SourceFile.parse "src/login.rs" TestCaseAccessibility.loginTests =
      .ok { source with path := "src/login.rs" } :=
    SourceFile.parse_eq_ok_iff.2 ⟨rfl, htext⟩
  obtain ⟨other, a, b, hother, ha, hb, -, hanalyze, -⟩ :=
    severity_and_path_only_stamp hc hd hsame Registry.builtin_eq_ok hsource "tests/login.rs"
  have hidentifiers : a.identifiers = [PreferExpect.identifier, TestCaseAccessibility.identifier] := by
    obtain ⟨a', ha', hrules, -⟩ := Registry.exists_analyzer_of_builtin Registry.builtin_eq_ok c
    obtain rfl := Except.ok.inj (ha.symm.trans ha')
    rw [Analyzer.identifiers, hrules]
    decide
  exact ⟨hc, hd, hsame, by decide, by decide, _, _, other, a, b, Registry.builtin_eq_ok, hsource, hother, ha, hb,
    hidentifiers, hanalyze⟩

end SourceLint
