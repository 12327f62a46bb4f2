import SourceLint.Command.Check
import SourceLint.Proofs.Rules.Selection

/-!
# Checks with named rules

A check can be restricted to rules that are named.  These run if the configuration can be used for them,
whatever it says about their being enabled, and no other rule runs.

* **`Config.otherSettings`** — what a configuration says about a rule, apart from its being enabled.
* **`RuleEntry.understands`** — a rule can be built from that.
* **`Config.lookup_foldl_enable`** — what enabling some rules changes.
* **`RuleSettings.ofTable_putKey_enabled`** — settings of a rule that is enabled.
* **`checkAnalyzer_runs_named_rules`** — the analyzer of a check with named rules.
-/

namespace SourceLint

open SourceLint.Toml

/-! ### Enabling rules -/

namespace Config

/-- What the configuration says about a rule, apart from its being enabled. -/
def otherSettings (c : Config) (rule : String) : Table :=
  ((c.rules.lookup rule).getD []).filter fun entry => entry.1 ≠ RuleSettings.enabledKey

/-- The table of a rule with the rule enabled. -/
def enabledTable (c : Config) (rule : String) : Table :=
  putKey RuleSettings.enabledKey (.scalar (.boolean true)) ((c.rules.lookup rule).getD [])

theorem lookup_enable (c : Config) (rule name : String) :
    (c.enable rule).rules.lookup name =
      if name = rule then some (c.enabledTable rule) else c.rules.lookup name := by
  rw [enable, insertTable_eq_putKey, lookup_putKey, enabledTable, Table.insert_eq_putKey]

/-- Enabling a rule once more changes nothing for it. -/
theorem enabledTable_enable (c : Config) (rule name : String) :
    (c.enable rule).enabledTable name = c.enabledTable name := by
  rw [enabledTable, lookup_enable]
  by_cases h : name = rule
  · rw [if_pos h, h, Option.getD_some]
    exact putKey_putKey
  · rw [if_neg h]
    rfl

/-- **Enabling some rules changes the tables of these rules only**, and each of them in one key. -/
theorem lookup_foldl_enable (names : List String) (c : Config) (name : String) :
    (names.foldl enable c).rules.lookup name =
      if name ∈ names then some (c.enabledTable name) else c.rules.lookup name := by
  induction names generalizing c with
  | nil => rfl
  | cons rule rest ih =>
    rw [List.foldl_cons, ih, enabledTable_enable, lookup_enable]
    by_cases hrest : name ∈ rest
    · rw [if_pos hrest, if_pos (List.mem_cons_of_mem rule hrest)]
    · rw [if_neg hrest]
      by_cases hrule : name = rule
      · rw [if_pos hrule, if_pos (hrule ▸ List.mem_cons_self), hrule]
      · rw [if_neg hrule, if_neg (by simp [hrule, hrest])]

end Config

/-! ### Settings of rules that are enabled -/

namespace RuleSettings

theorem addKey_withEnabled (s : RuleSettings) (b : Bool) {key : String} (hkey : key ≠ enabledKey)
    (value : Value) : (s.withEnabled b).addKey key value = (·.withEnabled b) <$> s.addKey key value := by
  rw [addKey, addKey, if_neg hkey, if_neg hkey]
  by_cases hseverity : key = severityKey
  · rw [if_pos hseverity, if_pos hseverity]
    show (readSeverity s.rule value >>= fun v => _) = _ <$> (readSeverity s.rule value >>= fun v => _)
    cases readSeverity s.rule value with
    | error err => rfl
    | ok v => rfl
  · rw [if_neg hseverity, if_neg hseverity]
    rfl

/-- Other keys are read in the same way whether the rule is enabled or not. -/
theorem addKeys_withEnabled (s : RuleSettings) (b : Bool) {entries : List (String × Value)}
    (hentries : ∀ entry ∈ entries, entry.1 ≠ enabledKey) :
    (s.withEnabled b).addKeys entries = (·.withEnabled b) <$> s.addKeys entries :=
  addKeys_map (fun entry hentry t => addKey_withEnabled t b (hentries entry hentry) entry.2) s

/-- The table of a rule that is enabled makes the settings of the other keys, with the rule enabled: what
was there for this key is gone. -/
theorem ofTable_putKey_enabled (rule : String) {table : Table}
    (htable : (table.map (·.1)).Pairwise (· < ·)) :
    ofTable rule (putKey enabledKey (.scalar (.boolean true)) table) =
      (·.withEnabled true) <$> ofTable rule (table.filter fun entry => entry.1 ≠ enabledKey) := by
  obtain ⟨before, after, hput, hother⟩ := putKey_eq_append htable
  have hafter : ∀ entry ∈ after, entry.1 ≠ enabledKey := by
    intro entry hentry
    have hmem : entry ∈ table.filter fun entry => entry.1 ≠ enabledKey :=
      hother ▸ List.mem_append_right before hentry
    simpa using (List.mem_filter.1 hmem).2
  -- The two tables are the same up to the key, and behind it one reading goes on with the rule enabled.
  rw [hput, hother, ofTable, ofTable, addKeys_append, addKeys_append]
  cases (empty rule).addKeys before with
  | error err => rfl
  | ok t => exact addKeys_withEnabled t true hafter

end RuleSettings

/-! ### Rules that are named -/

/-- A rule can be built from the severity and the options that the configuration has for it. -/
def RuleEntry.understands (e : RuleEntry) (c : Config) : Bool :=
  (RuleSettings.ofTable e.identifier (c.otherSettings e.identifier) >>= e.build).isOk

/-- Rules of the program do not ask whether they are enabled. -/
theorem build_withEnabled {e : RuleEntry} (he : e ∈ builtinRules) (s : RuleSettings) (b : Bool) :
    e.build (s.withEnabled b) = e.build s := by
  simp only [builtinRules, List.mem_cons, List.not_mem_nil, or_false] at he
  rcases he with rfl | rfl
  · rfl
  · rfl

/-- A rule that is named runs exactly if the configuration can be used for it. -/
theorem isEmpty_ofEntry_foldl_enable {config : Config} (hconfig : config.InOrder) {e : RuleEntry}
    (he : e ∈ builtinRules) {names : List String} (hnamed : e.identifier ∈ names) :
    (!(RuleSet.ofEntry (names.foldl Config.enable config) e).rules.isEmpty) = e.understands config := by
  have hsettings : (names.foldl Config.enable config).ruleSettings e.identifier =
      (·.withEnabled true) <$>
        RuleSettings.ofTable e.identifier (config.otherSettings e.identifier) := by
    rw [Config.ruleSettings, Config.lookup_foldl_enable, if_pos hnamed]
    exact RuleSettings.ofTable_putKey_enabled e.identifier (hconfig.pairwise_lookup e.identifier)
  rw [RuleSet.ofEntry, hsettings, RuleEntry.understands]
  cases RuleSettings.ofTable e.identifier (config.otherSettings e.identifier) with
  | error err => rfl
  | ok s =>
    show (!(if (s.withEnabled true).isEnabled e.isOptIn then _ else RuleSet.empty).rules.isEmpty) =
      (e.build s).isOk
    have henabled : (s.withEnabled true).isEnabled e.isOptIn = true := rfl
    rw [if_pos henabled, build_withEnabled he]
    cases e.build s with
    | error err => rfl
    | ok r => rfl

/-- A check with named rules restricts the rules of the program, and asks what is left for an analyzer. -/
theorem checkAnalyzer_eq_ok {config enabled : Config} {list : String} {selected : Registry} {a : Analyzer}
    (hrestrict : restrict ⟨builtinRules⟩ config (ruleNames list) = .ok (selected, enabled))
    (ha : selected.analyzer enabled = .ok a) : checkAnalyzer config (some list) = .ok a := by
  rw [checkAnalyzer, Registry.builtin_eq_ok]
  show ((restrict ⟨builtinRules⟩ config (ruleNames list)).mapError CommandError.registry >>= fun p =>
    (p.1.analyzer p.2).mapError CommandError.analyzer) = _
  rw [hrestrict]
  show (selected.analyzer enabled).mapError CommandError.analyzer = _
  rw [ha]
  rfl

/-- The analyzer of a check with named rules, which exist. -/
theorem exists_checkAnalyzer {config : Config} (hconfig : config.InOrder) {list : String}
    (hnames : ∀ n ∈ ruleNames list, n ∈ builtinRules.map RuleEntry.identifier) :
    ∃ selected a, restrict ⟨builtinRules⟩ config (ruleNames list) =
        .ok (selected, (ruleNames list).foldl Config.enable config) ∧
      selected.analyzer ((ruleNames list).foldl Config.enable config) = .ok a ∧
      checkAnalyzer config (some list) = .ok a ∧
      a.identifiers = (builtinRules.filter fun e =>
        (ruleNames list).contains e.identifier && e.understands config).map RuleEntry.identifier := by
  set selected : Registry :=
    ⟨builtinRules.filter fun e => (ruleNames list).contains e.identifier⟩ with hselected
  have hselect : Registry.select ⟨builtinRules⟩ (ruleNames list) = .ok selected :=
    Registry.select_eq_ok_iff.2 ⟨hnames, rfl⟩
  have hsub : ∀ e ∈ selected.entries, e ∈ builtinRules := fun e he => (List.mem_filter.1 he).1
  have hentries : ∀ e ∈ selected.entries, e.NamesRules := fun e he =>
    namesRules_of_mem_knownEntries (List.mem_cons_of_mem _ (hsub e he))
  have hrestrict : restrict ⟨builtinRules⟩ config (ruleNames list) =
      .ok (selected, (ruleNames list).foldl Config.enable config) := by
    rw [restrict, hselect]
    rfl
  have ha := Registry.analyzer_eq_ok hentries
    (Registry.nodup_builtinRules.sublist (List.filter_sublist.map RuleEntry.identifier))
    ((ruleNames list).foldl Config.enable config)
  refine ⟨selected, _, hrestrict, ha, checkAnalyzer_eq_ok hrestrict ha, ?_⟩
  show (RuleSet.configured selected.entries _).rules.map (·.identifier) = _
  rw [RuleSet.identifiers_configured hentries, hselected, List.filter_filter]
  refine congrArg (List.map RuleEntry.identifier) (List.filter_congr fun e he => ?_)
  by_cases hnamed : e.identifier ∈ ruleNames list
  · rw [isEmpty_ofEntry_foldl_enable hconfig he hnamed, Bool.and_comm]
  · have hnot : (ruleNames list).contains e.identifier = false := by simpa using hnamed
    rw [hnot, Bool.and_false, Bool.false_and]

/-- **Naming rules runs exactly these rules.**  Let a configuration be in order, as all that are loaded are,
and let all names in a list be those of rules of the program.  Then there is an analyzer for the check, and
its rules are those that are named and can be built from the severity and the options that the configuration
has for them, in the order of registration and each once.  So the rules are the same for any other
configuration that has the same severities and options, whether it enables rules or not, and for any other
list with the same names.  The tables of rules that are not named are left as they were. -/
theorem checkAnalyzer_runs_named_rules {config : Config} (hconfig : config.InOrder) {list : String}
    (hnames : ∀ n ∈ ruleNames list, n ∈ builtinRules.map RuleEntry.identifier) :
    ∃ a, checkAnalyzer config (some list) = .ok a ∧
      a.identifiers = (builtinRules.filter fun e =>
        (ruleNames list).contains e.identifier && e.understands config).map RuleEntry.identifier ∧
      a.identifiers.Nodup ∧
      (∀ (otherConfig : Config) (otherList : String), otherConfig.InOrder →
        (∀ rule, otherConfig.otherSettings rule = config.otherSettings rule) →
        (∀ n, n ∈ ruleNames otherList ↔ n ∈ ruleNames list) →
        ∃ b, checkAnalyzer otherConfig (some otherList) = .ok b ∧ b.identifiers = a.identifiers) ∧
      ∃ selected enabled, restrict ⟨builtinRules⟩ config (ruleNames list) = .ok (selected, enabled) ∧
        selected.analyzer enabled = .ok a ∧
        ∀ rule, rule ∉ ruleNames list → enabled.rules.lookup rule = config.rules.lookup rule := by
  obtain ⟨selected, a, hrestrict, hselected, ha, hidentifiers⟩ := exists_checkAnalyzer hconfig hnames
  refine ⟨a, ha, hidentifiers, Analyzer.nodup_identifiers_of_build hselected, ?_, ?_⟩
  · intro otherConfig otherList hother hsettings hsame
    obtain ⟨-, b, -, -, hb, hothers⟩ :=
      exists_checkAnalyzer hother fun n hn => hnames n ((hsame n).1 hn)
    refine ⟨b, hb, ?_⟩
    rw [hothers, hidentifiers]
    refine congrArg (List.map RuleEntry.identifier) (List.filter_congr fun e _ => ?_)
    have hunderstands : e.understands otherConfig = e.understands config := by
      rw [RuleEntry.understands, RuleEntry.understands, hsettings]
    have hcontains : (ruleNames otherList).contains e.identifier =
        (ruleNames list).contains e.identifier := by
      rw [Bool.eq_iff_iff, List.contains_iff_mem, List.contains_iff_mem, hsame]
    rw [hunderstands, hcontains]
  · refine ⟨selected, _, hrestrict, hselected, fun rule hrule => ?_⟩
    rw [Config.lookup_foldl_enable, if_neg hrule]

/-- A configuration that says of one rule that it is enabled by a text, and has an option for another rule
that this does not know. -/
def Config.withMistakes : Config :=
  { Config.standard with rules := [
      (PreferExpect.identifier,
        [("enabled", .scalar (.string "no")), ("severity", .scalar (.string "error"))]),
      (TestCaseAccessibility.identifier, [("enabled", .scalar (.boolean true)), ("typo", .array [])])] }

/-- Both rules are named, one of them twice; the one with the option that it does not know does not run. -/
theorem checkAnalyzer_runs_named_rules_withMistakes :
    let list := " test-case-accessibility,,prefer-expect , prefer-expect"
    Config.withMistakes.InOrder ∧
      (∀ n ∈ ruleNames list, n ∈ builtinRules.map RuleEntry.identifier) ∧
      ∃ a, checkAnalyzer Config.withMistakes (some list) = .ok a ∧
        a.identifiers = [PreferExpect.identifier] := by
  intro list
  have hconfig : Config.withMistakes.InOrder := by
    constructor
    · show [PreferExpect.identifier, TestCaseAccessibility.identifier].Pairwise (· < ·)
      decide
    · intro entry hentry
      rcases List.mem_pair.1 hentry with rfl | rfl
      · show ["enabled", "severity"].Pairwise (· < ·)
        decide
      · show ["enabled", "typo"].Pairwise (· < ·)
        decide
  have hnames : ∀ n ∈ ruleNames list, n ∈ builtinRules.map RuleEntry.identifier := by decide
  obtain ⟨a, ha, hidentifiers, -⟩ := checkAnalyzer_runs_named_rules hconfig hnames
  refine ⟨hconfig, hnames, a, ha, hidentifiers.trans ?_⟩
  decide

end SourceLint
