import SourceLint.Proofs.Analysis.Independence
import SourceLint.Proofs.Settings.Configured

/-!
# Selections from a registry

A registry is narrowed by requests for the rules with certain names, one after the other.  Whatever is
requested, its entries stay some of the first ones in their first order, so their names stay different and
an analyzer can be built from them under every configuration.

* **`RuleEntry.NamesRules`** — an entry builds rules of its own name, and the name has the right form.
* **`Registry.select_eq_ok_iff`**, **`Registry.select_eq_error_iff`** — which requests succeed, and what the
  others are told.
* **`Registry.afterRequests`**, **`Registry.granted`** — the registry after some requests, and those that
  succeeded.
* **`selections_keep_analyzers`** — every run of requests.
-/

namespace SourceLint

open scoped List

/-! ### Entries and their rules -/

/-- The rules that the entry builds have its name, in their descriptions as well, and the name has the right
form. -/
def RuleEntry.NamesRules (e : RuleEntry) : Prop :=
  ∀ s r, e.build s = .ok r →
    r.identifier = e.identifier ∧ r.description.identifier = e.identifier ∧
      isValidIdentifier r.identifier = true

theorem namesRules_of_mem_knownEntries {e : RuleEntry} (he : e ∈ knownEntries) : e.NamesRules := by
  intro s r hbuild
  have hvalid : ∀ f ∈ knownEntries, isValidIdentifier f.identifier = true := by decide
  have hname : r.identifier = e.identifier := (keepsName_of_mem_knownEntries he).built s r hbuild
  refine ⟨hname, ?_, hname ▸ hvalid e he⟩
  simp only [knownEntries, builtinRules, List.mem_cons, List.not_mem_nil, or_false] at he
  rcases he with rfl | rfl | rfl
  all_goals
    obtain ⟨settings, -, rfl⟩ := exists_of_map_ok hbuild
    rfl

namespace RuleSet

variable {entries : List RuleEntry} {config : Config}

/-- The names of the rules that a configuration yields are those of the entries that yield one. -/
theorem identifiers_configured (hentries : ∀ e ∈ entries, e.NamesRules) :
    (configured entries config).rules.map (·.identifier) =
      (entries.filter fun e => !(ofEntry config e).rules.isEmpty).map RuleEntry.identifier := by
  rw [configured_eq]
  induction entries with
  | nil => rfl
  | cons e rest ih =>
    have hrest := ih fun f hf => hentries f (List.mem_cons_of_mem e hf)
    rw [List.flatMap_cons, List.map_append, hrest, List.filter_cons]
    -- Only an entry that builds a rule adds a name, which is its own.
    have hshare := share_ofEntry config e
    generalize ofEntry config e = set at hshare ⊢
    cases hshare with
    | unreadable => rfl
    | disabled => rfl
    | built _ _ hbuild =>
      have hname := (hentries e List.mem_cons_self _ _ hbuild).1
      simp [hname]
    | failed => rfl

theorem mem_rules_configured {r : Rule} (h : r ∈ (configured entries config).rules) :
    ∃ e ∈ entries, ∃ s, e.build s = .ok r := by
  rw [configured_eq] at h
  obtain ⟨e, he, hr⟩ := List.mem_flatMap.1 h
  exact ⟨e, he, (share_ofEntry config e).build_of_mem hr⟩

/-- Entries with different names yield an analyzer under every configuration. -/
theorem defect?_configured (hentries : ∀ e ∈ entries, e.NamesRules)
    (hnodup : (entries.map RuleEntry.identifier).Nodup) :
    Analyzer.defect? (configured entries config).rules = none := by
  refine Analyzer.defect?_eq_none_iff.2 ⟨?_, ?_, ?_⟩
  · intro r hr
    obtain ⟨e, he, s, hbuild⟩ := mem_rules_configured hr
    obtain ⟨hname, hdescribed, -⟩ := hentries e he s r hbuild
    rw [hname, hdescribed]
  · intro r hr
    obtain ⟨e, he, s, hbuild⟩ := mem_rules_configured hr
    exact (hentries e he s r hbuild).2.2
  · rw [identifiers_configured hentries]
    exact hnodup.sublist (List.filter_sublist.map RuleEntry.identifier)

end RuleSet

namespace Registry

variable {r s : Registry} {names : List String}

/-- The analyzer of a registry whose entries have different names. -/
theorem analyzer_eq_ok (hentries : ∀ e ∈ r.entries, e.NamesRules) (hnodup : r.identifiers.Nodup)
    (config : Config) :
    r.analyzer config = .ok ⟨(RuleSet.configured r.entries config).rules,
      (RuleSet.configured r.entries config).settingsErrors, true⟩ := by
  rw [analyzer, Analyzer.build, RuleSet.defect?_configured hentries hnodup]

/-! ### One request -/

theorem ofEntries_eq_ok_iff {entries : List RuleEntry} :
    ofEntries entries = .ok r ↔ r = ⟨entries⟩ ∧ (entries.map RuleEntry.identifier).Nodup := by
  rw [← duplicates_eq_nil_iff, ofEntries]
  cases duplicates (entries.map RuleEntry.identifier) with
  | nil => simp [eq_comm]
  | cons i rest => simp

theorem nodup_builtinRules : (builtinRules.map RuleEntry.identifier).Nodup := by
  decide

/-- The rules of the program make a registry. -/
theorem builtin_eq_ok : builtin = .ok ⟨builtinRules⟩ :=
  ofEntries_eq_ok_iff.2 ⟨rfl, nodup_builtinRules⟩

/-- A name is missing if no entry has it. -/
theorem isNone_get?_iff {i : String} : (r.get? i).isNone = true ↔ i ∉ r.identifiers := by
  rw [Option.isNone_iff_eq_none, get?, List.find?_eq_none, identifiers]
  simp

/-- A request succeeds if all names are there. -/
theorem select_eq_ok_iff :
    r.select names = .ok s ↔ (∀ n ∈ names, n ∈ r.identifiers) ∧
      s = ⟨r.entries.filter fun e => names.contains e.identifier⟩ := by
  have hall : names.find? (fun i => (r.get? i).isNone) = none ↔ ∀ n ∈ names, n ∈ r.identifiers := by
    rw [List.find?_eq_none]
    simp only [isNone_get?_iff, not_not]
  rw [← hall, select]
  split
  · rename_i i hfound
    simp [hfound]
  · rename_i hnone
    simp [hnone, eq_comm]

/-- A request that fails is told the first name that is missing. -/
theorem select_eq_error_iff {err : RegistryError} :
    r.select names = .error err ↔ ∃ before i after, names = before ++ i :: after ∧
      (∀ n ∈ before, n ∈ r.identifiers) ∧ i ∉ r.identifiers ∧ err = .unknownRule i := by
  have hfirst (i : String) : names.find? (fun i => (r.get? i).isNone) = some i ↔
      i ∉ r.identifiers ∧ ∃ before after, names = before ++ i :: after ∧
        ∀ n ∈ before, n ∈ r.identifiers := by
    rw [List.find?_eq_some_iff_append, isNone_get?_iff]
    simp only [Bool.not_eq_true', Bool.eq_false_iff, ne_eq, isNone_get?_iff, not_not]
  rw [select]
  constructor
  · intro h
    split at h
    · rename_i i hfound
      cases h
      obtain ⟨hmissing, before, after, hnames, hbefore⟩ := (hfirst i).1 hfound
      exact ⟨before, i, after, hnames, hbefore, hmissing, rfl⟩
    · cases h
  · rintro ⟨before, i, after, hnames, hbefore, hmissing, rfl⟩
    rw [(hfirst i).2 ⟨hmissing, before, after, hnames, hbefore⟩]

theorem exists_select_eq_error_iff :
    (∃ err, r.select names = .error err) ↔ ∃ n ∈ names, n ∉ r.identifiers := by
  constructor
  · rintro ⟨err, h⟩
    obtain ⟨before, i, after, rfl, -, hmissing, -⟩ := select_eq_error_iff.1 h
    exact ⟨i, by simp, hmissing⟩
  · rintro ⟨n, hn, hmissing⟩
    cases h : r.select names with
    | error err => exact ⟨err, rfl⟩
    | ok s => exact absurd ((select_eq_ok_iff.1 h).1 n hn) hmissing

/-- The names that are left are those that were asked for. -/
theorem identifiers_of_select (h : r.select names = .ok s) :
    s.identifiers = r.identifiers.filter names.contains := by
  obtain ⟨-, rfl⟩ := select_eq_ok_iff.1 h
  show (r.entries.filter _).map RuleEntry.identifier = _
  rw [identifiers, List.filter_map]
  rfl

/-! ### Runs of requests -/

/-- The registry after a request, which leaves it as it is if it fails. -/
def afterRequest (r : Registry) (names : List String) : Registry :=
  match r.select names with
  | .ok selected => selected
  | .error _ => r

/-- The registry after some requests, one after the other. -/
def afterRequests (r : Registry) (requests : List (List String)) : Registry :=
  requests.foldl afterRequest r

/-- The requests that succeed, each in the registry as it is by then. -/
def granted (r : Registry) : List (List String) → List (List String)
  | [] => []
  | names :: rest =>
    if (r.select names).isOk then names :: (r.afterRequest names).granted rest
    else (r.afterRequest names).granted rest

/-- A request leaves entries out and changes nothing else. -/
theorem entries_afterRequest_sublist (r : Registry) (names : List String) :
    (r.afterRequest names).entries <+ r.entries := by
  rw [afterRequest]
  split
  · rename_i selected hselect
    obtain ⟨-, rfl⟩ := select_eq_ok_iff.1 hselect
    exact List.filter_sublist
  · exact List.Sublist.refl _

/-- So do all requests together. -/
theorem entries_afterRequests_sublist (r : Registry) (requests : List (List String)) :
    (r.afterRequests requests).entries <+ r.entries := by
  induction requests generalizing r with
  | nil => exact List.Sublist.refl _
  | cons names rest ih => exact (ih (r.afterRequest names)).trans (entries_afterRequest_sublist r names)

/-- The names that are left after some requests are those that all granted ones have in common. -/
theorem identifiers_afterRequests (r : Registry) (requests : List (List String)) :
    (r.afterRequests requests).identifiers =
      r.identifiers.filter fun i => (r.granted requests).all (·.contains i) := by
  induction requests generalizing r with
  | nil => exact (List.filter_true _).symm
  | cons names rest ih =>
    have hstep := ih (r.afterRequest names)
    show ((r.afterRequest names).afterRequests rest).identifiers = _
    rw [hstep, granted]
    cases hselect : r.select names with
    | error err =>
      have hsame : r.afterRequest names = r := by rw [afterRequest, hselect]
      rw [hsame]
      rfl
    | ok selected =>
      have hnarrowed : r.afterRequest names = selected := by rw [afterRequest, hselect]
      rw [hnarrowed, identifiers_of_select hselect, List.filter_filter]
      refine List.filter_congr fun i _ => ?_
      simp [Except.isOk, Except.toBool, Bool.and_comm]

end Registry

/-- **Whatever is selected, an analyzer can be built.**  Let the entries of a registry build rules of their
own names.  After any requests for selections, the analyzer exists under every configuration, and the names
of its rules are some of those in the registry, in the same order.  The registry has the names that all
granted requests have in common, each once and in the order of registration.  The next request fails exactly
if one of its names is missing, and it is told the first one that is. -/
theorem selections_keep_analyzers {entries : List RuleEntry} {registry : Registry}
    (hentries : ∀ e ∈ entries, e.NamesRules) (hregistry : Registry.ofEntries entries = .ok registry)
    (requests : List (List String)) :
    let selected := registry.afterRequests requests
    (∀ config, ∃ a, selected.analyzer config = .ok a ∧ a.identifiers <+ selected.identifiers) ∧
    selected.identifiers = (entries.map RuleEntry.identifier).filter
      (fun i => (registry.granted requests).all (·.contains i)) ∧
    selected.identifiers.Nodup ∧
    ∀ names,
      ((∃ err, selected.select names = .error err) ↔ ∃ n ∈ names, n ∉ selected.identifiers) ∧
      ∀ err, selected.select names = .error err ↔ ∃ before i after, names = before ++ i :: after ∧
        (∀ n ∈ before, n ∈ selected.identifiers) ∧ i ∉ selected.identifiers ∧ err = .unknownRule i := by
  intro selected
  obtain ⟨rfl, hnodup⟩ := Registry.ofEntries_eq_ok_iff.1 hregistry
  have hsublist : selected.entries <+ entries := Registry.entries_afterRequests_sublist _ requests
  have hselected : ∀ e ∈ selected.entries, e.NamesRules := fun e he => hentries e (hsublist.subset he)
  have hdifferent : selected.identifiers.Nodup := hnodup.sublist (hsublist.map RuleEntry.identifier)
  refine ⟨fun config => ?_, Registry.identifiers_afterRequests _ requests, hdifferent, fun names => ?_⟩
  · refine ⟨_, Registry.analyzer_eq_ok hselected hdifferent config, ?_⟩
    show (RuleSet.configured selected.entries config).rules.map (·.identifier) <+ selected.identifiers
    rw [RuleSet.identifiers_configured hselected]
    exact List.filter_sublist.map RuleEntry.identifier
  · exact ⟨Registry.exists_select_eq_error_iff, fun err => Registry.select_eq_error_iff⟩

/-- Of four requests the first and the last are granted; one is for a rule that does not exist, and one for
a rule that is not left any more. -/
theorem selections_keep_analyzers_fourRequests :
    let requests := [["test-case-accessibility", "prefer-expect", "prefer-expect"], ["no-such-rule"],
      ["prefer-expect", "legacy-call"], ["prefer-expect"]]
    (∀ e ∈ knownEntries, e.NamesRules) ∧
    ∃ registry, Registry.ofEntries knownEntries = .ok registry ∧
      let selected := registry.afterRequests requests
      selected.identifiers = ["prefer-expect"] ∧
      (∀ config, ∃ a, selected.analyzer config = .ok a ∧ a.identifiers <+ selected.identifiers) ∧
      selected.select ["prefer-expect", "legacy-call", "other"] = .error (.unknownRule "legacy-call") := by
  intro requests
  have hentries : ∀ e ∈ knownEntries, e.NamesRules := fun e he => namesRules_of_mem_knownEntries he
  have hregistry : Registry.ofEntries knownEntries = .ok ⟨knownEntries⟩ :=
    Registry.ofEntries_eq_ok_iff.2 ⟨rfl, by decide⟩
  obtain ⟨hanalyzer, hidentifiers, -, hselect⟩ :=
    selections_keep_analyzers hentries hregistry requests
  have hleft : (Registry.afterRequests ⟨knownEntries⟩ requests).identifiers = ["prefer-expect"] := by
    rw [hidentifiers]
    decide
  refine ⟨hentries, _, hregistry, hleft, hanalyzer, ?_⟩
  refine ((hselect _).2 _).2 ⟨["prefer-expect"], "legacy-call", ["other"], rfl, ?_, ?_, rfl⟩
  · rw [hleft]
    decide
  · rw [hleft]
    decide

/-! ### Rules that are left out -/

namespace RuleSet

/-- The errors for rules that do not exist are those for settings without an entry, unless an entry itself
refuses its settings in this way. -/
theorem unknownRule_mem_settingsErrors_iff {entries : List RuleEntry} {config : Config} {n : String}
    (hbuild : ∀ e ∈ entries, ∀ s, e.build s ≠ .error (.unknownRule n)) :
    .unknownRule n ∈ (configured entries config).settingsErrors ↔
      n ∈ config.configuredRules ∧ n ∉ entries.map RuleEntry.identifier := by
  have hown : ∀ e ∈ entries, .unknownRule n ∉ (ofEntry config e).settingsErrors := by
    intro e he hmem
    have hshare := share_ofEntry config e
    generalize ofEntry config e = set at hshare hmem
    cases hshare with
    | unreadable hsettings =>
      obtain rfl := List.mem_singleton.1 hmem
      exact Config.ruleSettings_ne_unknownRule config e.identifier n hsettings
    | disabled => cases hmem
    | built => cases hmem
    | failed _ _ hfailed =>
      obtain rfl := List.mem_singleton.1 hmem
      exact hbuild e he _ hfailed
  have hnone : .unknownRule n ∉ entries.flatMap fun e => (ofEntry config e).settingsErrors := by
    intro h
    obtain ⟨e, he, hmem⟩ := List.mem_flatMap.1 h
    exact hown e he hmem
  rw [configured_eq, List.mem_append, or_iff_left hnone, unknownRules]
  simp

end RuleSet

/-- **A selection disowns the rules that it leaves out.**  Under a configuration with settings for a rule
that is registered but not selected, the analyzer of the selection reports that there is no such rule.  This
is the only difference: it reports a rule as unknown exactly if there are settings for it and it is not among
the selected ones, whereas the analyzer of the whole registry does so exactly if it is not registered.  So no
registered rule is reported exactly if all those with settings are selected. -/
theorem selection_disowns_rules {r selected : Registry} {names : List String}
    (hselect : r.select names = .ok selected)
    (hbuild : ∀ e ∈ r.entries, ∀ s n, e.build s ≠ .error (.unknownRule n)) {config : Config}
    {a : Analyzer} (ha : selected.analyzer config = .ok a) :
    (∀ n, .unknownRule n ∈ a.settingsErrors ↔
      n ∈ config.configuredRules ∧ (n ∈ r.identifiers → n ∉ names)) ∧
    (∀ b, r.analyzer config = .ok b → ∀ n, .unknownRule n ∈ a.settingsErrors ↔
      .unknownRule n ∈ b.settingsErrors ∨
        n ∈ config.configuredRules ∧ n ∈ r.identifiers ∧ n ∉ names) ∧
    ((∀ n, .unknownRule n ∈ a.settingsErrors → n ∉ r.identifiers) ↔
      ∀ n ∈ config.configuredRules, n ∈ r.identifiers → n ∈ names) := by
  have hsub : ∀ e ∈ selected.entries, e ∈ r.entries := by
    obtain ⟨-, rfl⟩ := Registry.select_eq_ok_iff.1 hselect
    exact fun e he => (List.mem_filter.1 he).1
  have hleft : ∀ n, .unknownRule n ∈ a.settingsErrors ↔
      n ∈ config.configuredRules ∧ (n ∈ r.identifiers → n ∉ names) := by
    intro n
    obtain ⟨rfl, -⟩ := Analyzer.of_build ha
    show .unknownRule n ∈ (RuleSet.configured selected.entries config).settingsErrors ↔ _
    rw [RuleSet.unknownRule_mem_settingsErrors_iff fun e he s => hbuild e (hsub e he) s n]
    show _ ∧ n ∉ selected.identifiers ↔ _
    rw [Registry.identifiers_of_select hselect]
    simp
  refine ⟨hleft, fun b hb n => ?_, ?_⟩
  · obtain ⟨rfl, -⟩ := Analyzer.of_build hb
    have hwhole : .unknownRule n ∈ (RuleSet.configured r.entries config).settingsErrors ↔
        n ∈ config.configuredRules ∧ n ∉ r.identifiers :=
      RuleSet.unknownRule_mem_settingsErrors_iff fun e he s => hbuild e he s n
    rw [hleft, hwhole]
    tauto
  · simp only [hleft]
    constructor
    · intro h n hconfigured hregistered
      by_contra hmissing
      exact h n ⟨hconfigured, fun _ => hmissing⟩ hregistered
    · intro h n hn hregistered
      exact hn.2 hregistered (h n hn.1 hregistered)

/-- Settings for a rule that does not exist and for one that does. -/
def Config.withAccessibility : Config :=
  { Config.standard with rules := [("no-such-rule", []), (TestCaseAccessibility.identifier, [])] }

/-- The first rule of the program alone. -/
def Registry.firstBuiltin : Registry :=
  ⟨[PreferExpect.entry]⟩

theorem Registry.analyzer_firstBuiltin (config : Config) :
    firstBuiltin.analyzer config = .ok ⟨(RuleSet.configured [PreferExpect.entry] config).rules,
      (RuleSet.configured [PreferExpect.entry] config).settingsErrors, true⟩ := by
  have hnodup : firstBuiltin.identifiers.Nodup := List.nodup_singleton _
  refine analyzer_eq_ok (fun e he => ?_) hnodup config
  obtain rfl := List.mem_singleton.1 he
  exact namesRules_of_mem_knownEntries (by simp [knownEntries, builtinRules])

/-- Of the rules with settings, one is registered but not selected. -/
theorem selection_disowns_rules_withAccessibility :
    ∃ selected a, Registry.select ⟨builtinRules⟩ [PreferExpect.identifier] = .ok selected ∧
      selected.analyzer Config.withAccessibility = .ok a ∧
      (∀ e ∈ builtinRules, ∀ s n, e.build s ≠ .error (.unknownRule n)) ∧
      ∀ n, .unknownRule n ∈ a.settingsErrors ↔
        n ∈ Config.withAccessibility.configuredRules ∧
          (n ∈ builtinRules.map RuleEntry.identifier → n ∉ [PreferExpect.identifier]) := by
  have hselect : Registry.select ⟨builtinRules⟩ [PreferExpect.identifier] = .ok .firstBuiltin := rfl
  have hbuild : ∀ e ∈ builtinRules, ∀ s n, e.build s ≠ .error (.unknownRule n) :=
    fun e he s n => build_ne_unknownRule (List.mem_cons_of_mem _ he) s n
  have ha := Registry.analyzer_firstBuiltin Config.withAccessibility
  exact ⟨_, _, hselect, ha, hbuild, (selection_disowns_rules hselect hbuild ha).1⟩

/-- The rule that is not selected is reported as unknown, though it is registered. -/
theorem unknownRule_of_registered_rule :
    ∃ r selected a, Registry.builtin = .ok r ∧ r.select [PreferExpect.identifier] = .ok selected ∧
      selected.analyzer Config.withAccessibility = .ok a ∧
      .unknownRule TestCaseAccessibility.identifier ∈ a.settingsErrors ∧
      TestCaseAccessibility.identifier ∈ r.identifiers := by
  have ha := Registry.analyzer_firstBuiltin Config.withAccessibility
  refine ⟨_, .firstBuiltin, _, Registry.builtin_eq_ok, rfl, ha, ?_, ?_⟩
  · decide
  · decide

end SourceLint
