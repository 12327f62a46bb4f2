import SourceLint.Proofs.Settings.Tables

/-!
# What a configuration makes of rules

The rules of a catalog are built one after the other, each from its own settings, and what goes wrong is
collected on the way.

* **`RuleSet.Share`** — what an entry contributes, and why.
* **`RuleSet.Share.one_of_three`** — a rule of its name, an error that names it, or nothing.
* **`configured_isolates_rules`** — settings of one rule have no effect on what becomes of the others.
-/

namespace SourceLint

/-! ### What entries contribute -/

namespace RuleSet

variable {entries : List RuleEntry} {config : Config} {e : RuleEntry}

theorem foldl_append (sets : List RuleSet) (first : RuleSet) :
    sets.foldl append first =
      ⟨first.rules ++ sets.flatMap (·.rules), first.settingsErrors ++ sets.flatMap (·.settingsErrors)⟩ := by
  induction sets generalizing first with
  | nil => simp
  | cons s sets ih =>
    rw [List.foldl_cons, ih, append, List.flatMap_cons, List.flatMap_cons, List.append_assoc,
      List.append_assoc]

/-- The rules and the errors of a configuration, one entry after the other. -/
theorem configured_eq (entries : List RuleEntry) (config : Config) :
    configured entries config =
      ⟨entries.flatMap fun e => (ofEntry config e).rules,
        unknownRules entries config ++ entries.flatMap fun e => (ofEntry config e).settingsErrors⟩ := by
  rw [configured, foldl_append, List.flatMap_map, List.flatMap_map, List.nil_append]

/-- What an entry contributes to the rules of a configuration, and why. -/
inductive Share (config : Config) (e : RuleEntry) : RuleSet → Prop where
  /-- Its settings cannot be read. -/
  | unreadable {err} (hsettings : config.ruleSettings e.identifier = .error err) :
      Share config e ⟨[], [err]⟩
  /-- It is not enabled. -/
  | disabled {s} (hsettings : config.ruleSettings e.identifier = .ok s)
      (henabled : s.isEnabled e.isOptIn = false) : Share config e empty
  /-- It is built. -/
  | built {s r} (hsettings : config.ruleSettings e.identifier = .ok s)
      (henabled : s.isEnabled e.isOptIn = true) (hbuild : e.build s = .ok r) : Share config e ⟨[r], []⟩
  /-- It cannot be built. -/
  | failed {s err} (hsettings : config.ruleSettings e.identifier = .ok s)
      (henabled : s.isEnabled e.isOptIn = true) (hbuild : e.build s = .error err) :
      Share config e ⟨[], [err]⟩

theorem share_ofEntry (config : Config) (e : RuleEntry) : Share config e (ofEntry config e) := by
  rw [ofEntry]
  cases hsettings : config.ruleSettings e.identifier with
  | error err => exact .unreadable hsettings
  | ok s =>
    cases henabled : s.isEnabled e.isOptIn with
    | false => simpa only [henabled, Bool.false_eq_true, if_false] using Share.disabled hsettings henabled
    | true =>
      cases hbuild : e.build s with
      | error err =>
        simpa only [henabled, hbuild, if_true] using Share.failed hsettings henabled hbuild
      | ok r => simpa only [henabled, hbuild, if_true] using Share.built hsettings henabled hbuild

variable {set : RuleSet}

/-- An entry contributes a rule only by building it. -/
theorem Share.build_of_mem (h : Share config e set) {r : Rule} (hr : r ∈ set.rules) :
    ∃ s, e.build s = .ok r := by
  cases h with
  | unreadable => cases hr
  | disabled => cases hr
  | built _ _ hbuild =>
    obtain rfl := List.mem_singleton.1 hr
    exact ⟨_, hbuild⟩
  | failed => cases hr

/-- **An entry contributes a rule of its name, an error that names it, or nothing, and nothing only because
it is not enabled.** -/
theorem Share.one_of_three (h : Share config e set) (hname : e.KeepsName) :
    (∃ r, set = ⟨[r], []⟩ ∧ r.identifier = e.identifier) ∨
      (∃ err, set = ⟨[], [err]⟩ ∧ err.rule? = some e.identifier) ∨
      set = empty ∧ ∃ s, config.ruleSettings e.identifier = .ok s ∧ s.isEnabled e.isOptIn = false := by
  cases h with
  | unreadable hsettings =>
    exact .inr (.inl ⟨_, rfl, config.ruleSettings_blames e.identifier _ hsettings⟩)
  | disabled hsettings henabled => exact .inr (.inr ⟨rfl, _, hsettings, henabled⟩)
  | built _ _ hbuild => exact .inl ⟨_, rfl, hname.built _ _ hbuild⟩
  | failed hsettings _ hbuild =>
    have hrule := Config.rule_ruleSettings hsettings
    exact .inr (.inl ⟨_, rfl, hname.blames _ hrule _ hbuild⟩)

/-- Without what has the name of the entry, nothing of its contribution is left. -/
theorem Share.filter_eq_nil (h : Share config e set) (hname : e.KeepsName) :
    set.rules.filter (·.identifier ≠ e.identifier) = [] ∧
      set.settingsErrors.filter (·.rule? ≠ some e.identifier) = [] := by
  rcases h.one_of_three hname with ⟨r, rfl, hr⟩ | ⟨err, rfl, herr⟩ | ⟨rfl, -⟩
  · simp [hr]
  · simp [herr]
  · simp [empty]

/-! ### Two configurations -/

section Agreement

variable {rule : String} {c d : Config} (h : c.AgreesExcept rule d)

include h

theorem ofEntry_eq_of_agreesExcept (he : e.identifier ≠ rule) : ofEntry c e = ofEntry d e := by
  rw [ofEntry, ofEntry, h.ruleSettings_eq he]

theorem filter_ofEntry_eq (hname : e.KeepsName) :
    (ofEntry c e).rules.filter (·.identifier ≠ rule) =
        (ofEntry d e).rules.filter (·.identifier ≠ rule) ∧
      (ofEntry c e).settingsErrors.filter (·.rule? ≠ some rule) =
        (ofEntry d e).settingsErrors.filter (·.rule? ≠ some rule) := by
  by_cases he : e.identifier = rule
  · subst he
    have hleft := (share_ofEntry c e).filter_eq_nil hname
    have hright := (share_ofEntry d e).filter_eq_nil hname
    rw [hleft.1, hleft.2, hright.1, hright.2]
    exact ⟨rfl, rfl⟩
  · rw [ofEntry_eq_of_agreesExcept h he]
    exact ⟨rfl, rfl⟩

theorem filter_unknownRules_eq (hc : c.IsAscending) (hd : d.IsAscending) (entries : List RuleEntry) :
    (unknownRules entries c).filter (·.rule? ≠ some rule) =
      (unknownRules entries d).filter (·.rule? ≠ some rule) := by
  have hfilter (config : Config) : (unknownRules entries config).filter (·.rule? ≠ some rule) =
      ((config.configuredRules.filter (· ≠ rule)).filter
        fun r => !entries.any fun e => e.identifier == r).map SettingsError.unknownRule := by
    rw [unknownRules, List.filter_map, List.filter_filter, List.filter_filter]
    congr 2
    funext name
    simp [SettingsError.rule?, Bool.and_comm]
  rw [hfilter, hfilter, h.filter_configuredRules hc hd]

end Agreement

end RuleSet

/-- **The settings of one rule concern that rule only.**  Two configurations that differ in the table of
one rule yield the same for all other entries: the same settings, and so the same rules and the same errors
in the same order.  Under each configuration, what it yields is what the entries contribute one after the
other, behind the errors for rules that do not exist, and an entry contributes exactly one of three: a rule
of its name, an error that names it, or nothing because it is not enabled. -/
theorem configured_isolates_rules {entries : List RuleEntry} (hknown : ∀ e ∈ entries, e ∈ knownEntries)
    {rule : String} {c d : Config} (hc : c.IsAscending) (hd : d.IsAscending)
    (hagree : c.AgreesExcept rule d) :
    (∀ e ∈ entries, e.identifier ≠ rule →
      c.ruleSettings e.identifier = d.ruleSettings e.identifier ∧
        RuleSet.ofEntry c e = RuleSet.ofEntry d e) ∧
    (RuleSet.configured entries c).rules.filter (·.identifier ≠ rule) =
      (RuleSet.configured entries d).rules.filter (·.identifier ≠ rule) ∧
    (RuleSet.configured entries c).settingsErrors.filter (·.rule? ≠ some rule) =
      (RuleSet.configured entries d).settingsErrors.filter (·.rule? ≠ some rule) ∧
    ∀ config : Config,
      RuleSet.configured entries config =
        ⟨entries.flatMap fun e => (RuleSet.ofEntry config e).rules,
          RuleSet.unknownRules entries config ++
            entries.flatMap fun e => (RuleSet.ofEntry config e).settingsErrors⟩ ∧
      ∀ e ∈ entries,
        (∃ r, RuleSet.ofEntry config e = ⟨[r], []⟩ ∧ r.identifier = e.identifier) ∨
        (∃ err, RuleSet.ofEntry config e = ⟨[], [err]⟩ ∧ err.rule? = some e.identifier) ∨
        RuleSet.ofEntry config e = RuleSet.empty ∧
          ∃ s, config.ruleSettings e.identifier = .ok s ∧ s.isEnabled e.isOptIn = false := by
  have hname : ∀ e ∈ entries, e.KeepsName := fun e he => keepsName_of_mem_knownEntries (hknown e he)
  refine ⟨fun e _ hrule => ?_, ?_, ?_, fun config => ?_⟩
  · exact ⟨hagree.ruleSettings_eq hrule, RuleSet.ofEntry_eq_of_agreesExcept hagree hrule⟩
  · rw [RuleSet.configured_eq, RuleSet.configured_eq, List.filter_flatMap, List.filter_flatMap]
    exact List.flatMap_congr fun e he => (RuleSet.filter_ofEntry_eq hagree (hname e he)).1
  · rw [RuleSet.configured_eq, RuleSet.configured_eq, List.filter_append, List.filter_append,
      List.filter_flatMap, List.filter_flatMap, RuleSet.filter_unknownRules_eq hagree hc hd]
    congr 1
    exact List.flatMap_congr fun e he => (RuleSet.filter_ofEntry_eq hagree (hname e he)).2
  · refine ⟨RuleSet.configured_eq entries config, fun e he => ?_⟩
    exact (RuleSet.share_ofEntry config e).one_of_three (hname e he)

/-- Settings for a rule that does not exist and for two that do, of which one has the given prefix. -/
def Config.withPrefix (start : Toml.Value) : Config :=
  { Config.standard with
    rules := [(LegacyCall.identifier, []), ("no-such-rule", [])] ++
      [(PreferExpect.identifier,
        [(PreferExpect.prefixKey, start), (RuleSettings.enabledKey, .scalar (.boolean true))])] }

/-- A number for a prefix is an error of this rule, and nothing else becomes of it. -/
theorem configured_isolates_rules_numberForPrefix :
    let entries := [TestCaseAccessibility.entry, PreferExpect.entry, LegacyCall.entry]
    let bad := Config.withPrefix (.scalar (.integer 1))
    let good := Config.withPrefix (.scalar (.string "XCT"))
    (RuleSet.configured entries bad).rules.filter (·.identifier ≠ PreferExpect.identifier) =
        (RuleSet.configured entries good).rules.filter (·.identifier ≠ PreferExpect.identifier) ∧
      (RuleSet.configured entries bad).settingsErrors.filter (·.rule? ≠ some PreferExpect.identifier) =
        [.unknownRule "no-such-rule"] := by
  intro entries bad good
  have hknown : ∀ e ∈ entries, e ∈ knownEntries := by
    simp [entries, knownEntries, builtinRules]
  have hascending (start : Toml.Value) : (Config.withPrefix start).IsAscending := by
    change [LegacyCall.identifier, "no-such-rule", PreferExpect.identifier].Pairwise (· < ·)
    decide
  have hagree : bad.AgreesExcept PreferExpect.identifier good := by
    intro name hname
    have hne : (name == PreferExpect.identifier) = false := by simp [hname]
    simp only [bad, good, Config.withPrefix, List.lookup_append, List.lookup_cons, List.lookup_nil, hne]
  obtain ⟨-, hrules, herrors, -⟩ :=
    configured_isolates_rules hknown (hascending _) (hascending _) hagree
  refine ⟨hrules, herrors.trans ?_⟩
  rfl

end SourceLint
