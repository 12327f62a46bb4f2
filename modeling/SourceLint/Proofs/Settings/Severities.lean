import Mathlib.Data.List.Forall2
import SourceLint.Proofs.Rules.Builtin

/-!
# Severities in a configuration

The severity of a rule is one key among those of its table.  It is read with the others, but nothing else
depends on it: two configurations that differ in severities alone build the same rules, up to their
severities.

* **`Config.severityOf`** — the severity that a configuration gives to a rule.
* **`RuleSettings.ofTable_eq_setSeverity`** — the key for the severity can be read apart from the others.
* **`Config.SameButSeverities`**, **`Rule.SameButSeverity`** — configurations and rules that differ in
  severities alone.
* **`forall₂_rules_configured`** — the ones build the others.
* **`severity_of_mem_configured`** — a rule of the program has the severity that the configuration gives.
-/

namespace SourceLint

open SourceLint.Toml

namespace RuleSettings

/-! ### The key for the severity -/

/-- The settings with another severity, or with none. -/
def setSeverity (severity? : Option Severity) (s : RuleSettings) : RuleSettings :=
  { s with severity := severity? }

/-- The severity that a value names. -/
def severityNamed? : Value → Option Severity
  | .scalar (.string name) => Severity.ofName? name
  | _ => none

/-- The severity that a table gives. -/
def severityIn? (table : Table) : Option Severity :=
  (table.get? severityKey).bind severityNamed?

/-- The value for the severity names one, if there is such a value. -/
def NamesSeverity (table : Table) : Prop :=
  ∀ value, table.get? severityKey = some value → (severityNamed? value).isSome = true

/-- The keys of a table but the one for the severity. -/
def otherKeys (table : Table) : Table :=
  table.filter fun entry => entry.1 ≠ severityKey

theorem readSeverity_eq_ok_iff {rule : String} {value : Value} {severity : Severity} :
    readSeverity rule value = .ok severity ↔ severityNamed? value = some severity := by
  cases value with
  | scalar s =>
    cases s with
    | string name =>
      rw [readSeverity, severityNamed?]
      cases Severity.ofName? name with
      | none => simp
      | some s => simp
    | integer | float | boolean | datetime => simp [readSeverity, severityNamed?]
  | array | table => simp [readSeverity, severityNamed?]

theorem addKey_setSeverity (severity? : Option Severity) {key : String} (hkey : key ≠ severityKey)
    (value : Value) (s : RuleSettings) :
    (s.setSeverity severity?).addKey key value = setSeverity severity? <$> s.addKey key value := by
  rw [addKey, addKey, if_neg hkey, if_neg hkey]
  by_cases henabled : key = enabledKey
  · rw [if_pos henabled, if_pos henabled]
    show (readEnabled s.rule value >>= fun b => _) = _ <$> (readEnabled s.rule value >>= fun b => _)
    cases readEnabled s.rule value with
    | error err => rfl
    | ok b => rfl
  · rw [if_neg henabled, if_neg henabled]
    rfl

theorem addKeys_setSeverity (severity? : Option Severity) {entries : List (String × Value)}
    (hentries : ∀ entry ∈ entries, entry.1 ≠ severityKey) (s : RuleSettings) :
    (s.setSeverity severity?).addKeys entries = setSeverity severity? <$> s.addKeys entries :=
  addKeys_map (fun entry hentry t => addKey_setSeverity severity? (hentries entry hentry) entry.2 t) s

/-- A table that gives a severity is cut by it in two parts that do not. -/
theorem exists_append_of_get?_severity {table : Table} (htable : (table.map (·.1)).Pairwise (· < ·))
    {value : Value} (h : table.get? severityKey = some value) :
    ∃ before after, table = before ++ (severityKey, value) :: after ∧
      otherKeys table = before ++ after ∧ ∀ entry ∈ before ++ after, entry.1 ≠ severityKey := by
  obtain ⟨before, after, rfl, hbefore⟩ := List.lookup_eq_some_iff.1 h
  have hother : ∀ entry ∈ before ++ after, entry.1 ≠ severityKey := by
    intro entry hentry
    rcases List.mem_append.1 hentry with hentry | hentry
    · exact fun heq => by simpa [heq] using hbefore entry hentry
    · rw [List.map_append, List.map_cons] at htable
      have hlt := List.rel_of_pairwise_cons (List.pairwise_append.1 htable).2.1
        (List.mem_map.2 ⟨entry, hentry, rfl⟩)
      exact fun heq => String.lt_irrefl _ (heq ▸ hlt)
  have hkeep : ∀ entries : Table, (∀ entry ∈ entries, entry ∈ before ++ after) →
      otherKeys entries = entries := fun entries hentries =>
    List.filter_eq_self.2 fun entry hentry => by simpa using hother entry (hentries entry hentry)
  refine ⟨before, after, rfl, ?_, hother⟩
  show otherKeys _ = _
  rw [otherKeys, List.filter_append, List.filter_cons_of_neg (by simp)]
  exact congrArg₂ (· ++ ·) (hkeep before fun _ => List.mem_append_left after)
    (hkeep after fun _ => List.mem_append_right before)

/-- **The key for the severity can be read apart from the others**, where its value names one. -/
theorem ofTable_eq_setSeverity (rule : String) {table : Table}
    (htable : (table.map (·.1)).Pairwise (· < ·)) (hnames : NamesSeverity table) :
    ofTable rule table = setSeverity (severityIn? table) <$> ofTable rule (otherKeys table) := by
  cases hvalue : table.get? severityKey with
  | none =>
    have hother : ∀ entry ∈ table, entry.1 ≠ severityKey := by
      intro entry hentry heq
      simpa [heq] using List.lookup_eq_none_iff.1 hvalue entry hentry
    have hall : otherKeys table = table := List.filter_eq_self.2 fun entry hentry => by
      simpa using hother entry hentry
    rw [severityIn?, hvalue, hall, Option.bind_none]
    exact addKeys_setSeverity none hother (empty rule)
  | some value =>
    obtain ⟨severity, hseverity⟩ := Option.isSome_iff_exists.1 (hnames value hvalue)
    obtain ⟨before, after, happend, hothers, hkeys⟩ := exists_append_of_get?_severity htable hvalue
    rw [severityIn?, hvalue, Option.bind_some, hseverity, hothers, happend, ofTable, ofTable,
      addKeys_append, addKeys_append]
    cases (empty rule).addKeys before with
    | error err => rfl
    | ok t =>
      -- behind the key, one reading goes on with the severity
      have hkey : t.addKey severityKey value = .ok (t.setSeverity (some severity)) := by
        rw [addKey, if_neg (by decide), if_pos rfl, readSeverity_eq_ok_iff.2 hseverity]
        rfl
      show t.addKey severityKey value >>= (fun u => u.addKeys after) = _ <$> t.addKeys after
      rw [hkey]
      exact addKeys_setSeverity _ (fun entry hentry => hkeys entry (List.mem_append_right before hentry)) t

/-- A table that can be read names a severity, if it has a value for it. -/
theorem namesSeverity_of_ofTable {rule : String} {table : Table}
    (htable : (table.map (·.1)).Pairwise (· < ·)) {s : RuleSettings} (h : ofTable rule table = .ok s) :
    NamesSeverity table := by
  intro value hvalue
  obtain ⟨before, after, happend, -, -⟩ := exists_append_of_get?_severity htable hvalue
  rw [happend, ofTable, addKeys_append] at h
  obtain ⟨t, -, hrest⟩ := exists_of_bind_ok h
  obtain ⟨u, hkey, -⟩ := exists_of_bind_ok hrest
  rw [addKey, if_neg (by decide), if_pos rfl] at hkey
  obtain ⟨severity, hread, -⟩ := exists_of_bind_ok hkey
  exact Option.isSome_iff_exists.2 ⟨severity, readSeverity_eq_ok_iff.1 hread⟩

end RuleSettings

open RuleSettings

namespace Config

/-- The table of a rule, which is empty if the configuration says nothing about the rule. -/
def table (c : Config) (rule : String) : Table :=
  (c.rules.lookup rule).getD []

/-- The severity of a rule: the one that its table names, or that of a warning. -/
def severityOf (c : Config) (rule : String) : Severity :=
  (severityIn? (c.table rule)).getD .warning

/-- The configurations say the same about every rule, except for its severity; where they are not the same
about that, each of them names one or leaves it to the rule. -/
def SameButSeverities (c d : Config) : Prop :=
  ∀ rule, c.table rule = d.table rule ∨
    (NamesSeverity (c.table rule) ∧ NamesSeverity (d.table rule) ∧
      otherKeys (c.table rule) = otherKeys (d.table rule))

theorem ruleSettings_eq (c : Config) (rule : String) : c.ruleSettings rule = ofTable rule (c.table rule) := by
  rw [ruleSettings, table]
  cases c.rules.lookup rule with
  | none => rfl
  | some t => rfl

theorem InOrder.pairwise_table {c : Config} (h : c.InOrder) (rule : String) :
    ((c.table rule).map (·.1)).Pairwise (· < ·) :=
  h.pairwise_lookup rule

/-- The severity in the settings of a rule is that of its table. -/
theorem severity_of_ruleSettings {c : Config} (hc : c.InOrder) {rule : String} {s : RuleSettings}
    (h : c.ruleSettings rule = .ok s) : s.severity = severityIn? (c.table rule) := by
  rw [ruleSettings_eq] at h
  have hnames := namesSeverity_of_ofTable (hc.pairwise_table rule) h
  rw [ofTable_eq_setSeverity rule (hc.pairwise_table rule) hnames] at h
  obtain ⟨t, -, rfl⟩ := exists_of_map_ok h
  rfl

/-- The settings of a rule are the same under both configurations, once each has its severity. -/
theorem SameButSeverities.exists_ruleSettings {c d : Config} (hc : c.InOrder) (hd : d.InOrder)
    (h : c.SameButSeverities d) (rule : String) :
    ∃ (base : Except SettingsError RuleSettings) (x y : Option Severity),
      c.ruleSettings rule = setSeverity x <$> base ∧ d.ruleSettings rule = setSeverity y <$> base := by
  rw [ruleSettings_eq, ruleSettings_eq]
  rcases h rule with heq | ⟨hcnames, hdnames, hother⟩
  · rw [← heq]
    cases hread : ofTable rule (c.table rule) with
    | error err => exact ⟨.error err, none, none, rfl, rfl⟩
    | ok s => exact ⟨.ok s, s.severity, s.severity, rfl, rfl⟩
  · rw [ofTable_eq_setSeverity rule (hc.pairwise_table rule) hcnames,
      ofTable_eq_setSeverity rule (hd.pairwise_table rule) hdnames, hother]
    exact ⟨_, _, _, rfl, rfl⟩

end Config

/-! ### Rules -/

/-- The rules are one rule of the program with the same options, and may differ in their severities. -/
inductive Rule.SameButSeverity : Rule → Rule → Prop where
  | preferExpect (r : PreferExpect) (severity : Severity) :
      SameButSeverity r.rule (PreferExpect.rule { r with severity })
  | testCaseAccessibility (r : TestCaseAccessibility) (severity : Severity) :
      SameButSeverity r.rule (TestCaseAccessibility.rule { r with severity })

theorem Rule.SameButSeverity.isBuiltin {r s : Rule} (h : r.SameButSeverity s) : r.IsBuiltin := by
  cases h with
  | preferExpect settings => exact .preferExpect settings
  | testCaseAccessibility settings => exact .testCaseAccessibility settings

theorem Rule.SameButSeverity.identifier_eq {r s : Rule} (h : r.SameButSeverity s) :
    r.identifier = s.identifier := by
  cases h with
  | preferExpect => rfl
  | testCaseAccessibility => rfl

/-- The severity of the settings goes into the rule as it is, and nowhere else. -/
theorem PreferExpect.ofSettings_setSeverity (s : RuleSettings) (severity? : Option Severity) :
    ofSettings (s.setSeverity severity?) =
      (fun r => { r with severity := severity?.getD .warning }) <$> ofSettings s := by
  rw [ofSettings, ofSettings, map_bind]
  refine bind_congr fun _ => ?_
  rw [map_bind]
  refine bind_congr fun start => ?_
  by_cases hempty : start == ""
  · rw [if_pos hempty, if_pos hempty]
    rfl
  · rw [if_neg hempty, if_neg hempty]
    rfl

theorem TestCaseAccessibility.ofSettings_setSeverity (s : RuleSettings) (severity? : Option Severity) :
    ofSettings (s.setSeverity severity?) =
      (fun r => { r with severity := severity?.getD .warning }) <$> ofSettings s := by
  rw [ofSettings, ofSettings, map_bind]
  refine bind_congr fun _ => ?_
  rw [map_bind]
  refine bind_congr fun prefixes => ?_
  rw [map_bind]
  refine bind_congr fun parents => ?_
  rw [map_bind]
  exact bind_congr fun exempts => rfl

/-- Whether a rule of the program can be built does not depend on the severity in its settings, and the
rule has this severity, or else that of a warning. -/
theorem build_setSeverity {e : RuleEntry} (he : e ∈ builtinRules) (s : RuleSettings) :
    (∃ err, ∀ x, e.build (s.setSeverity x) = .error err) ∨
      ∃ result : Option Severity → Rule, (∀ x, e.build (s.setSeverity x) = .ok (result x)) ∧
        (∀ x, (result x).severity = x.getD .warning) ∧
        ∀ x y, (result x).SameButSeverity (result y) := by
  simp only [builtinRules, List.mem_cons, List.not_mem_nil, or_false] at he
  rcases he with rfl | rfl
  · have hbuild (x : Option Severity) : PreferExpect.entry.build (s.setSeverity x) =
        PreferExpect.rule <$> PreferExpect.ofSettings (s.setSeverity x) := rfl
    simp only [hbuild, PreferExpect.ofSettings_setSeverity]
    cases PreferExpect.ofSettings s with
    | error err => exact .inl ⟨err, fun _ => rfl⟩
    | ok r =>
      exact .inr ⟨_, fun _ => rfl, fun _ => rfl, fun x y =>
        .preferExpect { r with severity := x.getD .warning } (y.getD .warning)⟩
  · have hbuild (x : Option Severity) : TestCaseAccessibility.entry.build (s.setSeverity x) =
        TestCaseAccessibility.rule <$> TestCaseAccessibility.ofSettings (s.setSeverity x) := rfl
    simp only [hbuild, TestCaseAccessibility.ofSettings_setSeverity]
    cases TestCaseAccessibility.ofSettings s with
    | error err => exact .inl ⟨err, fun _ => rfl⟩
    | ok r =>
      exact .inr ⟨_, fun _ => rfl, fun _ => rfl, fun x y =>
        .testCaseAccessibility { r with severity := x.getD .warning } (y.getD .warning)⟩

/-! ### Catalogs -/

/-- The rule that an entry contributes, if it is enabled and can be built. -/
theorem RuleSet.rules_ofEntry {config : Config} {e : RuleEntry} {s : RuleSettings}
    (h : config.ruleSettings e.identifier = .ok s) :
    (ofEntry config e).rules = if s.isEnabled e.isOptIn then (e.build s).toOption.toList else [] := by
  rw [ofEntry, h]
  dsimp only
  cases henabled : s.isEnabled e.isOptIn with
  | false => rfl
  | true =>
    cases hbuild : e.build s with
    | error err => rfl
    | ok r => rfl

section Catalog

variable {c d : Config} (hc : c.InOrder)

include hc in
/-- A rule of the program has the severity that the configuration gives to it. -/
theorem severity_of_mem_configured {r : Rule} (hr : r ∈ (RuleSet.configured builtinRules c).rules) :
    r.severity = c.severityOf r.identifier := by
  rw [RuleSet.configured_eq] at hr
  obtain ⟨e, he, hr⟩ := List.mem_flatMap.1 hr
  have hshare := RuleSet.share_ofEntry c e
  generalize RuleSet.ofEntry c e = set at hshare hr
  cases hshare with
  | unreadable => cases hr
  | disabled => cases hr
  | failed => cases hr
  | @built s _ hsettings _ hbuild =>
    obtain rfl := List.mem_singleton.1 hr
    have hname := (keepsName_of_mem_knownEntries (List.mem_cons_of_mem _ he)).built s r hbuild
    have hseverity := Config.severity_of_ruleSettings hc hsettings
    rw [hname, Config.severityOf, ← hseverity]
    -- settings are themselves with their own severity
    have hown : e.build (s.setSeverity s.severity) = .ok r := hbuild
    rcases build_setSeverity he s with ⟨err, herr⟩ | ⟨result, hresult, hstamped, -⟩
    · rw [herr] at hown
      cases hown
    · rw [hresult] at hown
      obtain rfl := Except.ok.inj hown
      exact hstamped s.severity

variable (hd : d.InOrder) (h : c.SameButSeverities d)

include hc hd h in
theorem forall₂_rules_ofEntry {e : RuleEntry} (he : e ∈ builtinRules) :
    List.Forall₂ Rule.SameButSeverity (RuleSet.ofEntry c e).rules (RuleSet.ofEntry d e).rules := by
  obtain ⟨base, x, y, hcsettings, hdsettings⟩ := h.exists_ruleSettings hc hd e.identifier
  cases base with
  | error err =>
    rw [RuleSet.ofEntry, RuleSet.ofEntry, hcsettings, hdsettings]
    exact .nil
  | ok s =>
    rw [RuleSet.rules_ofEntry hcsettings, RuleSet.rules_ofEntry hdsettings]
    -- whether the rule is enabled is said under a key of its own
    show List.Forall₂ _ (if s.isEnabled e.isOptIn then _ else []) (if s.isEnabled e.isOptIn then _ else [])
    split
    · rcases build_setSeverity he s with ⟨err, herr⟩ | ⟨result, hresult, -, hsame⟩
      · rw [herr, herr]
        exact .nil
      · rw [hresult, hresult]
        exact .cons (hsame x y) .nil
    · exact .nil

include hc hd h in
/-- **Configurations that differ in severities alone build the same rules**, up to their severities. -/
theorem forall₂_rules_configured :
    List.Forall₂ Rule.SameButSeverity (RuleSet.configured builtinRules c).rules
      (RuleSet.configured builtinRules d).rules := by
  rw [RuleSet.configured_eq, RuleSet.configured_eq]
  have hall : ∀ entries ⊆ builtinRules, List.Forall₂ Rule.SameButSeverity
      (entries.flatMap fun e => (RuleSet.ofEntry c e).rules)
      (entries.flatMap fun e => (RuleSet.ofEntry d e).rules) := by
    intro entries hentries
    induction entries with
    | nil => exact .nil
    | cons e rest ih =>
      obtain ⟨he, hrest⟩ := List.cons_subset.1 hentries
      rw [List.flatMap_cons, List.flatMap_cons]
      exact List.rel_append (forall₂_rules_ofEntry hc hd h he) (ih hrest)
  exact hall builtinRules (List.Subset.refl _)

end Catalog

end SourceLint
