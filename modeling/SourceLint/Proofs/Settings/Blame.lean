import SourceLint.Proofs.Data.Steps
import SourceLint.Rules.LegacyCall
import SourceLint.Rules.Registry

/-!
# The rule that an error names

Settings of a rule are read in three stages: the keys that all rules have, the question which keys are
known, and the options of the rule.  Whatever goes wrong at one of them is an error that names the rule
whose settings are read.

* **`Blames`** — a computation whose errors all name the same rule.
* **`RuleSettings.ofTable_eq_error`**, **`checkKeys_eq_error`**, **`getOr_eq_error`** — the errors of the
  three stages, from which it follows that they name the rule.
* **`RuleEntry.KeepsName`** — the options: an entry builds rules of its own name, from settings of this
  name, and the errors name it.
* **`keepsName_of_mem_knownEntries`** — the entries for which there are rules.
-/

namespace SourceLint

/-! ### Errors that name a rule -/

/-- The errors of the computation name the rule. -/
def Blames {α : Type} (rule : String) (x : Except SettingsError α) : Prop :=
  ∀ e, x = .error e → e.rule? = some rule

namespace Blames

variable {α β : Type} {rule : String}

theorem ok (a : α) : Blames rule (.ok a) := by
  intro e h
  cases h

theorem error {err : SettingsError} (h : err.rule? = some rule) :
    Blames rule (.error err : Except SettingsError α) := by
  intro e he
  cases he
  exact h

theorem bind {x : Except SettingsError α} {f : α → Except SettingsError β} (hx : Blames rule x)
    (hf : ∀ a, x = .ok a → Blames rule (f a)) : Blames rule (x >>= f) := by
  cases x with
  | error err => exact error (hx err rfl)
  | ok a => exact hf a rfl

theorem map {x : Except SettingsError α} (f : α → β) (hx : Blames rule x) : Blames rule (f <$> x) := by
  cases x with
  | error err => exact error (hx err rfl)
  | ok a => exact ok (f a)

end Blames

/-! ### The keys that all rules have -/

namespace RuleSettings

theorem readEnabled_eq_error {rule : String} {value : Toml.Value} {err : SettingsError}
    (h : readEnabled rule value = .error err) :
    ∃ message, err = .malformed rule enabledKey message := by
  rw [readEnabled.eq_def] at h
  split at h
  · cases h
  · cases h
    exact ⟨_, rfl⟩

theorem readSeverity_eq_error {rule : String} {value : Toml.Value} {err : SettingsError}
    (h : readSeverity rule value = .error err) :
    ∃ message, err = .malformed rule severityKey message := by
  rw [readSeverity.eq_def] at h
  split at h
  · split at h
    · cases h
    · cases h
      exact ⟨_, rfl⟩
  · cases h
    exact ⟨_, rfl⟩

/-- A key is refused if it is one of those that all rules have and its value does not fit. -/
theorem refused_of_addKey {s : RuleSettings} {key : String} {value : Toml.Value} {err : SettingsError}
    (h : s.addKey key value = .error err) :
    (key = enabledKey ∧ readEnabled s.rule value = .error err) ∨
      (key = severityKey ∧ readSeverity s.rule value = .error err) := by
  rw [addKey] at h
  by_cases henabled : key = enabledKey
  · rw [if_pos henabled] at h
    rcases exists_of_bind_error h with hread | ⟨b, -, hb⟩
    · exact .inl ⟨henabled, hread⟩
    · cases hb
  · rw [if_neg henabled] at h
    by_cases hseverity : key = severityKey
    · rw [if_pos hseverity] at h
      rcases exists_of_bind_error h with hread | ⟨v, -, hv⟩
      · exact .inr ⟨hseverity, hread⟩
      · cases hv
    · rw [if_neg hseverity] at h
      cases h

theorem addKey_eq_error {s : RuleSettings} {key : String} {value : Toml.Value} {err : SettingsError}
    (h : s.addKey key value = .error err) : ∃ message, err = .malformed s.rule key message := by
  rcases refused_of_addKey h with ⟨rfl, hread⟩ | ⟨rfl, hread⟩
  · exact readEnabled_eq_error hread
  · exact readSeverity_eq_error hread

theorem rule_addKey {s t : RuleSettings} {key : String} {value : Toml.Value}
    (h : s.addKey key value = .ok t) : t.rule = s.rule := by
  rw [addKey] at h
  split at h
  · obtain ⟨b, -, hb⟩ := exists_of_bind_ok h
    cases hb
    rfl
  · split at h
    · obtain ⟨v, -, hv⟩ := exists_of_bind_ok h
      cases hv
      rfl
    · cases h
      rfl

theorem rule_addKeys {s t : RuleSettings} {entries : List (String × Toml.Value)}
    (h : s.addKeys entries = .ok t) : t.rule = s.rule := by
  induction entries generalizing s with
  | nil => cases h; rfl
  | cons entry rest ih =>
    obtain ⟨u, hkey, hrest⟩ := exists_of_bind_ok h
    exact (ih hrest).trans (rule_addKey hkey)

/-- Keys are read one after the other until one of them is refused. -/
theorem exists_addKey_of_addKeys_error {s : RuleSettings} {entries : List (String × Toml.Value)}
    {e : SettingsError} (h : s.addKeys entries = .error e) :
    ∃ entry ∈ entries, ∃ u : RuleSettings, u.rule = s.rule ∧ u.addKey entry.1 entry.2 = .error e := by
  induction entries generalizing s with
  | nil => cases h
  | cons entry rest ih =>
    rcases exists_of_bind_error h with hkey | ⟨u, hkey, hrest⟩
    · exact ⟨entry, List.mem_cons_self, s, rfl, hkey⟩
    · obtain ⟨later, hlater, w, hw, hfails⟩ := ih hrest
      exact ⟨later, List.mem_cons_of_mem entry hlater, w, hw.trans (rule_addKey hkey), hfails⟩

theorem addKeys_eq_error {s : RuleSettings} {entries : List (String × Toml.Value)} {err : SettingsError}
    (h : s.addKeys entries = .error err) :
    ∃ entry ∈ entries, ∃ message, err = .malformed s.rule entry.1 message := by
  obtain ⟨entry, hentry, u, hu, hfails⟩ := exists_addKey_of_addKeys_error h
  obtain ⟨message, herr⟩ := addKey_eq_error hfails
  exact ⟨entry, hentry, message, hu ▸ herr⟩

/-- **What is wrong with a table is the value of one of its keys.** -/
theorem ofTable_eq_error {rule : String} {table : Toml.Table} {err : SettingsError}
    (h : ofTable rule table = .error err) :
    ∃ entry ∈ table, ∃ message, err = .malformed rule entry.1 message :=
  addKeys_eq_error h

theorem ofTable_blames (rule : String) (table : Toml.Table) : Blames rule (ofTable rule table) := by
  intro err h
  obtain ⟨entry, -, message, rfl⟩ := ofTable_eq_error h
  rfl

theorem rule_ofTable {rule : String} {table : Toml.Table} {s : RuleSettings}
    (h : ofTable rule table = .ok s) : s.rule = rule :=
  rule_addKeys h

/-! ### Options -/

theorem checkKeys_eq_error {s : RuleSettings} {known : List String} {policy : UnknownKeys}
    {err : SettingsError} (h : s.checkKeys known policy = .error err) :
    ∃ key, err = .unknownOption s.rule key := by
  cases policy with
  | ignore => cases h
  | reject =>
    rw [checkKeys] at h
    split at h
    · cases h
      exact ⟨_, rfl⟩
    · cases h

theorem checkKeys_blames {s : RuleSettings} {rule : String} (hs : s.rule = rule) (known : List String)
    (policy : UnknownKeys) : Blames rule (s.checkKeys known policy) := by
  intro err h
  obtain ⟨key, rfl⟩ := checkKeys_eq_error h
  exact congrArg some hs

theorem getOr_eq_error {s : RuleSettings} {α : Type} {key : String}
    {decode : Toml.Value → Except Toml.Refusal α} {default : α} {err : SettingsError}
    (h : s.getOr key decode default = .error err) : ∃ message, err = .malformed s.rule key message := by
  rcases exists_of_bind_error h with hget | ⟨a?, -, ha⟩
  · rw [get] at hget
    split at hget
    · cases hget
    · split at hget
      · cases hget
      · cases hget
        exact ⟨_, rfl⟩
  · cases ha

theorem getOr_blames {s : RuleSettings} {rule : String} (hs : s.rule = rule) {α : Type} (key : String)
    (decode : Toml.Value → Except Toml.Refusal α) (default : α) :
    Blames rule (s.getOr key decode default) := by
  intro err h
  obtain ⟨message, rfl⟩ := getOr_eq_error h
  exact congrArg some hs

end RuleSettings

namespace Config

theorem ruleSettings_blames (c : Config) (rule : String) : Blames rule (c.ruleSettings rule) := by
  rw [ruleSettings]
  split
  · exact RuleSettings.ofTable_blames rule _
  · exact .ok _

/-- Settings of a rule are refused for a value in them. -/
theorem ruleSettings_ne_unknownRule (c : Config) (rule n : String) :
    c.ruleSettings rule ≠ .error (.unknownRule n) := by
  intro h
  rw [ruleSettings] at h
  split at h
  · obtain ⟨entry, -, message, herr⟩ := RuleSettings.ofTable_eq_error h
    cases herr
  · cases h

theorem rule_ruleSettings {c : Config} {rule : String} {s : RuleSettings}
    (h : c.ruleSettings rule = .ok s) : s.rule = rule := by
  rw [ruleSettings] at h
  split at h
  · exact RuleSettings.rule_ofTable h
  · cases h
    rfl

end Config

/-! ### Entries -/

/-- The entry answers for itself: the rules that it builds have its name, and what is wrong with settings of
this name is an error that names it. -/
structure RuleEntry.KeepsName (e : RuleEntry) : Prop where
  built : ∀ s r, e.build s = .ok r → r.identifier = e.identifier
  blames : ∀ s : RuleSettings, s.rule = e.identifier → Blames e.identifier (e.build s)

/-- The entries for which there are rules. -/
def knownEntries : List RuleEntry :=
  LegacyCall.entry :: builtinRules

section Entries

open RuleSettings

theorem PreferExpect.entry_keepsName : PreferExpect.entry.KeepsName where
  built s r h := by
    obtain ⟨settings, -, rfl⟩ := exists_of_map_ok h
    rfl
  blames s hs := by
    refine .map _ (.bind (checkKeys_blames hs _ _) fun _ _ => ?_)
    refine .bind (getOr_blames hs _ _ _) fun start _ => ?_
    split
    · exact .error rfl
    · exact .ok _

theorem TestCaseAccessibility.entry_keepsName : TestCaseAccessibility.entry.KeepsName where
  built s r h := by
    obtain ⟨settings, -, rfl⟩ := exists_of_map_ok h
    rfl
  blames s hs := by
    refine .map _ (.bind (checkKeys_blames hs _ _) fun _ _ => ?_)
    refine .bind (getOr_blames hs _ _ _) fun prefixes _ => ?_
    refine .bind (getOr_blames hs _ _ _) fun parents _ => ?_
    exact .bind (getOr_blames hs _ _ _) fun exempts _ => .ok _

theorem LegacyCall.entry_keepsName : LegacyCall.entry.KeepsName where
  built s r h := by
    obtain ⟨settings, -, rfl⟩ := exists_of_map_ok h
    rfl
  blames s hs := by
    refine .map _ (.bind (checkKeys_blames hs _ _) fun _ _ => ?_)
    exact .bind (getOr_blames hs _ _ _) fun names _ => .ok _

theorem keepsName_of_mem_knownEntries {e : RuleEntry} (he : e ∈ knownEntries) : e.KeepsName := by
  simp only [knownEntries, builtinRules, List.mem_cons, List.not_mem_nil, or_false] at he
  rcases he with rfl | rfl | rfl
  · exact LegacyCall.entry_keepsName
  · exact PreferExpect.entry_keepsName
  · exact TestCaseAccessibility.entry_keepsName

/-- An entry refuses settings for a key that it does not know or for a value that it cannot use. -/
theorem build_ne_unknownRule {e : RuleEntry} (he : e ∈ knownEntries) (s : RuleSettings) (n : String) :
    e.build s ≠ .error (.unknownRule n) := by
  have hkeys {known : List String} {policy : UnknownKeys} :
      s.checkKeys known policy ≠ .error (.unknownRule n) := by
    intro h
    obtain ⟨key, hkey⟩ := checkKeys_eq_error h
    cases hkey
  have hoption {α : Type} {key : String} {decode : Toml.Value → Except Toml.Refusal α} {default : α} :
      s.getOr key decode default ≠ .error (.unknownRule n) := by
    intro h
    obtain ⟨message, hmessage⟩ := getOr_eq_error h
    cases hmessage
  have hok {α : Type} {a : α} : (.ok a : Except SettingsError α) ≠ .error (.unknownRule n) := by
    intro h
    cases h
  simp only [knownEntries, builtinRules, List.mem_cons, List.not_mem_nil, or_false] at he
  rcases he with rfl | rfl | rfl
  · refine bind_ne_error ?_ fun _ => hok
    exact bind_ne_error hkeys fun _ => bind_ne_error hoption fun _ => hok
  · refine bind_ne_error ?_ fun _ => hok
    refine bind_ne_error hkeys fun _ => bind_ne_error hoption fun start => ?_
    intro h
    split at h
    · cases h
    · cases h
  · refine bind_ne_error ?_ fun _ => hok
    refine bind_ne_error hkeys fun _ => bind_ne_error hoption fun _ => ?_
    exact bind_ne_error hoption fun _ => bind_ne_error hoption fun _ => hok

end Entries

end SourceLint
