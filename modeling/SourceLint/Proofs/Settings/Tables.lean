import Mathlib.Data.List.Sort
import SourceLint.Proofs.Settings.Blame
import SourceLint.Proofs.Settings.Reading

/-!
# The tables of rules in a configuration

* **`Config.IsAscending`**, **`Config.InOrder`** — the tables of rules are in order, each rule has one at
  most, and the same holds of the keys in each; configurations that are read are of this kind
  (`inOrder_of_ofText`).
* **`RuleSettings.addKeys_append`**, **`RuleSettings.addKeys_map`** — how the keys of a table are read one
  behind the other.
* **`Config.AgreesExcept`** — two configurations say the same about all rules but one.
-/

namespace SourceLint

/-! ### Reading a table -/

namespace RuleSettings

theorem addKeys_append (s : RuleSettings) (before after : List (String × Toml.Value)) :
    s.addKeys (before ++ after) = s.addKeys before >>= fun t => t.addKeys after := by
  induction before generalizing s with
  | nil => rfl
  | cons entry rest ih =>
    show s.addKey entry.1 entry.2 >>= (fun t => t.addKeys (rest ++ after)) =
      (s.addKey entry.1 entry.2 >>= fun t => t.addKeys rest) >>= fun t => t.addKeys after
    cases s.addKey entry.1 entry.2 with
    | error err => rfl
    | ok t => exact ih t

/-- A change of the settings that may as well be made after each key may as well be made after all of
them. -/
theorem addKeys_map {f : RuleSettings → RuleSettings} {entries : List (String × Toml.Value)}
    (h : ∀ entry ∈ entries, ∀ t, (f t).addKey entry.1 entry.2 = f <$> t.addKey entry.1 entry.2)
    (s : RuleSettings) : (f s).addKeys entries = f <$> s.addKeys entries := by
  induction entries generalizing s with
  | nil => rfl
  | cons entry rest ih =>
    obtain ⟨hentry, hrest⟩ := List.forall_mem_cons.1 h
    show (f s).addKey entry.1 entry.2 >>= (fun t => t.addKeys rest) =
      f <$> (s.addKey entry.1 entry.2 >>= fun t => t.addKeys rest)
    rw [hentry s]
    cases s.addKey entry.1 entry.2 with
    | error err => rfl
    | ok t => exact ih hrest t

end RuleSettings

/-! ### Ascending order -/

namespace Config

/-- The tables of rules are in ascending order of the rules, so there is one for each rule at most. -/
def IsAscending (c : Config) : Prop :=
  c.configuredRules.Pairwise (· < ·)

/-- The tables of rules are in order, and so are the keys of each. -/
structure InOrder (c : Config) : Prop where
  tables : c.IsAscending
  keys : ∀ entry ∈ c.rules, (entry.2.map (·.1)).Pairwise (· < ·)

theorem pairwise_insertTable {rule : String} {table : Toml.Table} {tables : List (String × Toml.Table)}
    (h : (tables.map (·.1)).Pairwise (· < ·)) :
    ((insertTable rule table tables).map (·.1)).Pairwise (· < ·) := by
  rw [insertTable_eq_putKey]
  exact pairwise_putKey h

theorem pairwise_decodeTable {item : Toml.Item} {table : Toml.Table} (h : decodeTable item = .ok table) :
    (table.map (·.1)).Pairwise (· < ·) := by
  rw [decodeTable.eq_def] at h
  split at h
  · cases h
    exact List.pairwise_singleton _ _
  · rw [Toml.Item.toTable] at h
    obtain ⟨entries, -, rfl⟩ := exists_of_map_ok h
    exact Toml.Table.pairwise_ofList entries
  · cases h

/-- What holds of a list of tables, and is kept when a table is added, holds of those that are read. -/
theorem addRules_induction {P : List (String × Toml.Table) → Prop}
    (hinsert : ∀ rule item table tables, decodeTable item = .ok table → P tables →
      P (insertTable rule table tables))
    {tables added : List (String × Toml.Table)} {entries : List (Toml.Key × Toml.Item)}
    (h : addRules tables entries = .ok added) (htables : P tables) : P added := by
  induction entries generalizing tables with
  | nil => cases h; exact htables
  | cons entry rest ih =>
    obtain ⟨table, htable, hrest⟩ := exists_of_bind_ok h
    exact ih hrest (hinsert _ _ _ _ (ok_of_under htable) htables)

/-- **Configurations that are read are in order.** -/
theorem inOrder_of_ofText {text : List Char} {c : Config} (h : ofText text = .ok c) : c.InOrder := by
  obtain ⟨entries, -, hrules⟩ := exists_document_of_ofText h
  have hadd : addRules [] (rulesOf entries) = .ok c.rules := addRules_rulesOf hrules.2.2
  constructor
  · exact addRules_induction (P := fun tables => (tables.map (·.1)).Pairwise (· < ·))
      (fun _ _ _ _ _ htables => pairwise_insertTable htables) hadd List.Pairwise.nil
  · refine addRules_induction
      (P := fun tables => ∀ entry ∈ tables, (entry.2.map (·.1)).Pairwise (· < ·))
      (fun rule item table tables htable htables entry hentry => ?_) hadd fun _ h => absurd h List.not_mem_nil
    rw [insertTable_eq_putKey] at hentry
    rcases eq_or_mem_of_mem_putKey hentry with rfl | hentry
    · exact pairwise_decodeTable htable
    · exact htables entry hentry

/-- The keys of the table of each rule are in order. -/
theorem InOrder.pairwise_lookup {c : Config} (h : c.InOrder) (rule : String) :
    (((c.rules.lookup rule).getD []).map (·.1)).Pairwise (· < ·) := by
  cases hlookup : c.rules.lookup rule with
  | none => exact List.Pairwise.nil
  | some table =>
    obtain ⟨before, after, hrules, -⟩ := List.lookup_eq_some_iff.1 hlookup
    exact h.keys (rule, table) (by simp [hrules])

/-- Enabling a rule keeps the order. -/
theorem IsAscending.enable {c : Config} (h : c.IsAscending) (rule : String) :
    (c.enable rule).IsAscending :=
  pairwise_insertTable h

/-! ### Configurations that agree -/

/-- The configurations say the same about all rules but one. -/
def AgreesExcept (rule : String) (c d : Config) : Prop :=
  ∀ name, name ≠ rule → c.rules.lookup name = d.rules.lookup name

/-- The settings of a rule are read from its own table. -/
theorem AgreesExcept.ruleSettings_eq {rule : String} {c d : Config} (h : AgreesExcept rule c d)
    {name : String} (hname : name ≠ rule) : c.ruleSettings name = d.ruleSettings name := by
  rw [Config.ruleSettings, Config.ruleSettings, h name hname]

/-- The configurations have tables for the same rules, apart from the one. -/
theorem AgreesExcept.filter_configuredRules {rule : String} {c d : Config} (h : AgreesExcept rule c d)
    (hc : c.IsAscending) (hd : d.IsAscending) :
    c.configuredRules.filter (· ≠ rule) = d.configuredRules.filter (· ≠ rule) := by
  have hmem (config : Config) (name : String) :
      name ∈ config.configuredRules ↔ (config.rules.lookup name).isSome := by
    simp only [List.lookup_isSome_iff, configuredRules, List.mem_map, beq_iff_eq]
    exact exists_congr fun table => and_congr_right fun _ => eq_comm
  refine List.Pairwise.eq_of_mem_iff (hc.filter _) (hd.filter _) fun name => ?_
  rw [List.mem_filter, List.mem_filter, decide_eq_true_iff, hmem, hmem]
  exact and_congr_left fun hname => by rw [h name hname]

end Config

end SourceLint
