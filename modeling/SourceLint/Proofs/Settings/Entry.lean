import SourceLint.Proofs.Settings.Configured

/-!
# Another value for a rule

The settings of the rules are kept apart from each other, but only if there is a table for each.  A text
becomes a configuration with another value for one rule as well if this value can be kept as a table; the
rest of the configuration stays as it was.  Any other value makes the whole text unusable.

* **`SetsRule`** — a document has a given value for a rule and is like another one in all else.
* **`Toml.Item.IsNoTable`**, **`Toml.Item.IsOrdinaryTable`** — values that are no tables, and values that are.
* **`Config.ofText_setsRule`** — what becomes of the configuration.
* **`Config.refused_for_one_rule`** — a text that is refused because of a single rule.
-/

namespace SourceLint

open Toml

/-! ### Tables and other values -/

/-- The part is a list or a single value, but no date. -/
def Toml.Item.IsNoTable : Item → Prop
  | .scalar (.datetime _) _ | .table _ _ _ => False
  | .scalar _ _ | .array _ _ | .tables _ _ => True

/-- The part is a table in which no other table could be a date. -/
def Toml.Item.IsOrdinaryTable : Item → Prop
  | .table _ entries _ => ∀ e ∈ entries, e.2.Ordinary
  | .scalar _ _ | .array _ _ | .tables _ _ => False

theorem Toml.Item.IsNoTable.decodeTable_eq {item : Item} (h : item.IsNoTable) :
    Config.decodeTable item = item.unlike "a map" := by
  cases item with
  | scalar s stretch =>
    cases s with
    | datetime => exact h.elim
    | string | integer | float | boolean => rfl
  | array | tables => rfl
  | table => exact h.elim

theorem Toml.Item.IsOrdinaryTable.exists_decodeTable {item : Item} (h : item.IsOrdinaryTable) :
    ∃ table, Config.decodeTable item = .ok table := by
  cases item with
  | table form entries stretch => exact exists_toTable fun e he => (h e he).exists_toValue
  | scalar | array | tables => exact h.elim

/-! ### Documents that agree -/

/-- The second document has the part at the name of the rule.  Apart from places and from the order of its
keys and of its rules, all else in it is as it is in the first one. -/
structure SetsRule (rule : String) (item : Item) (entries changed : List (Key × Item)) : Prop where
  outside : ∀ name, name ≠ "rules" →
    (entryNamed? name entries).map Item.bare = (entryNamed? name changed).map Item.bare
  value : entryNamed? rule (Config.rulesOf changed) = some item
  others : ∀ name, name ≠ rule →
    (entryNamed? name (Config.rulesOf entries)).map Item.bare =
      (entryNamed? name (Config.rulesOf changed)).map Item.bare

namespace Config

variable {rule : String} {item : Item} {entries changed : List (Key × Item)} {c c' : Config}

/-- If the entry for the rules is refused and is a table, then one of the rules is to blame. -/
theorem failsAt_rulesOf {reason : String} (hentries : EntriesOnce entries)
    (hvalue : entryNamed? rule (rulesOf entries) = some item)
    (h : FailsAt decodeRules "rules" entries reason) :
    ∃ name, FailsAt decodeRule name (rulesOf entries) reason := by
  have hinner := (entriesOnce_rulesOf hentries).names
  obtain ⟨rules, e, hrules, hdecode, rfl⟩ := h
  rw [rulesOf, hrules] at hvalue hinner ⊢
  cases rules with
  | table form inner stretch => exact failsAt_of_addRules hinner hdecode
  | scalar | array | tables => cases hvalue

section Change

variable (hset : SetsRule rule item entries changed) (hentries : EntriesOnce entries)
  (hchanged : EntriesOnce changed) (hc : ofDocument entries = .ok c)

include hset hentries hchanged hc

/-- What can be decoded of the changed document is the table of the rule and what there was before. -/
theorem agrees_of_setsRule (hc' : ofDocument changed = .ok c') :
    (∃ table, decodeTable item = .ok table ∧ c'.rules.lookup rule = some table) ∧
      c'.failOn = c.failOn ∧ c'.files = c.files ∧ c.AgreesExcept rule c' := by
  obtain ⟨hfailOn, hfiles, hrules⟩ := readOr_of_addKeys hentries.names hc
  obtain ⟨hfailOn', hfiles', hrules'⟩ := readOr_of_addKeys hchanged.names hc'
  have htables := readOr_of_addRules (entriesOnce_rulesOf hentries).names (addRules_rulesOf hrules)
  have htables' := readOr_of_addRules (entriesOnce_rulesOf hchanged).names (addRules_rulesOf hrules')
  refine ⟨?_, ?_, ?_, fun name hname => ?_⟩
  · have hrule := htables' rule
    rw [hset.value] at hrule
    obtain ⟨table, htable, hlookup⟩ := exists_of_map_ok hrule
    exact ⟨table, htable, hlookup.symm⟩
  · have hread := placeless_decodeFailOn.readOr_eq_ok (hset.outside "fail_on" (by decide)) hfailOn
    exact Except.ok.inj (hfailOn'.symm.trans hread)
  · have hread := placeless_decodeFiles.readOr_eq_ok (hset.outside "analyzer" (by decide)) hfiles
    exact Except.ok.inj (hfiles'.symm.trans hread)
  · have hread := placeless_decodeRule.readOr_eq_ok (hset.others name hname) (htables name)
    exact Except.ok.inj (hread.symm.trans (htables' name))

/-- If the changed document is refused, then because of the part for the rule: whatever else stands in it
stood in the first document, too. -/
theorem exists_error_of_setsRule {e : TomlError} (he : ofDocument changed = .error e) :
    ∃ inner, decodeTable item = .error inner ∧ inner.message = e.message := by
  obtain ⟨hfailOn, hfiles, hrules⟩ := readOr_of_addKeys hentries.names hc
  rcases failsAt_of_addKeys hchanged.names he with hfails | hfails | hfails
  · have hread := placeless_decodeFailOn.readOr_eq_ok (hset.outside "fail_on" (by decide)) hfailOn
    exact absurd hfails (not_failsAt_of_readOr hread)
  · have hread := placeless_decodeFiles.readOr_eq_ok (hset.outside "analyzer" (by decide)) hfiles
    exact absurd hfails (not_failsAt_of_readOr hread)
  · -- Some table of a rule is refused.  That of another rule stands in the first document, too, where it
    -- was read.
    obtain ⟨name, hfails⟩ := failsAt_rulesOf hchanged hset.value hfails
    by_cases hname : name = rule
    · subst hname
      obtain ⟨found, inner, hfound, hdecode, hmessage⟩ := hfails
      obtain rfl : item = found := Option.some.inj (hset.value.symm.trans hfound)
      exact ⟨inner, error_of_map_error hdecode, hmessage⟩
    · have htables := readOr_of_addRules (entriesOnce_rulesOf hentries).names (addRules_rulesOf hrules) name
      have hread := placeless_decodeRule.readOr_eq_ok (hset.others name hname) htables
      exact absurd hfails (not_failsAt_of_readOr hread)

/-- A part that can be kept as a table is kept, next to what there was before. -/
theorem ofDocument_of_setsRule {table : Table} (htable : decodeTable item = .ok table) :
    ∃ c', ofDocument changed = .ok c' ∧ c'.rules.lookup rule = some table ∧
      c'.failOn = c.failOn ∧ c'.files = c.files ∧ c.AgreesExcept rule c' := by
  cases hread : ofDocument changed with
  | ok c' =>
    obtain ⟨⟨found, hfound, hlookup⟩, hsame⟩ := agrees_of_setsRule hset hentries hchanged hc hread
    cases htable.symm.trans hfound
    exact ⟨c', rfl, hlookup, hsame⟩
  | error e =>
    obtain ⟨inner, hinner, -⟩ := exists_error_of_setsRule hset hentries hchanged hc hread
    cases htable.symm.trans hinner

/-- A part that cannot is the end of the whole document. -/
theorem ofDocument_error_of_setsRule {inner : TomlError} (hinner : decodeTable item = .error inner) :
    ∃ e, ofDocument changed = .error e ∧ e.message = inner.message := by
  cases hread : ofDocument changed with
  | ok c' =>
    obtain ⟨⟨found, hfound, -⟩, -⟩ := agrees_of_setsRule hset hentries hchanged hc hread
    cases hinner.symm.trans hfound
  | error e =>
    obtain ⟨found, hfound, hmessage⟩ := exists_error_of_setsRule hset hentries hchanged hc hread
    cases hinner.symm.trans hfound
    exact ⟨e, rfl, hmessage.symm⟩

end Change

/-! ### Texts -/

/-- **A value for one rule is kept if it is a table, and otherwise nothing is read at all.**  Take a text
that is a configuration, and one that differs from it in the value of a single rule.  If this value can be
kept as a table, then the second text is a configuration as well: with this table for the rule, and with
everything else as in the first one, so that only this rule can be affected.  If not, then the second text is
no configuration, for the reason why the value is no table.  Tables can be kept whatever they say, as long as
none further inside could be a date; lists, texts, numbers and truth values cannot. -/
theorem ofText_setsRule {text changedText : List Char} (hc : ofText text = .ok c)
    (hentries : documentOf text = .ok entries) (hchanged : documentOf changedText = .ok changed)
    (hset : SetsRule rule item entries changed) :
    (∀ table, decodeTable item = .ok table → ∃ c', ofText changedText = .ok c' ∧
      c'.rules.lookup rule = some table ∧ c'.failOn = c.failOn ∧ c'.files = c.files ∧
      c.AgreesExcept rule c' ∧
      ∀ e : RuleEntry, e.identifier ≠ rule → RuleSet.ofEntry c' e = RuleSet.ofEntry c e) ∧
    (∀ inner, decodeTable item = .error inner → ∃ e : TomlError, e.message = inner.message ∧
      ofText changedText = .error (.unparsable (e.render changedText))) ∧
    (item.IsOrdinaryTable → ∃ c', ofText changedText = .ok c') ∧
    (item.IsNoTable → ∃ e : TomlError, e.message = (Data.Mismatch.invalidType item.found "a map").message ∧
      ofText changedText = .error (.unparsable (e.render changedText))) := by
  have hfirst : ofDocument entries = .ok c := ofDocument_of_ofText hentries hc
  have honce : EntriesOnce entries := entriesOnce_documentOf hentries
  have hchangedOnce : EntriesOnce changed := entriesOnce_documentOf hchanged
  have hrefused : ∀ inner, decodeTable item = .error inner → ∃ e : TomlError,
      e.message = inner.message ∧ ofText changedText = .error (.unparsable (e.render changedText)) := by
    intro inner hinner
    obtain ⟨e, he, hmessage⟩ := ofDocument_error_of_setsRule hset honce hchangedOnce hfirst hinner
    exact ⟨e, hmessage, ofText_of_ofDocument_error hchanged he⟩
  refine ⟨fun table htable => ?_, hrefused, fun hordinary => ?_, fun hnone => ?_⟩
  · obtain ⟨c', hread, hlookup, hfailOn, hfiles, hagree⟩ :=
      ofDocument_of_setsRule hset honce hchangedOnce hfirst htable
    refine ⟨c', ofText_of_ofDocument hchanged hread, hlookup, hfailOn, hfiles, hagree, fun e he => ?_⟩
    exact (RuleSet.ofEntry_eq_of_agreesExcept hagree he).symm
  · obtain ⟨table, htable⟩ := hordinary.exists_decodeTable
    obtain ⟨c', hread, -⟩ := ofDocument_of_setsRule hset honce hchangedOnce hfirst htable
    exact ⟨c', ofText_of_ofDocument hchanged hread⟩
  · exact hrefused _ hnone.decodeTable_eq

/-! ### A text that is refused because of one rule -/

/-- A table that enables a rule, under a header of its own at an offset. -/
def enabledAt (start : Nat) : Key × Item :=
  (⟨"test-case-accessibility", ⟨start + 7, start + 30⟩⟩,
    .table .header
      [(⟨"enabled", ⟨start + 32, start + 39⟩⟩, .scalar (.boolean true) ⟨start + 42, start + 46⟩)]
      (some ⟨start, start + 46⟩))

/-- A document with settings for one rule. -/
def oneRule : List (Key × Item) :=
  [(⟨"rules", ⟨1, 6⟩⟩, .table .implied [enabledAt 0] none)]

/-- The document with a part for another rule in front of these settings. -/
def withPart (item : Item) : List (Key × Item) :=
  [(⟨"rules", ⟨1, 6⟩⟩,
    .table .header [(⟨"prefer-expect", ⟨8, 21⟩⟩, item), enabledAt 31] (some ⟨0, 29⟩))]

theorem setsRule_withPart (item : Item) : SetsRule "prefer-expect" item oneRule (withPart item) := by
  refine ⟨fun name hname => ?_, rfl, fun name hname => ?_⟩
  · rw [oneRule, withPart, entryNamed?_cons, entryNamed?_cons, if_neg (Ne.symm hname),
      if_neg (Ne.symm hname)]
  · show (entryNamed? name [enabledAt 0]).map Item.bare =
      (entryNamed? name [(⟨"prefer-expect", ⟨8, 21⟩⟩, item), enabledAt 31]).map Item.bare
    rw [entryNamed?_cons _ ⟨"prefer-expect", _⟩, if_neg (Ne.symm hname), enabledAt, enabledAt,
      entryNamed?_cons, entryNamed?_cons]
    split
    · rfl
    · rfl

/-- A text with settings for one rule. -/
def oneRuleText : List Char :=
  "[rules.test-case-accessibility]\nenabled = true\n".toList

/-- The text with a truth value for another rule. -/
def truthValueText : List Char :=
  "[rules]\nprefer-expect = false\n\n[rules.test-case-accessibility]\nenabled = true\n".toList

theorem documentOf_oneRuleText : documentOf oneRuleText = .ok oneRule := by
  decide +kernel

theorem documentOf_truthValueText :
    documentOf truthValueText = .ok (withPart (.scalar (.boolean false) ⟨24, 29⟩)) := by
  decide +kernel

/-- The settings of the one rule can be used. -/
theorem ofText_oneRuleText : ofText oneRuleText =
    .ok ⟨none, .standard, [("test-case-accessibility", [("enabled", .scalar (.boolean true))])]⟩ := by
  refine ofText_of_ofDocument documentOf_oneRuleText ?_
  have htable : decodeTable (enabledAt 0).2 = .ok [("enabled", .scalar (.boolean true))] := by
    simp only [enabledAt, decodeTable, Item.toTable, Item.toEntries, Item.toValue]
    rfl
  have hrules : decodeRules (.table .implied [enabledAt 0] none) =
      .ok [("test-case-accessibility", [("enabled", .scalar (.boolean true))])] := by
    simp only [decodeRules, addRules, htable]
    rfl
  simp only [oneRule, ofDocument, addKeys, addKey, hrules]
  rfl

/-- A truth value in place of a table is the reason why none of the settings can be used. -/
theorem ofText_setsRule_truthValue : ∃ e : TomlError,
    e.message = (Data.Mismatch.invalidType (.boolean false) "a map").message ∧
      ofText truthValueText = .error (.unparsable (e.render truthValueText)) := by
  obtain ⟨-, -, -, hnone⟩ := ofText_setsRule ofText_oneRuleText documentOf_oneRuleText
    documentOf_truthValueText (setsRule_withPart _)
  exact hnone trivial

/-- Settings that can be used as long as another rule is not mentioned.  The entry for that rule is
malformed, and the whole text is refused. -/
theorem refused_for_one_rule :
    (∃ c, ofText oneRuleText = .ok c) ∧
      (∃ entries changed item, documentOf oneRuleText = .ok entries ∧
        documentOf truthValueText = .ok changed ∧ SetsRule "prefer-expect" item entries changed) ∧
      ¬ ∃ c, ofText truthValueText = .ok c := by
  refine ⟨⟨_, ofText_oneRuleText⟩, ?_, ?_⟩
  · exact ⟨_, _, _, documentOf_oneRuleText, documentOf_truthValueText, setsRule_withPart _⟩
  · rintro ⟨c, hc⟩
    have hdocument := ofDocument_of_ofText documentOf_truthValueText hc
    cases hdocument

end Config

end SourceLint
