import SourceLint.Proofs.Settings.Fields

/-!
# Settings are read key by key

What becomes of a key of a table is decided by its value alone, as if the table had no other key.

* **`TypedEntry.Answers`** — settings that have the values of a table and of nothing else.
* **`TypedEntry.IsLawful`** — the settings of a rule are read stage by stage; `PreferExpect.isLawful`,
  `TestCaseAccessibility.isLawful` and `LegacyCall.isLawful` say so for the rules that there are.
* **`TypedEntry.ReadsKeyByKey`** — a table is read as the tables with one of its keys are.
* **`settings_read_key_by_key`** — this is how the tables of all rules are read.
-/

namespace SourceLint

open SourceLint.Toml RuleSettings

namespace TypedEntry

variable {α : Type} {T : TypedEntry α} {t : Table} (ht : (t.map (·.1)).Pairwise (· < ·))

/-! ### Answers -/

variable (T) in
/-- The settings have the values of the table, and all its keys have a meaning or may be left out. -/
structure Answers (t : Table) (c : α) : Prop where
  enabled : ∀ v, t.get? enabledKey = some v → ∃ b, readEnabled T.entry.identifier v = .ok b
  known : T.entry.description.unknownKeys = .reject →
    ∀ key v, t.get? key = some v → key = enabledKey ∨ ∃ f ∈ T.fields, f.key = key
  read : ∀ f ∈ T.fields, f.IsReadFrom t (f.part T.standard) (f.part c)

/-- The stages together leave settings that have the values of the table. -/
theorem Holds.answers {s : RuleSettings} (hs : Holds T.entry.identifier t s)
    (hknown : T.entry.description.unknownKeys = .reject →
      ∀ key v, t.get? key = some v → key = enabledKey ∨ ∃ f ∈ T.fields, f.key = key)
    {c : α} (hseverity : T.severity c = s.severityOr (T.severity T.standard))
    (hoptions : ∀ f ∈ T.options, f.IsReadFrom t (f.part T.standard) (f.part c)) : T.Answers t c where
  enabled := hs.enabled
  known := hknown
  read f hf := by
    rcases List.mem_cons.1 hf with rfl | hf
    · refine Field.isReadFrom_iff.2 ⟨fun hnone => ?_, fun v hvalue => ?_⟩
      · show T.severity c = T.severity T.standard
        rw [hseverity, severityOr, hs.noSeverity hnone, Option.getD_none]
      · obtain ⟨x, hread, hx⟩ := hs.severity v hvalue
        show readSeverity T.entry.identifier v = .ok (T.severity c)
        rw [hseverity, severityOr, hx, Option.getD_some]
        exact hread
    · exact hoptions f hf

/-! ### One key at a time -/

/-- Nothing is wrong with the keys of a table that is answered. -/
theorem Answers.not_faults {c : α} (h : T.Answers t c) {key : String} {v : Value} (hv : t.get? key = some v)
    (e : SettingsError) : ¬ T.Faults key v e := by
  intro hfault
  cases hfault with
  | enabled hkey hread =>
    obtain ⟨b, hb⟩ := h.enabled v (hkey ▸ hv)
    rw [hread] at hb
    cases hb
  | @field f hf hkey _ hread =>
    have hpart := (Field.isReadFrom_iff.1 (h.read f hf)).2 v (hkey ▸ hv)
    cases hread.symm.trans hpart
  | unknown hpolicy henabled hfields =>
    rcases h.known hpolicy key v hv with hkey | ⟨f, hf, hkey⟩
    · exact henabled hkey
    · exact hfields f hf hkey

/-- Settings that answer a table have the values of its keys, and are the default otherwise. -/
theorem Answers.unique {u : Table} {c d : α} (hc : T.Answers t c) (hd : T.Answers u d)
    (hsame : ∀ f ∈ T.fields, u.get? f.key = t.get? f.key) : c = d := by
  have hparts : ∀ f ∈ T.fields, f.part c = f.part d := by
    intro f hf
    obtain ⟨hcnone, hcsome⟩ := Field.isReadFrom_iff.1 (hc.read f hf)
    obtain ⟨hdnone, hdsome⟩ := Field.isReadFrom_iff.1 (hd.read f hf)
    rw [hsame f hf] at hdnone hdsome
    cases hvalue : t.get? f.key with
    | none => exact (hcnone hvalue).trans (hdnone hvalue).symm
    | some v => exact Except.ok.inj ((hcsome v hvalue).symm.trans (hdsome v hvalue))
  exact T.ext c d (hparts T.severityField List.mem_cons_self)
    fun f hf => hparts f (List.mem_cons_of_mem _ hf)

variable (T) in
/-- Settings are read from those of the configuration as the parts are from the table. -/
def IsLawful : Prop :=
  ∀ (t : Table) (s : RuleSettings), Holds T.entry.identifier t s → T.Tracks t (T.ofSettings s) (T.Answers t)

include ht in
theorem IsLawful.settingsOf_tracks (h : T.IsLawful) : T.Tracks t (T.settingsOf t) (T.Answers t) :=
  .bind (ofTable_tracks ht) fun s hs => h t s hs

/-- A table with one key. -/
theorem IsLawful.settingsOf_singleton (h : T.IsLawful) (key : String) (v : Value) :
    (∀ e, T.Faults key v e → T.settingsOf [(key, v)] = .error e) ∧
      ∀ e, T.settingsOf [(key, v)] = .error e → T.Faults key v e := by
  have hone := h.settingsOf_tracks (t := [(key, v)]) (List.pairwise_singleton _ _)
  have hlookup : ∀ name w, Table.get? [(key, v)] name = some w ↔ (name, w) ∈ [(key, v)] := fun name w =>
    Table.get?_eq_some_iff (List.pairwise_singleton _ _)
  have herror : ∀ e, T.settingsOf [(key, v)] = .error e → T.Faults key v e := by
    intro e he
    obtain ⟨name, w, hw, hfault⟩ := hone.error e he
    obtain ⟨rfl, rfl⟩ := Prod.mk.inj (List.mem_singleton.1 ((hlookup name w).1 hw))
    exact hfault
  refine ⟨fun e he => ?_, herror⟩
  cases hread : T.settingsOf [(key, v)] with
  | error e' => exact congrArg Except.error ((herror e' hread).unique he)
  | ok c => exact absurd he ((hone.ok c hread).not_faults ((hlookup key v).2 List.mem_cons_self) e)

variable (T) in
/-- A table is read key by key: it is accepted if each table with one of its keys is, and otherwise refused
for the reason for which one of these is.  The rule has settings in which each part whose key is present is
the one that the table with this key alone gives, and each other part is the default; no other key of the
table has a say in them. -/
structure ReadsKeyByKey (t : Table) : Prop where
  accepted_iff : (∃ r, T.entry.fromTable t = .ok r) ↔ ∀ entry ∈ t, ∃ r, T.entry.fromTable [entry] = .ok r
  blames : ∀ e, T.entry.fromTable t = .error e → e.rule? = some T.entry.identifier ∧
    ∃ entry ∈ t, e.key? = some entry.1 ∧ T.entry.fromTable [entry] = .error e
  parts : ∀ r, T.entry.fromTable t = .ok r → ∃ c, T.settingsOf t = .ok c ∧ r = T.rule c ∧
    ∀ f ∈ T.fields, (t.get? f.key = none → f.part c = f.part T.standard) ∧
      ∀ v, t.get? f.key = some v → ∃ d, T.settingsOf [(f.key, v)] = .ok d ∧ f.part c = f.part d
  others : ∀ u c d, (u.map (·.1)).Pairwise (· < ·) → (∀ f ∈ T.fields, u.get? f.key = t.get? f.key) →
    T.settingsOf t = .ok c → T.settingsOf u = .ok d → c = d

theorem fromTable_eq_error_iff {u : Table} {e : SettingsError} :
    T.entry.fromTable u = .error e ↔ T.settingsOf u = .error e := by
  rw [T.fromTable_eq]
  constructor
  · exact error_of_map_error
  · intro h
    rw [h]
    rfl

theorem exists_fromTable_iff {u : Table} :
    (∃ r, T.entry.fromTable u = .ok r) ↔ ∃ c, T.settingsOf u = .ok c := by
  rw [T.fromTable_eq]
  constructor
  · rintro ⟨r, hr⟩
    obtain ⟨c, hc, -⟩ := exists_of_map_ok hr
    exact ⟨c, hc⟩
  · rintro ⟨c, hc⟩
    exact ⟨T.rule c, by rw [hc]; rfl⟩

include ht in
theorem IsLawful.readsKeyByKey (h : T.IsLawful) : T.ReadsKeyByKey t where
  accepted_iff := by
    simp only [exists_fromTable_iff]
    constructor
    · rintro ⟨c, hc⟩ ⟨key, v⟩ hentry
      cases hone : T.settingsOf [(key, v)] with
      | ok d => exact ⟨d, rfl⟩
      | error e =>
        have hvalue := (Table.get?_eq_some_iff ht).2 hentry
        have hanswers := (h.settingsOf_tracks ht).ok c hc
        exact absurd ((h.settingsOf_singleton key v).2 e hone) (hanswers.not_faults hvalue e)
    · intro hall
      cases hread : T.settingsOf t with
      | ok c => exact ⟨c, rfl⟩
      | error e =>
        obtain ⟨key, v, hvalue, hfault⟩ := (h.settingsOf_tracks ht).error e hread
        obtain ⟨d, hd⟩ := hall (key, v) ((Table.get?_eq_some_iff ht).1 hvalue)
        cases ((h.settingsOf_singleton key v).1 e hfault).symm.trans hd
  blames e he := by
    obtain ⟨key, v, hvalue, hfault⟩ := (h.settingsOf_tracks ht).error e (fromTable_eq_error_iff.1 he)
    refine ⟨hfault.blames.1, (key, v), (Table.get?_eq_some_iff ht).1 hvalue, hfault.blames.2, ?_⟩
    exact fromTable_eq_error_iff.2 ((h.settingsOf_singleton key v).1 e hfault)
  parts r hr := by
    rw [T.fromTable_eq] at hr
    obtain ⟨c, hc, hrule⟩ := exists_of_map_ok hr
    have hanswers := (h.settingsOf_tracks ht).ok c hc
    refine ⟨c, hc, hrule.symm, fun f hf => ?_⟩
    obtain ⟨hnone, hsome⟩ := Field.isReadFrom_iff.1 (hanswers.read f hf)
    refine ⟨hnone, fun v hvalue => ?_⟩
    cases hone : T.settingsOf [(f.key, v)] with
    | error e =>
      exact absurd ((h.settingsOf_singleton f.key v).2 e hone) (hanswers.not_faults hvalue e)
    | ok d =>
      have hsingle := ((h.settingsOf_tracks (List.pairwise_singleton _ _)).ok d hone).read f hf
      have hread := (Field.isReadFrom_iff.1 hsingle).2 v List.lookup_cons_self
      exact ⟨d, rfl, Except.ok.inj ((hsome v hvalue).symm.trans hread)⟩
  others u c d hu hsame hc hd :=
    ((h.settingsOf_tracks ht).ok c hc).unique ((h.settingsOf_tracks hu).ok d hd) hsame

end TypedEntry

/-! ### The entries for which there are rules -/

section Entries

open TypedEntry

namespace PreferExpect

/-- A prefix must not be empty. -/
def checkPrefix (start : String) : Except SettingsError String :=
  if start == "" then .error (.malformed identifier prefixKey "must not be empty") else .ok start

/-- The prefix. -/
def prefixField : Field PreferExpect where
  key := prefixKey
  Kind := String
  part := (·.bannedPrefix)
  read v := (Field.decoded identifier prefixKey bannedPrefix Value.asString).read v >>= checkPrefix

theorem checkPrefix_blames {start : String} {e : SettingsError} (h : checkPrefix start = .error e) :
    ∃ message, e = .malformed identifier prefixKey message := by
  rw [checkPrefix] at h
  split at h
  · exact ⟨_, (Except.error.inj h).symm⟩
  · cases h

/-- The entry for calls of assertion functions. -/
def typedEntry : TypedEntry PreferExpect where
  entry := entry
  ofSettings := ofSettings
  rule := rule
  standard := standard
  severity := (·.severity)
  options := [prefixField]
  build_eq _ := rfl
  standard_eq := rfl
  ext := by
    rintro ⟨severity, start⟩ ⟨severity', start'⟩ hseverity hoptions
    obtain rfl : severity = severity' := hseverity
    obtain rfl : start = start' := hoptions prefixField List.mem_cons_self
    rfl
  nodup_keys := by decide
  blames f hf v e h := by
    obtain rfl := List.mem_singleton.1 hf
    rcases exists_of_bind_error h with hdecode | ⟨start, -, hcheck⟩
    · exact Field.decoded_blames hdecode
    · exact checkPrefix_blames hcheck

theorem isLawful : typedEntry.IsLawful := by
  intro t s hs
  refine .bind (checkKeys_tracks hs) fun _ hknown => ?_
  refine .bind (getOr_tracks hs (f := prefixField) List.mem_cons_self standard.bannedPrefix ?_)
    fun start hstart => ?_
  · intro v refusal h
    show (Field.decoded _ _ _ _).read v >>= _ = _
    rw [Field.read_decoded_of_error _ _ _ v refusal h]
    rfl
  -- the prefix is empty only if there is a value for it
  · have hread : ∀ v, t.get? prefixKey = some v → prefixField.read v = checkPrefix start := by
      intro v hvalue
      show (v.asString.mapError _ : Except SettingsError String) >>= _ = _
      rw [hstart.2 v hvalue]
      rfl
    split
    · rename_i hempty
      cases hvalue : t.get? prefixKey with
      | none =>
        rw [hstart.1 hvalue] at hempty
        exact absurd hempty (by decide)
      | some v =>
        have hfield : prefixField ∈ typedEntry.fields := List.mem_cons_of_mem _ List.mem_cons_self
        exact .fault hvalue (.field hfield rfl ((hread v hvalue).trans (if_pos hempty)))
    · rename_i hempty
      refine .result (hs.answers hknown rfl fun f hf => ?_)
      obtain rfl := List.mem_singleton.1 hf
      exact Field.isReadFrom_iff.2 ⟨hstart.1, fun v hvalue => (hread v hvalue).trans (if_neg hempty)⟩

end PreferExpect

namespace TestCaseAccessibility

/-- The allowed prefixes, the traits of test cases, and whether test cases are left out by their names. -/
def optionFields : List (Field TestCaseAccessibility) :=
  [.decoded identifier prefixesKey (·.allowedPrefixes) Value.asStringSet,
    .decoded identifier parentsKey (·.parentTypes) Value.asStringSet,
    .decoded identifier exemptKey (·.exemptsPrefixedTypes) Value.asBool]

theorem forall_mem_optionFields {P : Field TestCaseAccessibility → Prop} :
    (∀ f ∈ optionFields, P f) ↔ P (.decoded identifier prefixesKey (·.allowedPrefixes) Value.asStringSet) ∧
      P (.decoded identifier parentsKey (·.parentTypes) Value.asStringSet) ∧
      P (.decoded identifier exemptKey (·.exemptsPrefixedTypes) Value.asBool) := by
  simp only [optionFields, List.forall_mem_cons, List.not_mem_nil, false_imp_iff, implies_true, and_true]

/-- The entry for members of test cases. -/
def typedEntry : TypedEntry TestCaseAccessibility where
  entry := entry
  ofSettings := ofSettings
  rule := rule
  standard := standard
  severity := (·.severity)
  options := optionFields
  build_eq _ := rfl
  standard_eq := rfl
  ext := by
    rintro ⟨severity, prefixes, parents, exempts⟩ ⟨severity', prefixes', parents', exempts'⟩ hseverity hoptions
    obtain rfl : severity = severity' := hseverity
    obtain ⟨hprefixes, hparents, hexempts⟩ := forall_mem_optionFields.1 hoptions
    obtain rfl : prefixes = prefixes' := hprefixes
    obtain rfl : parents = parents' := hparents
    obtain rfl : exempts = exempts' := hexempts
    rfl
  nodup_keys := by decide
  blames := forall_mem_optionFields.2
    ⟨fun _ _ => Field.decoded_blames, fun _ _ => Field.decoded_blames, fun _ _ => Field.decoded_blames⟩

theorem isLawful : typedEntry.IsLawful := by
  intro t s hs
  obtain ⟨hprefixes, hparents, hexempts⟩ := forall_mem_optionFields.1 fun f hf => (hf : f ∈ typedEntry.options)
  refine .bind (checkKeys_tracks hs) fun _ hknown => ?_
  refine .bind (getOr_tracks hs hprefixes _ (Field.read_decoded_of_error _ _ _)) fun prefixes hp => ?_
  refine .bind (getOr_tracks hs hparents _ (Field.read_decoded_of_error _ _ _)) fun parents hq => ?_
  refine .bind (getOr_tracks hs hexempts _ (Field.read_decoded_of_error _ _ _)) fun exempts he => ?_
  refine .result (hs.answers hknown rfl (forall_mem_optionFields.2 ⟨?_, ?_, ?_⟩))
  · exact Field.isReadFrom_decoded hp
  · exact Field.isReadFrom_decoded hq
  · exact Field.isReadFrom_decoded he

end TestCaseAccessibility

namespace LegacyCall

/-- The names of the functions. -/
def namesField : Field LegacyCall :=
  .decoded identifier namesKey (·.names) Value.asStrings

/-- The entry for calls in legacy modules. -/
def typedEntry : TypedEntry LegacyCall where
  entry := entry
  ofSettings := ofSettings
  rule := rule
  standard := standard
  severity := (·.severity)
  options := [namesField]
  build_eq _ := rfl
  standard_eq := rfl
  ext := by
    rintro ⟨severity, names⟩ ⟨severity', names'⟩ hseverity hoptions
    obtain rfl : severity = severity' := hseverity
    obtain rfl : names = names' := hoptions namesField List.mem_cons_self
    rfl
  nodup_keys := by decide
  blames f hf v e h := by
    obtain rfl := List.mem_singleton.1 hf
    exact Field.decoded_blames h

theorem isLawful : typedEntry.IsLawful := by
  intro t s hs
  refine .bind (checkKeys_tracks hs) fun _ hknown => ?_
  refine .bind (getOr_tracks hs (f := namesField) List.mem_cons_self _ (Field.read_decoded_of_error _ _ _))
    fun names hnames => ?_
  refine .result (hs.answers hknown rfl fun f hf => ?_)
  obtain rfl := List.mem_singleton.1 hf
  exact Field.isReadFrom_decoded hnames

end LegacyCall

/-- **Settings are read key by key.**  For each rule, a table makes a rule if each of its keys does alone.  An
error is about one of the keys, and this key alone leads to it as well.  Otherwise a part of the settings is
what its key makes of it alone, or the default if the table does not have the key. -/
theorem settings_read_key_by_key {t : Table} (ht : (t.map (·.1)).Pairwise (· < ·)) :
    PreferExpect.typedEntry.ReadsKeyByKey t ∧ TestCaseAccessibility.typedEntry.ReadsKeyByKey t ∧
      LegacyCall.typedEntry.ReadsKeyByKey t :=
  ⟨PreferExpect.isLawful.readsKeyByKey ht, TestCaseAccessibility.isLawful.readsKeyByKey ht,
    LegacyCall.isLawful.readsKeyByKey ht⟩

/-- A table with an option that one rule has, another refuses and the third passes over. -/
def prefixTable : Table :=
  [("banned_prefix", .scalar (.string "check_")), ("enabled", .scalar (.boolean false)),
    ("severity", .scalar (.string "error"))]

theorem settings_read_key_by_key_prefixTable :
    (prefixTable.map (·.1)).Pairwise (· < ·) ∧
      PreferExpect.typedEntry.ReadsKeyByKey prefixTable ∧
      TestCaseAccessibility.typedEntry.ReadsKeyByKey prefixTable ∧
      LegacyCall.typedEntry.ReadsKeyByKey prefixTable ∧
      PreferExpect.typedEntry.settingsOf prefixTable = .ok ⟨.error, "check_"⟩ ∧
      TestCaseAccessibility.typedEntry.settingsOf prefixTable =
        .error (.unknownOption "test-case-accessibility" "banned_prefix") ∧
      LegacyCall.typedEntry.settingsOf prefixTable = .ok ⟨.error, ["fetch"]⟩ := by
  have hsorted : (prefixTable.map (·.1)).Pairwise (· < ·) := by decide
  obtain ⟨hprefer, haccess, hlegacy⟩ := settings_read_key_by_key hsorted
  exact ⟨hsorted, hprefer, haccess, hlegacy, rfl, rfl, rfl⟩

end Entries

end SourceLint
