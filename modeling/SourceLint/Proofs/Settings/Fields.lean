import SourceLint.Proofs.Settings.Severities

/-!
# Parts of settings and the keys for them

The table of a rule is looked at in three stages: the keys that every rule has, the question which keys are
known, and the options of the rule.  At each stage it can only be refused for what is wrong with one of its
keys and the value of this key.

* **`Field`**, **`TypedEntry`** — a part of the settings of a rule with the key for it, and an entry with all
  parts of its settings.
* **`TypedEntry.Faults`** — what is wrong with a key and its value; it is one thing at most.
* **`TypedEntry.Tracks`** — a computation that fails with what is wrong with a key of the table, and else says
  something about its result.
* **`TypedEntry.ofTable_tracks`**, **`checkKeys_tracks`**, **`getOr_tracks`** — the three stages.
-/

namespace SourceLint

open SourceLint.Toml RuleSettings

/-- The key that the error is about. -/
def SettingsError.key? : SettingsError → Option String
  | malformed _ key _ | unknownOption _ key => some key
  | unreadable _ _ | unparsable _ | unknownRule _ => none

/-! ### Parts of settings -/

/-- A part of the settings of a rule, and the key under which its value stands. -/
structure Field (α : Type) where
  key : String
  Kind : Type
  /-- The part of the settings. -/
  part : α → Kind
  /-- The part that a value stands for. -/
  read : Value → Except SettingsError Kind

/-- The part is what its key has as a value; if the table does not have the key, it is the default. -/
def Field.IsReadFrom {α : Type} (f : Field α) (t : Table) (default part : f.Kind) : Prop :=
  match t.get? f.key with
  | none => part = default
  | some v => f.read v = .ok part

theorem Field.isReadFrom_iff {α : Type} {f : Field α} {t : Table} {default part : f.Kind} :
    f.IsReadFrom t default part ↔
      (t.get? f.key = none → part = default) ∧ ∀ v, t.get? f.key = some v → f.read v = .ok part := by
  rw [IsReadFrom]
  cases t.get? f.key with
  | none => simp
  | some v => simp

/-- The part that is decoded from a value. -/
def Field.decoded {α β : Type} (rule key : String) (part : α → β) (decode : Value → Except Refusal β) :
    Field α :=
  ⟨key, β, part, fun v => (decode v).mapError fun e => .malformed rule key e.message⟩

/-- An option that is decoded is refused under its key. -/
theorem Field.decoded_blames {α β : Type} {rule key : String} {part : α → β} {decode : Value → Except Refusal β}
    {v : Value} {e : SettingsError} (h : (Field.decoded rule key part decode).read v = .error e) :
    ∃ message, e = .malformed rule key message := by
  change (decode v).mapError _ = _ at h
  cases hdecode : decode v with
  | error refusal =>
    rw [hdecode] at h
    exact ⟨refusal.message, (Except.error.inj h).symm⟩
  | ok b =>
    rw [hdecode] at h
    cases h

theorem Field.read_decoded_of_error {α β : Type} (rule key : String) (part : α → β)
    {decode : Value → Except Refusal β} (v : Value) (refusal : Refusal) (h : decode v = .error refusal) :
    (Field.decoded rule key part decode).read v = .error (.malformed rule key refusal.message) := by
  show (decode v).mapError _ = _
  rw [h]
  rfl

/-- An option that is decoded and then used as it is. -/
theorem Field.isReadFrom_decoded {α β : Type} {rule key : String} {part : α → β}
    {decode : Value → Except Refusal β} {t : Table} {default b : β}
    (h : (t.get? key = none → b = default) ∧ ∀ v, t.get? key = some v → decode v = .ok b) :
    (Field.decoded rule key part decode).IsReadFrom t default b :=
  Field.isReadFrom_iff.2 ⟨h.1, fun v hvalue => mapError_eq_ok_iff.2 (h.2 v hvalue)⟩

/-- An entry, together with the settings of its rule and their parts. -/
structure TypedEntry (α : Type) where
  entry : RuleEntry
  ofSettings : RuleSettings → Except SettingsError α
  rule : α → Rule
  /-- The settings if nothing is set. -/
  standard : α
  severity : α → Severity
  /-- The other parts of the settings. -/
  options : List (Field α)
  build_eq : ∀ s, entry.build s = rule <$> ofSettings s
  standard_eq : entry.standard = rule standard
  ext : ∀ c d, severity c = severity d → (∀ f ∈ options, f.part c = f.part d) → c = d
  nodup_keys : (enabledKey :: severityKey :: options.map (·.key)).Nodup
  blames : ∀ f ∈ options, ∀ v e, f.read v = .error e →
    ∃ message, e = .malformed entry.identifier f.key message

/-- The rule that an entry makes from a table. -/
def RuleEntry.fromTable (e : RuleEntry) (t : Table) : Except SettingsError Rule :=
  ofTable e.identifier t >>= e.build

namespace TypedEntry

variable {α : Type} (T : TypedEntry α)

/-- The settings that a table makes. -/
def settingsOf (t : Table) : Except SettingsError α :=
  ofTable T.entry.identifier t >>= T.ofSettings

/-- The severity as a part of the settings. -/
def severityField : Field α :=
  ⟨severityKey, Severity, T.severity, readSeverity T.entry.identifier⟩

/-- All parts of the settings. -/
def fields : List (Field α) :=
  T.severityField :: T.options

theorem fromTable_eq (t : Table) : T.entry.fromTable t = T.rule <$> T.settingsOf t := by
  rw [RuleEntry.fromTable, settingsOf]
  cases ofTable T.entry.identifier t with
  | error e => rfl
  | ok s => exact T.build_eq s

/-! ### Faults -/

/-- What is wrong with a key and its value: the value does not say whether the rule is enabled, or does not
stand for the part of the settings, or the rule does not know the key and refuses such keys. -/
inductive Faults (key : String) (v : Value) : SettingsError → Prop where
  | enabled (hkey : key = enabledKey) {e : SettingsError}
      (h : readEnabled T.entry.identifier v = .error e) : Faults key v e
  | field {f : Field α} (hf : f ∈ T.fields) (hkey : f.key = key) {e : SettingsError}
      (h : f.read v = .error e) : Faults key v e
  | unknown (hpolicy : T.entry.description.unknownKeys = .reject) (henabled : key ≠ enabledKey)
      (hfields : ∀ f ∈ T.fields, f.key ≠ key) : Faults key v (.unknownOption T.entry.identifier key)

variable {T}

theorem key_ne_enabledKey {f : Field α} (hf : f ∈ T.fields) : f.key ≠ enabledKey := by
  have hkeys := (List.nodup_cons.1 T.nodup_keys).1
  intro h
  exact hkeys (h ▸ List.mem_map.2 ⟨f, hf, rfl⟩ : enabledKey ∈ T.fields.map (·.key))

theorem key_ne_severityKey {f : Field α} (hf : f ∈ T.options) : f.key ≠ severityKey := by
  have hkeys := (List.nodup_cons.1 (List.nodup_cons.1 T.nodup_keys).2).1
  intro h
  exact hkeys (h ▸ List.mem_map.2 ⟨f, hf, rfl⟩)

/-- A fault is reported under the name of the rule and under its key. -/
theorem Faults.blames {key : String} {v : Value} {e : SettingsError} (h : T.Faults key v e) :
    e.rule? = some T.entry.identifier ∧ e.key? = some key := by
  cases h with
  | enabled hkey h =>
    obtain ⟨message, rfl⟩ := readEnabled_eq_error h
    exact ⟨rfl, congrArg some hkey.symm⟩
  | field hf hkey h =>
    subst hkey
    rcases List.mem_cons.1 hf with rfl | hf
    · obtain ⟨message, rfl⟩ := readSeverity_eq_error h
      exact ⟨rfl, rfl⟩
    · obtain ⟨message, rfl⟩ := T.blames _ hf _ _ h
      exact ⟨rfl, rfl⟩
  | unknown => exact ⟨rfl, rfl⟩

/-- One thing at most is wrong with a key and its value. -/
theorem Faults.unique {key : String} {v : Value} {e e' : SettingsError} (h : T.Faults key v e)
    (h' : T.Faults key v e') : e = e' := by
  cases h with
  | enabled hkey h =>
    cases h' with
    | enabled _ h' => exact Except.error.inj (h.symm.trans h')
    | field hf hkey' => exact absurd (hkey'.trans hkey) (key_ne_enabledKey hf)
    | unknown _ henabled => exact absurd hkey henabled
  | @field f hf hkey _ h =>
    cases h' with
    | enabled hkey' => exact absurd (hkey.trans hkey') (key_ne_enabledKey hf)
    | @field g hg hkey' _ h' =>
      have hnodup : (T.fields.map (·.key)).Nodup := (List.nodup_cons.1 T.nodup_keys).2
      obtain rfl : f = g := List.inj_on_of_nodup_map hnodup hf hg (hkey.trans hkey'.symm)
      exact Except.error.inj (h.symm.trans h')
    | unknown _ _ hfields => exact absurd hkey (hfields f hf)
  | unknown _ henabled hfields =>
    cases h' with
    | enabled hkey => exact absurd hkey henabled
    | field hf hkey => exact absurd hkey (hfields _ hf)
    | unknown => rfl

/-! ### Stages of reading -/

/-- The settings are those of a table so far: what all rules have was read, and everything else is still
there. -/
structure Holds (rule : String) (t : Table) (s : RuleSettings) : Prop where
  rule_eq : s.rule = rule
  enabled : ∀ v, t.get? enabledKey = some v → ∃ b, readEnabled rule v = .ok b
  severity : ∀ v, t.get? severityKey = some v → ∃ x, readSeverity rule v = .ok x ∧ s.severity = some x
  noSeverity : t.get? severityKey = none → s.severity = none
  option : ∀ key, key ≠ enabledKey → key ≠ severityKey → s.options.get? key = t.get? key

variable (T) in
/-- The computation fails only with what is wrong with a key of the table, and its results have a property. -/
structure Tracks {β : Type} (t : Table) (x : Except SettingsError β) (P : β → Prop) : Prop where
  error : ∀ e, x = .error e → ∃ key v, t.get? key = some v ∧ T.Faults key v e
  ok : ∀ b, x = .ok b → P b

namespace Tracks

variable {β γ : Type} {t : Table} {P : β → Prop} {Q : γ → Prop}

theorem result {b : β} (h : P b) : T.Tracks t (.ok b) P where
  error e he := by cases he
  ok c hc := Except.ok.inj hc ▸ h

theorem fault {key : String} {v : Value} {e : SettingsError} (hkey : t.get? key = some v)
    (h : T.Faults key v e) : T.Tracks t (.error e : Except SettingsError β) P where
  error e' he' := ⟨key, v, hkey, Except.error.inj he' ▸ h⟩
  ok c hc := by cases hc

theorem bind {x : Except SettingsError β} {f : β → Except SettingsError γ} (hx : T.Tracks t x P)
    (hf : ∀ b, P b → T.Tracks t (f b) Q) : T.Tracks t (x >>= f) Q := by
  cases x with
  | error e =>
    obtain ⟨key, v, hkey, h⟩ := hx.error e rfl
    exact fault hkey h
  | ok b => exact hf b (hx.ok b rfl)

end Tracks

end TypedEntry

/-! ### The keys that all rules have -/

/-- A table has each key once. -/
theorem Toml.Table.get?_eq_some_iff {t : Table} (ht : (t.map (·.1)).Pairwise (· < ·)) {key : String}
    {v : Value} : t.get? key = some v ↔ (key, v) ∈ t := by
  induction t with
  | nil => simp [Table.get?]
  | cons entry rest ih =>
    obtain ⟨hfirst, hrest⟩ := List.pairwise_cons.1 ht
    rw [Table.get?, lookup_cons_ite, List.mem_cons]
    by_cases hkey : key = entry.1
    · have hnew : (key, v) ∉ rest := fun hmem =>
        (hfirst key (List.mem_map.2 ⟨_, hmem, rfl⟩)).ne hkey.symm
      subst hkey
      simp [Prod.ext_iff, hnew, eq_comm]
    · have hne : (key, v) ≠ entry := fun h => hkey (congrArg Prod.fst h)
      simp only [if_neg hkey, hne, false_or]
      exact ih hrest

namespace RuleSettings

theorem exists_addKey_of_addKeys {s r : RuleSettings} {entries : List (String × Value)}
    (h : s.addKeys entries = .ok r) {entry : String × Value} (hentry : entry ∈ entries) :
    ∃ u v : RuleSettings, u.rule = s.rule ∧ u.addKey entry.1 entry.2 = .ok v := by
  induction entries generalizing s with
  | nil => cases hentry
  | cons first rest ih =>
    obtain ⟨u, hkey, hrest⟩ := exists_of_bind_ok h
    rcases List.mem_cons.1 hentry with rfl | hentry
    · exact ⟨s, u, rfl, hkey⟩
    · obtain ⟨w, v, hw, hv⟩ := ih hrest hentry
      exact ⟨w, v, hw.trans (rule_addKey hkey), hv⟩

/-- A key that not every rule has becomes an option; nothing else does. -/
theorem get?_options_addKey {s r : RuleSettings} {key : String} {v : Value} (h : s.addKey key v = .ok r)
    {name : String} (henabled : name ≠ enabledKey) (hseverity : name ≠ severityKey) :
    r.options.get? name = if name = key then some v else s.options.get? name := by
  rw [addKey] at h
  split at h
  · rename_i hkey
    obtain ⟨b, -, hb⟩ := exists_of_bind_ok h
    cases hb
    rw [if_neg fun hname => henabled (hname.trans hkey)]
    rfl
  · split at h
    · rename_i hkey
      obtain ⟨x, -, hx⟩ := exists_of_bind_ok h
      cases hx
      rw [if_neg fun hname => hseverity (hname.trans hkey)]
      rfl
    · cases h
      show (s.options.insert key v).lookup name = _
      rw [Table.insert_eq_putKey, lookup_putKey]
      rfl

theorem get?_options_addKeys {s r : RuleSettings} {t : Table} (ht : (t.map (·.1)).Pairwise (· < ·))
    (h : s.addKeys t = .ok r) {name : String} (henabled : name ≠ enabledKey)
    (hseverity : name ≠ severityKey) :
    r.options.get? name = (t.get? name).or (s.options.get? name) := by
  induction t generalizing s with
  | nil =>
    cases h
    rfl
  | cons entry rest ih =>
    obtain ⟨hfirst, hrest⟩ := List.pairwise_cons.1 ht
    obtain ⟨u, hkey, hlater⟩ := exists_of_bind_ok h
    rw [ih hrest hlater, get?_options_addKey hkey henabled hseverity]
    show _ = (List.lookup name (entry :: rest)).or _
    rw [lookup_cons_ite]
    by_cases hname : name = entry.1
    · have hnone : Table.get? rest name = none := by
        refine Option.eq_none_iff_forall_ne_some.2 fun v hv => ?_
        have hmem := (Table.get?_eq_some_iff hrest).1 hv
        exact (hfirst name (List.mem_map.2 ⟨_, hmem, rfl⟩)).ne hname.symm
      rw [if_pos hname, if_pos hname, hnone]
      rfl
    · rw [if_neg hname, if_neg hname]
      rfl

end RuleSettings

namespace TypedEntry

variable {α : Type} {T : TypedEntry α} {t : Table} (ht : (t.map (·.1)).Pairwise (· < ·))

include ht in
/-- The first stage: the keys that all rules have. -/
theorem ofTable_tracks : T.Tracks t (ofTable T.entry.identifier t) (Holds T.entry.identifier t) where
  error e he := by
    obtain ⟨⟨key, v⟩, hmem, u, hu, hfails⟩ := exists_addKey_of_addKeys_error he
    have hrule : u.rule = T.entry.identifier := hu
    refine ⟨key, v, (Table.get?_eq_some_iff ht).2 hmem, ?_⟩
    rcases refused_of_addKey hfails with ⟨hkey, hread⟩ | ⟨hkey, hread⟩
    · rw [hrule] at hread
      exact .enabled hkey hread
    · rw [hrule] at hread
      exact .field (f := T.severityField) List.mem_cons_self hkey.symm hread
  ok s hs := by
    have hseverity : s.severity = severityIn? t ∧ NamesSeverity t := by
      have hnames := namesSeverity_of_ofTable ht hs
      rw [ofTable_eq_setSeverity _ ht hnames] at hs
      obtain ⟨u, -, rfl⟩ := exists_of_map_ok hs
      exact ⟨rfl, hnames⟩
    refine ⟨rule_ofTable hs, fun v hv => ?_, fun v hv => ?_, fun hnone => ?_, fun key henabled hkey => ?_⟩
    · obtain ⟨u, w, hu, hadd⟩ := exists_addKey_of_addKeys hs ((Table.get?_eq_some_iff ht).1 hv)
      have hrule : u.rule = T.entry.identifier := hu
      rw [addKey, if_pos rfl, hrule] at hadd
      obtain ⟨b, hb, -⟩ := exists_of_bind_ok hadd
      exact ⟨b, hb⟩
    · obtain ⟨x, hx⟩ := Option.isSome_iff_exists.1 (hseverity.2 v hv)
      refine ⟨x, readSeverity_eq_ok_iff.2 hx, ?_⟩
      rw [hseverity.1, severityIn?, hv, Option.bind_some, hx]
    · rw [hseverity.1, severityIn?, hnone, Option.bind_none]
    · rw [get?_options_addKeys ht hs henabled hkey]
      exact Option.or_none

/-! ### Keys that are known, and options -/

theorem isKnown_iff {key : String} :
    isKnown (T.options.map (·.key)) key = true ↔ key = enabledKey ∨ ∃ f ∈ T.fields, f.key = key := by
  simp only [isKnown, fields, severityField, Bool.or_eq_true, List.contains_iff_mem, List.mem_map, beq_iff_eq,
    List.exists_mem_cons_iff, @eq_comm _ severityKey key]
  constructor
  · rintro ((hoption | henabled) | hseverity)
    · exact .inr (.inr hoption)
    · exact .inl henabled
    · exact .inr (.inl hseverity)
  · rintro (henabled | hseverity | hoption)
    · exact .inl (.inr henabled)
    · exact .inr hseverity
    · exact .inl (.inl hoption)

/-- The second stage: the question which keys are known. -/
theorem checkKeys_tracks {s : RuleSettings} (hs : Holds T.entry.identifier t s) :
    T.Tracks t (s.checkKeys (T.options.map (·.key)) T.entry.description.unknownKeys) fun _ =>
      T.entry.description.unknownKeys = .reject →
        ∀ key v, t.get? key = some v → key = enabledKey ∨ ∃ f ∈ T.fields, f.key = key := by
  cases hpolicy : T.entry.description.unknownKeys with
  | ignore => exact .result fun h => UnknownKeys.noConfusion h
  | reject =>
    rw [checkKeys]
    split
    · rename_i key hfind
      obtain ⟨entry, hmem, rfl⟩ := List.mem_map.1 (List.mem_of_find?_eq_some hfind)
      have hunknown : ¬ (entry.1 = enabledKey ∨ ∃ f ∈ T.fields, f.key = entry.1) := by
        rw [← isKnown_iff]
        simpa using List.find?_some hfind
      rw [not_or, not_exists] at hunknown
      have hfields : ∀ f ∈ T.fields, f.key ≠ entry.1 := fun f hf h => hunknown.2 f ⟨hf, h⟩
      obtain ⟨v, hv⟩ : ∃ v, s.options.get? entry.1 = some v :=
        Option.isSome_iff_exists.1 (List.lookup_isSome_iff.2 ⟨entry, hmem, beq_self_eq_true _⟩)
      rw [hs.option entry.1 hunknown.1 (hfields T.severityField List.mem_cons_self).symm] at hv
      rw [hs.rule_eq]
      exact .fault hv (.unknown hpolicy hunknown.1 hfields)
    · rename_i hfind
      refine .result fun _ key v hv => ?_
      by_cases henabled : key = enabledKey
      · exact .inl henabled
      · by_cases hseverity : key = severityKey
        · exact .inr ⟨T.severityField, List.mem_cons_self, hseverity.symm⟩
        · rw [← hs.option key henabled hseverity] at hv
          obtain ⟨before, after, happend, -⟩ := List.lookup_eq_some_iff.1 hv
          have hmem : key ∈ s.options.keys := by
            rw [happend, Table.keys, List.map_append, List.map_cons]
            exact List.mem_append_right _ List.mem_cons_self
          exact isKnown_iff.1 (by simpa using List.find?_eq_none.1 hfind key hmem)

/-- The third stage: an option is decoded, if there is a value for it. -/
theorem getOr_tracks {s : RuleSettings} (hs : Holds T.entry.identifier t s) {f : Field α}
    (hf : f ∈ T.options) {β : Type} {decode : Value → Except Refusal β} (default : β)
    (hread : ∀ v refusal, decode v = .error refusal →
      f.read v = .error (.malformed T.entry.identifier f.key refusal.message)) :
    T.Tracks t (s.getOr f.key decode default) fun b =>
      (t.get? f.key = none → b = default) ∧ ∀ v, t.get? f.key = some v → decode v = .ok b := by
  have hfields : f ∈ T.fields := List.mem_cons_of_mem _ hf
  have hoption := hs.option f.key (key_ne_enabledKey hfields) (key_ne_severityKey hf)
  rw [getOr, RuleSettings.get, hoption]
  cases hvalue : t.get? f.key with
  | none => exact .result ⟨fun _ => rfl, fun v hv => by cases hv⟩
  | some v =>
    dsimp only
    cases hdecode : decode v with
    | error refusal =>
      rw [hs.rule_eq]
      exact .fault hvalue (.field hfields rfl (hread v refusal hdecode))
    | ok b =>
      refine .result ⟨(fun h => by cases h), fun w hw => ?_⟩
      rw [← Option.some.inj hw]
      exact hdecode

end TypedEntry

end SourceLint
