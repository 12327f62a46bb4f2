import SourceLint.Proofs.Data.Ascending
import SourceLint.Proofs.Toml.Keys
import SourceLint.Proofs.Toml.Places

/-!
# What a configuration reads of a document

A document is decoded one key after the other.  As no key stands there twice, this comes down to asking for
each key that has a meaning.

* **`readOr`** — what is decoded from a part, or a default if there is no such part.
* **`Config.readOr_of_addKeys`**, **`Config.readOr_of_addFileKeys`**, **`Config.readOr_of_addRules`** — what a
  configuration says, what a description of files says, and what the table of each rule is.
* **`FailsAt`**, **`Config.failsAt_of_addKeys`**, **`Config.failsAt_of_addRules`** — the parts that are to
  blame for errors.
* **`Config.ofDocument_eq_ok_iff`** — what a configuration says, and that it is one, key by key.
-/

namespace SourceLint

open Toml

variable {α : Type} {decode : Item → Decoded α} {start middle a : α} {key : Key} {item : Item}
  {entries rest : List (Key × Item)} {name : String}

/-! ### Parts that may be missing -/

theorem ok_of_under {result : Decoded α} (h : result.under key item = .ok a) : result = .ok a := by
  cases result with
  | error e => cases h
  | ok b => exact h

/-- An error under a key has the wording of the error itself. -/
theorem exists_of_under_error {result : Decoded α} {e : TomlError} (h : result.under key item = .error e) :
    ∃ inner, result = .error inner ∧ inner.message = e.message := by
  cases result with
  | ok a => cases h
  | error inner =>
    cases h
    exact ⟨inner, rfl, rfl⟩

/-- What is decoded from a part, or the default if there is no part. -/
def readOr (decode : Item → Decoded α) (default : α) (item? : Option Item) : Decoded α :=
  item?.elim (.ok default) decode

/-- Reading one key after the other, when the first one is not there again. -/
theorem readOr_cons (hnew : key.name ∉ rest.map (·.1.name))
    (hfirst : readOr decode start (if key.name = name then some item else none) = .ok middle)
    (hrest : readOr decode middle (entryNamed? name rest) = .ok a) :
    readOr decode start (entryNamed? name ((key, item) :: rest)) = .ok a := by
  rw [entryNamed?_cons]
  by_cases hname : key.name = name
  · rw [if_pos hname] at hfirst ⊢
    rw [entryNamed?_eq_none_iff.2 (hname ▸ hnew)] at hrest
    obtain rfl : middle = a := Except.ok.inj hrest
    exact hfirst
  · rw [if_neg hname] at hfirst ⊢
    obtain rfl : start = middle := Except.ok.inj hfirst
    exact hrest

section Steps

variable {σ : Type} {step : σ → Key → Item → Decoded σ} {before after : σ}

/-- Where each entry changes a part of what was read only if it has the name, the entry with this name is
read. -/
theorem readOr_of_foldlM (part : σ → α)
    (hstep : ∀ c d key item, step c key item = .ok d →
      readOr decode (part c) (if key.name = name then some item else none) = .ok (part d))
    (hnames : (entries.map (·.1.name)).Nodup)
    (h : entries.foldlM (fun c entry => step c entry.1 entry.2) before = .ok after) :
    readOr decode (part before) (entryNamed? name entries) = .ok (part after) := by
  induction entries generalizing before with
  | nil =>
    cases h
    rfl
  | cons entry rest ih =>
    obtain ⟨hnew, hnames⟩ := List.nodup_cons.1 hnames
    rw [List.foldlM_cons] at h
    obtain ⟨next, hnext, hrest⟩ := exists_of_bind_ok h
    exact readOr_cons hnew (hstep _ _ _ _ hnext) (ih hnames hrest)

/-- Entries are refused because of one of them. -/
theorem exists_of_foldlM_error {e : TomlError}
    (h : entries.foldlM (fun c entry => step c entry.1 entry.2) before = .error e) :
    ∃ next, ∃ entry ∈ entries, step next entry.1 entry.2 = .error e := by
  induction entries generalizing before with
  | nil => cases h
  | cons entry rest ih =>
    rw [List.foldlM_cons] at h
    rcases exists_of_bind_error h with hfirst | ⟨next, -, hrest⟩
    · exact ⟨before, entry, List.mem_cons_self, hfirst⟩
    · obtain ⟨last, blamed, hmem, hblamed⟩ := ih hrest
      exact ⟨last, blamed, List.mem_cons_of_mem entry hmem, hblamed⟩

end Steps

/-- The same is read from parts that differ in their places only. -/
theorem Toml.Placeless.readOr_eq_ok (h : Placeless decode) {item? other? : Option Item}
    (hbare : item?.map Item.bare = other?.map Item.bare) (ha : readOr decode start item? = .ok a) :
    readOr decode start other? = .ok a := by
  cases item? with
  | none =>
    obtain rfl : other? = none := Option.map_eq_none_iff.1 hbare.symm
    exact ha
  | some item =>
    obtain ⟨other, rfl, hother⟩ := Option.map_eq_some_iff.1 hbare.symm
    exact h.eq_ok hother.symm ha

/-- What stands at the name cannot be decoded, for the given reason. -/
def FailsAt (decode : Item → Decoded α) (name : String) (entries : List (Key × Item)) (reason : String) :
    Prop :=
  ∃ item e, entryNamed? name entries = some item ∧ decode item = .error e ∧ e.message = reason

theorem failsAt_of_mem (hnames : (entries.map (·.1.name)).Nodup) (hmem : (key, item) ∈ entries)
    (hname : key.name = name) {e : TomlError} (h : (decode item).under key item = .error e) :
    FailsAt decode name entries e.message := by
  obtain ⟨inner, hinner, hmessage⟩ := exists_of_under_error h
  exact ⟨item, inner, hname ▸ entryNamed?_of_mem hnames hmem, hinner, hmessage⟩

theorem FailsAt.map {β : Type} {reason : String} (h : FailsAt decode name entries reason) (f : α → β) :
    FailsAt (fun item => f <$> decode item) name entries reason := by
  obtain ⟨item, e, hitem, hdecode, hreason⟩ := h
  refine ⟨item, e, hitem, ?_, hreason⟩
  show f <$> decode item = .error e
  rw [hdecode]
  rfl

theorem not_failsAt_of_readOr {reason : String}
    (h : readOr decode start (entryNamed? name entries) = .ok a) : ¬ FailsAt decode name entries reason := by
  rintro ⟨item, e, hitem, hdecode, -⟩
  rw [hitem] at h
  cases hdecode.symm.trans h

namespace Config

/-! ### The keys of a document -/

/-- The severity that makes a check fail, where it is given. -/
def decodeFailOn (item : Item) : Decoded (Option Severity) :=
  some <$> decodeSeverity item

variable {c d : Config}

theorem readOr_of_addKey (h : c.addKey key item = .ok d) :
    readOr decodeFailOn c.failOn (if key.name = "fail_on" then some item else none) = .ok d.failOn ∧
      readOr decodeFiles c.files (if key.name = "analyzer" then some item else none) = .ok d.files ∧
      readOr decodeRules c.rules (if key.name = "rules" then some item else none) = .ok d.rules := by
  rw [addKey] at h
  split at h
  · rename_i hkey
    obtain ⟨severity, hseverity, hd⟩ := exists_of_bind_ok h
    cases hd
    have hread : decodeFailOn item = .ok (some severity) := by rw [decodeFailOn, ok_of_under hseverity]; rfl
    simp [hkey, readOr, hread]
  · split at h
    · rename_i hkey
      obtain ⟨files, hfiles, hd⟩ := exists_of_bind_ok h
      cases hd
      simp [hkey, readOr, ok_of_under hfiles]
    · split at h
      · rename_i hkey
        obtain ⟨tables, htables, hd⟩ := exists_of_bind_ok h
        cases hd
        simp [hkey, readOr, ok_of_under htables]
      · rename_i hfailOn hanalyzer hrules
        cases h
        simp [hfailOn, hanalyzer, hrules, readOr]

theorem addKeys_eq_foldlM (c : Config) (entries : List (Key × Item)) :
    c.addKeys entries = entries.foldlM (fun c entry => c.addKey entry.1 entry.2) c := by
  induction entries generalizing c with
  | nil => rfl
  | cons entry rest ih =>
    rw [addKeys, List.foldlM_cons]
    simp only [ih]

/-- **A configuration says what stands at the keys of the document**, or what it said before. -/
theorem readOr_of_addKeys (hnames : (entries.map (·.1.name)).Nodup) (h : c.addKeys entries = .ok d) :
    readOr decodeFailOn c.failOn (entryNamed? "fail_on" entries) = .ok d.failOn ∧
      readOr decodeFiles c.files (entryNamed? "analyzer" entries) = .ok d.files ∧
      readOr decodeRules c.rules (entryNamed? "rules" entries) = .ok d.rules := by
  rw [addKeys_eq_foldlM] at h
  refine ⟨?_, ?_, ?_⟩
  · exact readOr_of_foldlM failOn (fun _ _ _ _ hkey => (readOr_of_addKey hkey).1) hnames h
  · exact readOr_of_foldlM files (fun _ _ _ _ hkey => (readOr_of_addKey hkey).2.1) hnames h
  · exact readOr_of_foldlM rules (fun _ _ _ _ hkey => (readOr_of_addKey hkey).2.2) hnames h

/-- A document is refused because of what stands at one of three keys. -/
theorem failsAt_of_addKeys (hnames : (entries.map (·.1.name)).Nodup) {e : TomlError}
    (h : c.addKeys entries = .error e) :
    FailsAt decodeFailOn "fail_on" entries e.message ∨ FailsAt decodeFiles "analyzer" entries e.message ∨
      FailsAt decodeRules "rules" entries e.message := by
  rw [addKeys_eq_foldlM] at h
  obtain ⟨next, ⟨key, item⟩, hmem, hkey⟩ := exists_of_foldlM_error h
  rw [addKey] at hkey
  split at hkey
  · rename_i hname
    rcases exists_of_bind_error hkey with hkey | ⟨severity, -, hkey⟩
    · exact .inl ((failsAt_of_mem hnames hmem hname hkey).map some)
    · cases hkey
  · split at hkey
    · rename_i hname
      rcases exists_of_bind_error hkey with hkey | ⟨files, -, hkey⟩
      · exact .inr (.inl (failsAt_of_mem hnames hmem hname hkey))
      · cases hkey
    · split at hkey
      · rename_i hname
        rcases exists_of_bind_error hkey with hkey | ⟨tables, -, hkey⟩
        · exact .inr (.inr (failsAt_of_mem hnames hmem hname hkey))
        · cases hkey
      · cases hkey

/-- **A document is a configuration if each of three keys can be decoded**, and says what they are. -/
theorem ofDocument_eq_ok_iff (h : EntriesOnce entries) :
    ofDocument entries = .ok c ↔
      readOr decodeFailOn standard.failOn (entryNamed? "fail_on" entries) = .ok c.failOn ∧
        readOr decodeFiles standard.files (entryNamed? "analyzer" entries) = .ok c.files ∧
        readOr decodeRules standard.rules (entryNamed? "rules" entries) = .ok c.rules := by
  refine ⟨readOr_of_addKeys h.names, ?_⟩
  rintro ⟨hfailOn, hfiles, hrules⟩
  cases hread : ofDocument entries with
  | ok d =>
    obtain ⟨hfailOn', hfiles', hrules'⟩ := readOr_of_addKeys h.names hread
    obtain ⟨failOn, files, rules⟩ := c
    obtain rfl : d.failOn = failOn := Except.ok.inj (hfailOn'.symm.trans hfailOn)
    obtain rfl : d.files = files := Except.ok.inj (hfiles'.symm.trans hfiles)
    obtain rfl : d.rules = rules := Except.ok.inj (hrules'.symm.trans hrules)
    rfl
  | error e =>
    rcases failsAt_of_addKeys h.names hread with hfails | hfails | hfails
    · exact absurd hfails (not_failsAt_of_readOr hfailOn)
    · exact absurd hfails (not_failsAt_of_readOr hfiles)
    · exact absurd hfails (not_failsAt_of_readOr hrules)

/-! ### The keys of the description of files -/

section Files

variable {before after : FileSelection}

theorem readOr_of_addFileKey (h : addFileKey before key item = .ok after) :
    readOr decodeStrings before.exclude (if key.name = "exclude" then some item else none) =
        .ok after.exclude ∧
      readOr decodeBool before.respectsIgnoreFiles
        (if key.name = "respect_gitignore" then some item else none) = .ok after.respectsIgnoreFiles := by
  rw [addFileKey] at h
  split at h
  · rename_i hkey
    obtain ⟨exclude, hexclude, hafter⟩ := exists_of_bind_ok h
    cases hafter
    simp [hkey, readOr, ok_of_under hexclude]
  · split at h
    · rename_i hkey
      obtain ⟨respects, hrespects, hafter⟩ := exists_of_bind_ok h
      cases hafter
      simp [hkey, readOr, ok_of_under hrespects]
    · rename_i hexclude hrespects
      cases h
      simp [hexclude, hrespects, readOr]

theorem addFileKeys_eq_foldlM (files : FileSelection) (entries : List (Key × Item)) :
    addFileKeys files entries =
      entries.foldlM (fun files entry => addFileKey files entry.1 entry.2) files := by
  induction entries generalizing files with
  | nil => rfl
  | cons entry rest ih =>
    rw [addFileKeys, List.foldlM_cons]
    simp only [ih]

/-- The description of files says what stands at its keys, or what it said before. -/
theorem readOr_of_addFileKeys (hnames : (entries.map (·.1.name)).Nodup)
    (h : addFileKeys before entries = .ok after) :
    readOr decodeStrings before.exclude (entryNamed? "exclude" entries) = .ok after.exclude ∧
      readOr decodeBool before.respectsIgnoreFiles (entryNamed? "respect_gitignore" entries) =
        .ok after.respectsIgnoreFiles := by
  rw [addFileKeys_eq_foldlM] at h
  refine ⟨?_, ?_⟩
  · exact readOr_of_foldlM FileSelection.exclude (fun _ _ _ _ hkey => (readOr_of_addFileKey hkey).1) hnames h
  · exact readOr_of_foldlM FileSelection.respectsIgnoreFiles
      (fun _ _ _ _ hkey => (readOr_of_addFileKey hkey).2) hnames h

/-- The description of files is refused because of what stands at one of two keys. -/
theorem failsAt_of_addFileKeys (hnames : (entries.map (·.1.name)).Nodup) {e : TomlError}
    (h : addFileKeys before entries = .error e) :
    FailsAt decodeStrings "exclude" entries e.message ∨
      FailsAt decodeBool "respect_gitignore" entries e.message := by
  rw [addFileKeys_eq_foldlM] at h
  obtain ⟨next, ⟨key, item⟩, hmem, hkey⟩ := exists_of_foldlM_error h
  rw [addFileKey] at hkey
  split at hkey
  · rename_i hname
    rcases exists_of_bind_error hkey with hkey | ⟨exclude, -, hkey⟩
    · exact .inl (failsAt_of_mem hnames hmem hname hkey)
    · cases hkey
  · split at hkey
    · rename_i hname
      rcases exists_of_bind_error hkey with hkey | ⟨respects, -, hkey⟩
      · exact .inr (failsAt_of_mem hnames hmem hname hkey)
      · cases hkey
    · cases hkey

/-- A table describes files if each of two keys can be decoded, and says what they are. -/
theorem addFileKeys_eq_ok_iff (hnames : (entries.map (·.1.name)).Nodup) :
    addFileKeys before entries = .ok after ↔
      readOr decodeStrings before.exclude (entryNamed? "exclude" entries) = .ok after.exclude ∧
        readOr decodeBool before.respectsIgnoreFiles (entryNamed? "respect_gitignore" entries) =
          .ok after.respectsIgnoreFiles := by
  refine ⟨readOr_of_addFileKeys hnames, ?_⟩
  rintro ⟨hexclude, hrespects⟩
  cases hread : addFileKeys before entries with
  | ok found =>
    obtain ⟨hexclude', hrespects'⟩ := readOr_of_addFileKeys hnames hread
    obtain ⟨exclude, respects⟩ := after
    obtain rfl : found.exclude = exclude := Except.ok.inj (hexclude'.symm.trans hexclude)
    obtain rfl : found.respectsIgnoreFiles = respects := Except.ok.inj (hrespects'.symm.trans hrespects)
    rfl
  | error e =>
    rcases failsAt_of_addFileKeys hnames hread with hfails | hfails
    · exact absurd hfails (not_failsAt_of_readOr hexclude)
    · exact absurd hfails (not_failsAt_of_readOr hrespects)

end Files

/-! ### The tables of rules -/

/-- The entries for rules in a document. -/
def rulesOf (entries : List (Key × Item)) : List (Key × Item) :=
  ((entryNamed? "rules" entries).map Item.entries).getD []

theorem exists_of_decodeRules {tables : List (String × Table)} (h : decodeRules item = .ok tables) :
    ∃ form entries stretch, item = .table form entries stretch ∧ addRules [] entries = .ok tables := by
  rw [decodeRules.eq_def] at h
  split at h
  · exact ⟨_, _, _, rfl, h⟩
  · cases h
  · cases h

theorem addRules_rulesOf {tables : List (String × Table)}
    (h : readOr decodeRules [] (entryNamed? "rules" entries) = .ok tables) :
    addRules [] (rulesOf entries) = .ok tables := by
  rw [rulesOf]
  cases hrules : entryNamed? "rules" entries with
  | none =>
    rw [hrules] at h
    exact h
  | some item =>
    rw [hrules] at h
    obtain ⟨form, inner, stretch, rfl, hadd⟩ := exists_of_decodeRules h
    exact hadd

theorem entriesOnce_rulesOf (h : EntriesOnce entries) : EntriesOnce (rulesOf entries) := by
  rw [rulesOf]
  cases hrules : entryNamed? "rules" entries with
  | none => exact entriesOnce_nil
  | some item =>
    cases item with
    | table form inner stretch => exact .of_keysOnce (h.of_entryNamed? hrules)
    | scalar | array | tables => exact entriesOnce_nil

/-- The table of a rule, where there is one. -/
def decodeRule (item : Item) : Decoded (Option Table) :=
  some <$> decodeTable item

/-- The tables of rules with that of one more rule. -/
def addRule (tables : List (String × Table)) (key : Key) (item : Item) :
    Decoded (List (String × Table)) := do
  return insertTable key.name (← (decodeTable item).under key item) tables

theorem addRules_eq_foldlM (tables : List (String × Table)) (entries : List (Key × Item)) :
    addRules tables entries = entries.foldlM (fun tables entry => addRule tables entry.1 entry.2) tables := by
  induction entries generalizing tables with
  | nil => rfl
  | cons entry rest ih =>
    rw [addRules, List.foldlM_cons, addRule, bind_assoc]
    simp only [ih, pure_bind]

/-- **The table of a rule is what stands at its name**, or what it was before. -/
theorem readOr_of_addRules {tables added : List (String × Table)} (hnames : (entries.map (·.1.name)).Nodup)
    (h : addRules tables entries = .ok added) (rule : String) :
    readOr decodeRule (tables.lookup rule) (entryNamed? rule entries) = .ok (added.lookup rule) := by
  rw [addRules_eq_foldlM] at h
  refine readOr_of_foldlM (List.lookup rule) (fun tables added key item hadd => ?_) hnames h
  obtain ⟨table, htable, hinsert⟩ := exists_of_bind_ok hadd
  cases hinsert
  rw [insertTable_eq_putKey, lookup_putKey]
  by_cases hrule : key.name = rule
  · have hread : decodeRule item = .ok (some table) := by rw [decodeRule, ok_of_under htable]; rfl
    rw [if_pos hrule, if_pos hrule.symm]
    exact hread
  · rw [if_neg hrule, if_neg (Ne.symm hrule)]
    rfl

/-- The tables of rules are refused because of what stands at the name of one of them. -/
theorem failsAt_of_addRules {tables : List (String × Table)} (hnames : (entries.map (·.1.name)).Nodup)
    {e : TomlError} (h : addRules tables entries = .error e) :
    ∃ rule, FailsAt decodeRule rule entries e.message := by
  rw [addRules_eq_foldlM] at h
  obtain ⟨before, ⟨key, item⟩, hmem, hadd⟩ := exists_of_foldlM_error h
  rcases exists_of_bind_error hadd with hitem | ⟨table, -, hinsert⟩
  · exact ⟨key.name, (failsAt_of_mem hnames hmem rfl hitem).map some⟩
  · cases hinsert

/-! ### Texts -/

theorem ofText_of_ofDocument {text : List Char} (hentries : documentOf text = .ok entries)
    (hc : ofDocument entries = .ok c) : ofText text = .ok c := by
  have hread : documentOf text >>= ofDocument = .ok c := by
    rw [hentries]
    exact hc
  rw [ofText, hread]

theorem ofText_of_ofDocument_error {text : List Char} (hentries : documentOf text = .ok entries)
    {e : TomlError} (he : ofDocument entries = .error e) :
    ofText text = .error (.unparsable (e.render text)) := by
  have hread : documentOf text >>= ofDocument = .error e := by
    rw [hentries]
    exact he
  rw [ofText, hread]

theorem ofDocument_of_ofText {text : List Char} (hentries : documentOf text = .ok entries)
    (hc : ofText text = .ok c) : ofDocument entries = .ok c := by
  cases hread : ofDocument entries with
  | ok read =>
    rw [ofText_of_ofDocument hentries hread] at hc
    exact congrArg Except.ok (Except.ok.inj hc)
  | error e =>
    rw [ofText_of_ofDocument_error hentries hread] at hc
    cases hc

/-- What a configuration says comes from the document in its text. -/
theorem exists_document_of_ofText {text : List Char} (h : ofText text = .ok c) :
    ∃ entries, documentOf text = .ok entries ∧
      readOr decodeFailOn none (entryNamed? "fail_on" entries) = .ok c.failOn ∧
      readOr decodeFiles .standard (entryNamed? "analyzer" entries) = .ok c.files ∧
      readOr decodeRules [] (entryNamed? "rules" entries) = .ok c.rules := by
  rw [ofText] at h
  split at h
  · rename_i read hread
    cases h
    obtain ⟨entries, hentries, hadd⟩ := exists_of_bind_ok hread
    exact ⟨entries, hentries, readOr_of_addKeys (entriesOnce_documentOf hentries).names hadd⟩
  · cases h

/-! ### Places -/

theorem placeless_decodeBool : Placeless decodeBool := by
  intro item
  cases item with
  | scalar s stretch => cases s <;> rfl
  | array | tables | table => rfl

theorem placeless_decodeString : Placeless decodeString := by
  intro item
  cases item with
  | scalar s stretch => cases s <;> rfl
  | array | tables | table => rfl

theorem toOption_decodeEach_bareAll (elements : List Item) :
    (decodeEach (Item.bareAll elements)).toOption = (decodeEach elements).toOption := by
  induction elements with
  | nil => rfl
  | cons i is ih =>
    rw [Item.bareAll, decodeEach, decodeEach, toOption_bind, toOption_bind, placeless_decodeString i]
    simp only [toOption_bind, ih]

theorem placeless_decodeStrings : Placeless decodeStrings := by
  intro item
  cases item with
  | scalar | table => rfl
  | array elements | tables elements => exact toOption_decodeEach_bareAll elements

theorem toOption_severityNamed (text : String) (stretch : Option Stretch) :
    (severityNamed text stretch).toOption = Severity.ofName? text := by
  rw [severityNamed]
  cases Severity.ofName? text with
  | none => rfl
  | some severity => rfl

theorem placeless_checkEmpty : Placeless checkEmpty := by
  intro item
  cases item with
  | scalar => rfl
  | array elements | tables elements => cases elements <;> rfl
  | table form entries => cases entries <;> rfl

theorem placeless_decodeSeverity : Placeless decodeSeverity := by
  intro item
  cases item with
  | scalar s stretch =>
    cases s with
    | string text =>
      show (severityNamed text _).toOption = (severityNamed text _).toOption
      rw [toOption_severityNamed, toOption_severityNamed]
    | integer | float | boolean | datetime => rfl
  | array | tables => rfl
  | table form entries stretch =>
    match entries with
    | [] => rfl
    | [(key, inner)] =>
      show (do let severity ← severityNamed key.name _; checkEmpty inner.bare; return severity :
          Decoded Severity).toOption =
        (do let severity ← severityNamed key.name _; checkEmpty inner; return severity :
          Decoded Severity).toOption
      simp only [toOption_bind, toOption_severityNamed, placeless_checkEmpty inner]
    | _ :: _ :: _ => rfl

theorem placeless_decodeFailOn : Placeless decodeFailOn := by
  intro item
  rw [decodeFailOn, decodeFailOn, toOption_map, toOption_map, placeless_decodeSeverity]

theorem toOption_addFileKeys_bareEntries (files : FileSelection) (entries : List (Key × Item)) :
    (addFileKeys files (Item.bareEntries entries)).toOption = (addFileKeys files entries).toOption := by
  induction entries generalizing files with
  | nil => rfl
  | cons entry rest ih =>
    obtain ⟨key, item⟩ := entry
    have hkey : (addFileKey files ⟨key.name, default⟩ item.bare).toOption =
        (addFileKey files key item).toOption := by
      rw [addFileKey, addFileKey]
      split
      · rw [toOption_bind, toOption_bind, toOption_under, toOption_under, placeless_decodeStrings item]
      · split
        · rw [toOption_bind, toOption_bind, toOption_under, toOption_under, placeless_decodeBool item]
        · rfl
    rw [Item.bareEntries, addFileKeys, addFileKeys, toOption_bind, toOption_bind, hkey]
    simp only [ih]

theorem toOption_filesOfList_bareAll (elements : List Item) :
    (filesOfList (Item.bareAll elements)).toOption = (filesOfList elements).toOption := by
  match elements with
  | [] => rfl
  | [exclude] =>
    rw [Item.bareAll, Item.bareAll, filesOfList, filesOfList, toOption_bind, toOption_bind,
      placeless_decodeStrings exclude]
  | exclude :: respects :: _ =>
    rw [Item.bareAll, Item.bareAll, filesOfList, filesOfList, toOption_bind, toOption_bind,
      placeless_decodeStrings exclude]
    simp only [toOption_bind, placeless_decodeBool respects]

theorem placeless_decodeFiles : Placeless decodeFiles := by
  intro item
  cases item with
  | scalar s stretch => cases s <;> rfl
  | array elements | tables elements => exact toOption_filesOfList_bareAll elements
  | table form entries => exact toOption_addFileKeys_bareEntries _ entries

theorem placeless_decodeTable : Placeless decodeTable := by
  intro item
  cases item with
  | scalar s stretch => cases s <;> rfl
  | array | tables => rfl
  | table form entries => exact toOption_toTable_bareEntries entries

theorem placeless_decodeRule : Placeless decodeRule := by
  intro item
  rw [decodeRule, decodeRule, toOption_map, toOption_map, placeless_decodeTable]

theorem toOption_addRules_bareEntries (tables : List (String × Table)) (entries : List (Key × Item)) :
    (addRules tables (Item.bareEntries entries)).toOption = (addRules tables entries).toOption := by
  induction entries generalizing tables with
  | nil => rfl
  | cons entry rest ih =>
    obtain ⟨key, item⟩ := entry
    rw [Item.bareEntries, addRules, addRules, toOption_bind, toOption_bind, toOption_under, toOption_under,
      placeless_decodeTable item]
    simp only [ih]

theorem placeless_decodeRules : Placeless decodeRules := by
  intro item
  cases item with
  | scalar s stretch => cases s <;> rfl
  | array | tables => rfl
  | table form entries => exact toOption_addRules_bareEntries [] entries

end Config

end SourceLint
