import SourceLint.Proofs.Settings.Reading

/-!
# Settings that are not given

A text need not give every setting of a configuration.  Defaults are kept twice: `FileSelection.standard`
counts if nothing is said about files, and `FileSelection.unmentioned` fills the gaps in a description of them.
The two agree about ignored files, but not about patterns.

* **`Toml.Item.fileSetting?`**, **`Config.excludeIn?`**, **`Config.respectsIn?`** — what is given.
* **`LeavesOut`**, **`Config.FilesLeaveOut`** — a document is like another one, with a key deleted.
* **`FileSelection.reset`**, **`Config.reset`** — one setting is the default again.
* **`Config.Reads`**, **`Config.HasDefaults`** — what is given is read, and what is not given is the default,
  apart from patterns.
* **`Config.ofDocument_of_leavesOut`**, **`Config.ofDocument_of_filesLeaveOut`** — what a deletion does.
* **`Config.ofText_defaults`** — the defaults of all settings, for every text.
-/

namespace SourceLint

open Toml

variable {name : String} {entries changed : List (Key × Item)}

/-! ### Deletions -/

/-- The second entries are the first ones without a name, if places and order do not matter. -/
structure LeavesOut (name : String) (entries changed : List (Key × Item)) : Prop where
  missing : entryNamed? name changed = none
  others : ∀ other, other ≠ name →
    (entryNamed? other entries).map Item.bare = (entryNamed? other changed).map Item.bare

/-- What is read at a key after the deletion of one: the default if it was this key, and otherwise what was
read before. -/
theorem LeavesOut.readOr_eq {α : Type} {decode : Item → Decoded α} {default a : α}
    (h : LeavesOut name entries changed) (hdecode : Placeless decode) {key : String}
    (ha : readOr decode default (entryNamed? key entries) = .ok a) :
    readOr decode default (entryNamed? key changed) = .ok (if key = name then default else a) := by
  by_cases hkey : key = name
  · rw [if_pos hkey, hkey, h.missing]
    rfl
  · rw [if_neg hkey]
    exact hdecode.readOr_eq_ok (h.others key hkey) ha

/-- The description of files in which the setting with a name is a default again. -/
def FileSelection.reset (files default : FileSelection) (name : String) : FileSelection where
  exclude := if "exclude" = name then default.exclude else files.exclude
  respectsIgnoreFiles :=
    if "respect_gitignore" = name then default.respectsIgnoreFiles else files.respectsIgnoreFiles

theorem FileSelection.reset_standard {files : FileSelection} (h : name ≠ "exclude") :
    files.reset .standard name = files.reset .unmentioned name := by
  rw [reset, reset, if_neg (Ne.symm h), if_neg (Ne.symm h)]
  rfl

theorem FileSelection.reset_exclude (files default : FileSelection) :
    files.reset default "exclude" = { files with exclude := default.exclude } := rfl

/-! ### What is given -/

/-- The part that a description of files gives for a setting: the one with its name or, in a list, the one
at its place. -/
def Toml.Item.fileSetting? (name : String) (place : Nat) : Item → Option Item
  | .table _ entries _ => entryNamed? name entries
  | .array elements _ | .tables elements _ => elements[place]?
  | .scalar _ _ => none

namespace Config

variable {c : Config} {files : FileSelection} {item : Item}

/-- The configuration in which the setting with a name is the default again. -/
def reset (c : Config) (name : String) : Config where
  failOn := if "fail_on" = name then standard.failOn else c.failOn
  files := if "analyzer" = name then standard.files else c.files
  rules := if "rules" = name then standard.rules else c.rules

/-- The patterns of files to leave out, where a document gives them. -/
def excludeIn? (entries : List (Key × Item)) : Option Item :=
  (entryNamed? "analyzer" entries).bind (Item.fileSetting? "exclude" 0)

/-- Whether to leave out ignored files, where a document says so. -/
def respectsIn? (entries : List (Key × Item)) : Option Item :=
  (entryNamed? "analyzer" entries).bind (Item.fileSetting? "respect_gitignore" 1)

theorem readOr_of_filesOfList {elements : List Item} (h : filesOfList elements = .ok files) :
    readOr decodeStrings FileSelection.unmentioned.exclude elements[0]? = .ok files.exclude ∧
      readOr decodeBool FileSelection.unmentioned.respectsIgnoreFiles elements[1]? =
        .ok files.respectsIgnoreFiles := by
  match elements with
  | [] =>
    cases h
    exact ⟨rfl, rfl⟩
  | [first] =>
    obtain ⟨exclude, hexclude, hfiles⟩ := exists_of_bind_ok h
    cases hfiles
    exact ⟨hexclude, rfl⟩
  | first :: second :: _ =>
    obtain ⟨exclude, hexclude, hrest⟩ := exists_of_bind_ok h
    obtain ⟨respects, hrespects, hfiles⟩ := exists_of_bind_ok hrest
    cases hfiles
    exact ⟨hexclude, hrespects⟩

/-- A description of files says what it gives, and otherwise what counts for unmentioned settings. -/
theorem readOr_of_decodeFiles (honce : item.KeysOnce) (h : decodeFiles item = .ok files) :
    readOr decodeStrings FileSelection.unmentioned.exclude (item.fileSetting? "exclude" 0) =
        .ok files.exclude ∧
      readOr decodeBool FileSelection.unmentioned.respectsIgnoreFiles
        (item.fileSetting? "respect_gitignore" 1) = .ok files.respectsIgnoreFiles := by
  cases item with
  | scalar value stretch =>
    cases value with
    | datetime =>
      cases h
      exact ⟨rfl, rfl⟩
    | string | integer | float | boolean => cases h
  | array elements | tables elements => exact readOr_of_filesOfList h
  | table form inner stretch => exact readOr_of_addFileKeys (EntriesOnce.of_keysOnce honce).names h

/-- The patterns if a document does not give any: none, if it says something else about files. -/
def excludeDefault (entries : List (Key × Item)) : List String :=
  if (entryNamed? "analyzer" entries).isSome then [] else standard.files.exclude

/-- The configuration has the settings that the document gives, and defaults for all others. -/
structure Reads (entries : List (Key × Item)) (c : Config) : Prop where
  failOn : readOr decodeFailOn standard.failOn (entryNamed? "fail_on" entries) = .ok c.failOn
  rules : readOr decodeRules standard.rules (entryNamed? "rules" entries) = .ok c.rules
  respectsIgnoreFiles : readOr decodeBool standard.files.respectsIgnoreFiles (respectsIn? entries) =
    .ok c.files.respectsIgnoreFiles
  exclude : readOr decodeStrings (excludeDefault entries) (excludeIn? entries) = .ok c.files.exclude

theorem reads_of_ofDocument (honce : EntriesOnce entries) (hc : ofDocument entries = .ok c) :
    Reads entries c := by
  obtain ⟨hfailOn, hfiles, hrules⟩ := (ofDocument_eq_ok_iff honce).1 hc
  have hsettings : readOr decodeBool standard.files.respectsIgnoreFiles (respectsIn? entries) =
        .ok c.files.respectsIgnoreFiles ∧
      readOr decodeStrings (excludeDefault entries) (excludeIn? entries) = .ok c.files.exclude := by
    rw [respectsIn?, excludeIn?, excludeDefault]
    cases hitem : entryNamed? "analyzer" entries with
    | none =>
      rw [hitem] at hfiles
      have hsame : standard.files = c.files := Except.ok.inj hfiles
      rw [← hsame]
      exact ⟨rfl, rfl⟩
    | some item =>
      rw [hitem] at hfiles
      obtain ⟨hexclude, hrespects⟩ := readOr_of_decodeFiles (honce.of_entryNamed? hitem) hfiles
      exact ⟨hrespects, hexclude⟩
  exact ⟨hfailOn, hrules, hsettings.1, hsettings.2⟩

/-- What the document does not give is the default in the configuration; patterns are so only if nothing at all
is said about files. -/
structure HasDefaults (entries : List (Key × Item)) (c : Config) : Prop where
  failOn : entryNamed? "fail_on" entries = none → c.failOn = standard.failOn
  rules : entryNamed? "rules" entries = none → c.rules = standard.rules
  respectsIgnoreFiles : respectsIn? entries = none →
    c.files.respectsIgnoreFiles = standard.files.respectsIgnoreFiles
  exclude : entryNamed? "analyzer" entries = none → c.files.exclude = standard.files.exclude
  /-- A description of files without patterns has none. -/
  noPatterns : (entryNamed? "analyzer" entries).isSome = true → excludeIn? entries = none →
    c.files.exclude = []

theorem eq_of_readOr_none {α : Type} {decode : Item → Decoded α} {default a : α} {item? : Option Item}
    (h : readOr decode default item? = .ok a) (hnone : item? = none) : a = default := by
  subst hnone
  exact (Except.ok.inj h).symm

theorem Reads.hasDefaults (h : Reads entries c) : HasDefaults entries c where
  failOn := eq_of_readOr_none h.failOn
  rules := eq_of_readOr_none h.rules
  respectsIgnoreFiles := eq_of_readOr_none h.respectsIgnoreFiles
  exclude hnone := by
    have hexclude : c.files.exclude = excludeDefault entries :=
      eq_of_readOr_none h.exclude (by rw [excludeIn?, hnone, Option.bind_none])
    rw [hexclude, excludeDefault, hnone]
    rfl
  noPatterns hsome hnone := by
    rw [eq_of_readOr_none h.exclude hnone, excludeDefault, if_pos hsome]

/-! ### What deletions do -/

/-- Without one of its keys, a document is the configuration with this setting the default. -/
theorem ofDocument_of_leavesOut (honce : EntriesOnce entries) (hchanged : EntriesOnce changed)
    (hleave : LeavesOut name entries changed) (hc : ofDocument entries = .ok c) :
    ofDocument changed = .ok (c.reset name) := by
  obtain ⟨hfailOn, hfiles, hrules⟩ := (ofDocument_eq_ok_iff honce).1 hc
  refine (ofDocument_eq_ok_iff hchanged).2 ⟨?_, ?_, ?_⟩
  · exact hleave.readOr_eq placeless_decodeFailOn hfailOn
  · exact hleave.readOr_eq placeless_decodeFiles hfiles
  · exact hleave.readOr_eq placeless_decodeRules hrules

/-- The two documents have tables that describe files, the second one without a name.  All else is the same
in both. -/
structure FilesLeaveOut (name : String) (entries changed : List (Key × Item)) : Prop where
  outside : ∀ other, other ≠ "analyzer" →
    (entryNamed? other entries).map Item.bare = (entryNamed? other changed).map Item.bare
  inside : ∃ form inner stretch form' inner' stretch',
    entryNamed? "analyzer" entries = some (.table form inner stretch) ∧
      entryNamed? "analyzer" changed = some (.table form' inner' stretch') ∧ LeavesOut name inner inner'

/-- Without one of its keys, a description of files says for it what counts for unmentioned settings. -/
theorem addFileKeys_of_leavesOut (honce : EntriesOnce entries) (hchanged : EntriesOnce changed)
    (hleave : LeavesOut name entries changed) (h : addFileKeys .unmentioned entries = .ok files) :
    addFileKeys .unmentioned changed = .ok (files.reset .unmentioned name) := by
  obtain ⟨hexclude, hrespects⟩ := (addFileKeys_eq_ok_iff honce.names).1 h
  refine (addFileKeys_eq_ok_iff hchanged.names).2 ⟨?_, ?_⟩
  · exact hleave.readOr_eq placeless_decodeStrings hexclude
  · exact hleave.readOr_eq placeless_decodeBool hrespects

theorem ofDocument_of_filesLeaveOut (honce : EntriesOnce entries) (hchanged : EntriesOnce changed)
    (hleave : FilesLeaveOut name entries changed) (hc : ofDocument entries = .ok c) :
    ofDocument changed = .ok { c with files := c.files.reset .unmentioned name } := by
  obtain ⟨hfailOn, hfiles, hrules⟩ := (ofDocument_eq_ok_iff honce).1 hc
  obtain ⟨form, inner, stretch, form', inner', stretch', hitem, hitem', hinside⟩ := hleave.inside
  refine (ofDocument_eq_ok_iff hchanged).2 ⟨?_, ?_, ?_⟩
  · exact placeless_decodeFailOn.readOr_eq_ok (hleave.outside "fail_on" (by decide)) hfailOn
  · rw [hitem] at hfiles
    rw [hitem']
    exact addFileKeys_of_leavesOut (.of_keysOnce (honce.of_entryNamed? hitem))
      (.of_keysOnce (hchanged.of_entryNamed? hitem')) hinside hfiles
  · exact placeless_decodeRules.readOr_eq_ok (hleave.outside "rules" (by decide)) hrules

/-- **A setting that is not given is the default, apart from patterns in a description of files.**  Take any
text that is a configuration.  It has the settings that are given; what is not given of the severity, of the
rules and of the treatment of ignored files is as in the standard configuration, whatever else is given.  The
patterns are so if there is no description of files; if there is one without patterns, then there are none.

A deletion puts it the other way round: a text that is like the first one, but for the deletion of a key, is
the same configuration with this setting the default.  So nothing changes if it was the default before.  The
exception is again the key of the patterns, in a description of files that is kept. -/
theorem ofText_defaults {text : List Char} (hc : ofText text = .ok c)
    (hentries : documentOf text = .ok entries) :
    Reads entries c ∧ HasDefaults entries c ∧
      ∀ changedText changed name, documentOf changedText = .ok changed →
        (LeavesOut name entries changed → ofText changedText = .ok (c.reset name)) ∧
        (FilesLeaveOut name entries changed →
          (name ≠ "exclude" → ofText changedText = .ok { c with files := c.files.reset .standard name }) ∧
          (name = "exclude" →
            ofText changedText = .ok { c with files := { c.files with exclude := [] } })) := by
  have honce : EntriesOnce entries := entriesOnce_documentOf hentries
  have hread : ofDocument entries = .ok c := ofDocument_of_ofText hentries hc
  have hreads : Reads entries c := reads_of_ofDocument honce hread
  refine ⟨hreads, hreads.hasDefaults, fun changedText changed name hchanged => ?_⟩
  have hchangedOnce : EntriesOnce changed := entriesOnce_documentOf hchanged
  refine ⟨fun hleave => ?_, fun hleave => ?_⟩
  · exact ofText_of_ofDocument hchanged (ofDocument_of_leavesOut honce hchangedOnce hleave hread)
  · have hreset := ofText_of_ofDocument hchanged
      (ofDocument_of_filesLeaveOut honce hchangedOnce hleave hread)
    refine ⟨fun hname => ?_, fun hname => ?_⟩
    · rw [FileSelection.reset_standard hname]
      exact hreset
    · rw [hname, FileSelection.reset_exclude] at hreset
      exact hreset

/-! ### Descriptions of files with one setting -/

/-- A document that describes files, with the offset at which it ends. -/
def describing (settings : List (Key × Item)) (stop : Nat) : List (Key × Item) :=
  [(⟨"analyzer", ⟨1, 9⟩⟩, .table .header settings (some ⟨0, stop⟩))]

/-- Files of the standard patterns are left out. -/
def standardPatterns : Key × Item :=
  (⟨"exclude", ⟨11, 18⟩⟩, .array [.scalar (.string "**/target/**") ⟨22, 36⟩] ⟨21, 37⟩)

/-- Ignored files are left out. -/
def ignoredFiles : Key × Item :=
  (⟨"respect_gitignore", ⟨11, 28⟩⟩, .scalar (.boolean true) ⟨31, 35⟩)

theorem filesLeaveOut_describing (key : Key) (item : Item) (stop stop' : Nat) :
    FilesLeaveOut key.name (describing [(key, item)] stop) (describing [] stop') := by
  refine ⟨fun other hother => ?_, _, _, _, _, _, _, rfl, rfl, rfl, fun other hother => ?_⟩
  · rw [describing, describing, entryNamed?_cons, entryNamed?_cons, if_neg (Ne.symm hother),
      if_neg (Ne.symm hother)]
  · rw [entryNamed?_cons, if_neg (Ne.symm hother)]

/-- A text that gives the patterns as they are in the standard configuration. -/
def patternsText : List Char :=
  "[analyzer]\nexclude = [\"**/target/**\"]\n".toList

/-- A text that treats ignored files as the standard configuration does. -/
def ignoredText : List Char :=
  "[analyzer]\nrespect_gitignore = true\n".toList

/-- What is left of either text without its setting. -/
def headerText : List Char :=
  "[analyzer]\n".toList

theorem documentOf_patternsText : documentOf patternsText = .ok (describing [standardPatterns] 37) := by
  decide +kernel

theorem documentOf_ignoredText : documentOf ignoredText = .ok (describing [ignoredFiles] 35) := by
  decide +kernel

theorem documentOf_headerText : documentOf headerText = .ok (describing [] 10) := by
  decide +kernel

theorem ofText_patternsText : ofText patternsText = .ok standard := by
  refine ofText_of_ofDocument documentOf_patternsText ?_
  decide +kernel

/-- The patterns of the standard configuration are missing. -/
theorem ofText_ignoredText : ofText ignoredText = .ok ⟨none, ⟨[], true⟩, []⟩ := by
  refine ofText_of_ofDocument documentOf_ignoredText ?_
  decide +kernel

/-- The treatment of ignored files may be deleted. -/
theorem ofText_defaults_ignoredText :
    ofText ignoredText = .ok ⟨none, ⟨[], true⟩, []⟩ ∧
      documentOf ignoredText = .ok (describing [ignoredFiles] 35) ∧
      documentOf headerText = .ok (describing [] 10) ∧
      FilesLeaveOut "respect_gitignore" (describing [ignoredFiles] 35) (describing [] 10) ∧
      ofText headerText = .ok ⟨none, ⟨[], true⟩, []⟩ := by
  have hleave := filesLeaveOut_describing ignoredFiles.1 ignoredFiles.2 35 10
  obtain ⟨-, -, hdelete⟩ := ofText_defaults ofText_ignoredText documentOf_ignoredText
  obtain ⟨-, hfiles⟩ := hdelete headerText _ "respect_gitignore" documentOf_headerText
  obtain ⟨hkept, -⟩ := hfiles hleave
  exact ⟨ofText_ignoredText, documentOf_ignoredText, documentOf_headerText, hleave, hkept (by decide)⟩

/-- The patterns may not.  A text that treats ignored files as usual and does not mention patterns has none,
and a text that gives the standard patterns, and thus is the standard configuration, is no longer so without
them. -/
theorem forgets_standard_patterns :
    (∃ entries c, documentOf ignoredText = .ok entries ∧ excludeIn? entries = none ∧
      ofText ignoredText = .ok c ∧ c.files.exclude ≠ standard.files.exclude) ∧
    ∃ entries changed c, documentOf patternsText = .ok entries ∧ ofText patternsText = .ok standard ∧
      documentOf headerText = .ok changed ∧ FilesLeaveOut "exclude" entries changed ∧
      ofText headerText = .ok c ∧ c.files.exclude ≠ standard.files.exclude := by
  refine ⟨⟨_, _, documentOf_ignoredText, rfl, ofText_ignoredText, by decide⟩, ?_⟩
  have hheader : ofText headerText = .ok ⟨none, ⟨[], true⟩, []⟩ := by
    refine ofText_of_ofDocument documentOf_headerText ?_
    decide +kernel
  exact ⟨_, _, _, documentOf_patternsText, ofText_patternsText, documentOf_headerText,
    filesLeaveOut_describing standardPatterns.1 standardPatterns.2 37 10, hheader, by decide⟩

end Config

end SourceLint
