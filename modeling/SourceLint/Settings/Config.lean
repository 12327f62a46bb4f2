import SourceLint.Settings.RuleSettings
import SourceLint.Toml.Decoding

/-!
# Configurations

A configuration says which violations make a check fail, which files are left out and what the settings
of each rule are.  The settings of the rules are kept as tables, so that what is wrong with those of one
rule does not concern another.

* **`Config.ofText`** — the configuration that a text is.
* **`Config.ruleSettings`** — the settings of a rule.
* **`Config.enable`** — the configuration with a rule enabled.
-/

namespace SourceLint

open SourceLint.Toml SourceLint.Data

/-- Which files are looked at. -/
structure FileSelection where
  /-- Patterns of files that are left out. -/
  exclude : List String
  /-- Whether files that version control ignores are left out. -/
  respectsIgnoreFiles : Bool
deriving DecidableEq, Repr, Inhabited

/-- Which files are looked at if nothing is said about it. -/
def FileSelection.standard : FileSelection := ⟨["**/target/**"], true⟩

/-- Where the description of files is given, what it does not mention. -/
def FileSelection.unmentioned : FileSelection := ⟨[], true⟩

/-- A configuration. -/
structure Config where
  /-- The least severity that makes a check fail. -/
  failOn : Option Severity
  files : FileSelection
  /-- The tables of rules, in ascending order of their identifiers. -/
  rules : List (String × Table)
deriving DecidableEq, Inhabited

namespace Config

/-- The configuration if nothing is configured. -/
def standard : Config := ⟨none, .standard, []⟩

/-! ### Decoding -/

/-- The severity with a name that stands at a place. -/
def severityNamed (name : String) (stretch : Option Stretch) : Decoded Severity :=
  match Severity.ofName? name with
  | some s => .ok s
  | none => complain (Mismatch.unknownVariant name ["warning", "error"]).message stretch

/-- What stands at the name of a severity in a table has to be empty. -/
def checkEmpty : Item → Decoded Unit
  | .tables [] _ | .array [] _ | .table _ [] _ => .ok ()
  | .tables _ s => complain "expected empty array" s
  | .array _ s => complain "expected empty table" (some s)
  | .table _ _ s => complain "expected empty table" s
  | item => complain s!"expected table, found {item.typeName}" item.stretch?

/-- The severity that a part is: its name, or a table with its name as the only key. -/
def decodeSeverity : Item → Decoded Severity
  | .scalar (.string name) s => severityNamed name (some s)
  | .table _ [] s => complain "wanted exactly 1 element, found 0 elements" s
  | .table _ [(key, item)] _ => do
    let severity ← severityNamed key.name (some key.stretch)
    checkEmpty item
    return severity
  | .table _ _ s => complain "wanted exactly 1 element, more than 1 element" s
  | item => complain "wanted string or table" item.stretch?

/-- The truth value that a part is. -/
def decodeBool : Item → Decoded Bool
  | .scalar (.boolean b) _ => .ok b
  | item => item.unlike "a boolean"

/-- The text that a part is. -/
def decodeString : Item → Decoded String
  | .scalar (.string s) _ => .ok s
  | item => item.unlike "a string"

/-- The texts that some parts are. -/
def decodeEach : List Item → Decoded (List String)
  | [] => .ok []
  | i :: is => do
    let s ← decodeString i
    return s :: (← decodeEach is)

/-- The texts in a list. -/
def decodeStrings : Item → Decoded (List String)
  | .array elements _ | .tables elements _ => decodeEach elements
  | item => item.unlike "a sequence"

/-- The description of files with one more key. -/
def addFileKey (files : FileSelection) (key : Key) (item : Item) : Decoded FileSelection :=
  if key.name = "exclude" then do
    return { files with exclude := ← (decodeStrings item).under key item }
  else if key.name = "respect_gitignore" then do
    return { files with respectsIgnoreFiles := ← (decodeBool item).under key item }
  else
    return files

/-- The description of files with more keys. -/
def addFileKeys (files : FileSelection) : List (Key × Item) → Decoded FileSelection
  | [] => .ok files
  | (key, item) :: rest => do addFileKeys (← addFileKey files key item) rest

/-- The description of files as the list of the values of its keys. -/
def filesOfList : List Item → Decoded FileSelection
  | [] => .ok .unmentioned
  | [exclude] => do
    return ⟨← decodeStrings exclude, FileSelection.unmentioned.respectsIgnoreFiles⟩
  | exclude :: respects :: _ => do
    let exclude ← decodeStrings exclude
    return ⟨exclude, ← decodeBool respects⟩

/-- The description of files that a part is.  A date counts as a table with a key without a meaning. -/
def decodeFiles : Item → Decoded FileSelection
  | .scalar (.datetime _) _ => .ok .unmentioned
  | .table _ entries _ => addFileKeys .unmentioned entries
  | .array elements _ | .tables elements _ => filesOfList elements
  | item => item.unlike "struct AnalyzerConfig"

/-- The table that a part is.  A date counts as a table with its text under a key of its own. -/
def decodeTable : Item → Decoded Table
  | .scalar (.datetime text) _ => .ok [(dateKey, .scalar (.string text))]
  | .table _ entries _ => Item.toTable entries
  | item => item.unlike "a map"

/-- The tables with one more. -/
def insertTable (rule : String) (table : Table) : List (String × Table) → List (String × Table)
  | [] => [(rule, table)]
  | (r, t) :: rest =>
    if rule < r then (rule, table) :: (r, t) :: rest
    else if rule = r then (rule, table) :: rest
    else (r, t) :: insertTable rule table rest

/-- The tables of rules with those of more rules. -/
def addRules (rules : List (String × Table)) : List (Key × Item) → Decoded (List (String × Table))
  | [] => .ok rules
  | (key, item) :: rest => do
    let table ← (decodeTable item).under key item
    addRules (insertTable key.name table rules) rest

/-- The tables of rules that a part is.  A date counts as a table with a text in it, which is no table
of a rule. -/
def decodeRules : Item → Decoded (List (String × Table))
  | .table _ entries _ => addRules [] entries
  | .scalar (.datetime text) s =>
    complain (Mismatch.invalidType (.string text) "a map").message (some s)
  | item => item.unlike "a map"

/-- The configuration with one more key; keys without a meaning are left out. -/
def addKey (c : Config) (key : Key) (item : Item) : Decoded Config :=
  if key.name = "fail_on" then do
    return { c with failOn := some (← (decodeSeverity item).under key item) }
  else if key.name = "analyzer" then do
    return { c with files := ← (decodeFiles item).under key item }
  else if key.name = "rules" then do
    return { c with rules := ← (decodeRules item).under key item }
  else
    return c

/-- The configuration with more keys. -/
def addKeys (c : Config) : List (Key × Item) → Decoded Config
  | [] => .ok c
  | (key, item) :: rest => do addKeys (← c.addKey key item) rest

/-- The configuration that a document is. -/
def ofDocument (entries : List (Key × Item)) : Decoded Config :=
  standard.addKeys entries

/-- The configuration that a text is. -/
def ofText (text : List Char) : Except SettingsError Config :=
  match documentOf text >>= ofDocument with
  | .ok c => .ok c
  | .error e => .error (.unparsable (e.render text))

/-! ### Questions and changes -/

/-- The severity that makes a check fail. -/
def threshold (c : Config) : Severity :=
  c.failOn.getD .error

/-- The rules for which there are settings, in ascending order. -/
def configuredRules (c : Config) : List String :=
  c.rules.map (·.1)

/-- The settings of a rule. -/
def ruleSettings (c : Config) (rule : String) : Except SettingsError RuleSettings :=
  match c.rules.lookup rule with
  | some table => RuleSettings.ofTable rule table
  | none => .ok (RuleSettings.empty rule)

/-- The configuration with a rule enabled, whatever it says itself. -/
def enable (c : Config) (rule : String) : Config :=
  let table : Table := (c.rules.lookup rule).getD []
  { c with rules :=
      insertTable rule (table.insert RuleSettings.enabledKey (.scalar (.boolean true))) c.rules }

end Config

end SourceLint
