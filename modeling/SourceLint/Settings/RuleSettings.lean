import SourceLint.Rule.Description
import SourceLint.Settings.SettingsError
import SourceLint.Toml.Value

/-!
# Settings of a rule

The table of a rule says whether the rule is enabled and how severe its violations are; all other keys
are options, which mean something to the rule only.

* **`RuleSettings.ofTable`** — the settings that a table makes.
* **`RuleSettings.withOption`**, **`withSeverity`**, **`withEnabled`** — settings changed.
* **`RuleSettings.checkKeys`** — whether the rule knows all options.
* **`RuleSettings.get`** — the value of an option, decoded.
-/

namespace SourceLint

open SourceLint.Toml

/-- The settings of a rule. -/
structure RuleSettings where
  /-- The rule. -/
  rule : String
  /-- Whether the rule is enabled, if that is said. -/
  enabled : Option Bool
  severity : Option Severity
  options : Table
deriving Inhabited

namespace RuleSettings

/-- No settings. -/
def empty (rule : String) : RuleSettings :=
  ⟨rule, none, none, []⟩

/-- The settings with an option. -/
def withOption (s : RuleSettings) (key : String) (value : Value) : RuleSettings :=
  { s with options := s.options.insert key value }

/-- The settings with a severity. -/
def withSeverity (s : RuleSettings) (severity : Severity) : RuleSettings :=
  { s with severity := some severity }

/-- The settings that enable or disable the rule. -/
def withEnabled (s : RuleSettings) (enabled : Bool) : RuleSettings :=
  { s with enabled := some enabled }

/-- The key that says whether the rule is enabled. -/
def enabledKey : String := "enabled"

/-- The key that says how severe violations are. -/
def severityKey : String := "severity"

/-- The value of the key for enabling. -/
def readEnabled (rule : String) : Value → Except SettingsError Bool
  | .scalar (.boolean b) => .ok b
  | _ => .error (.malformed rule enabledKey "expected a boolean")

/-- The value of the key for the severity. -/
def readSeverity (rule : String) : Value → Except SettingsError Severity
  | .scalar (.string name) =>
    match Severity.ofName? name with
    | some s => .ok s
    | none => .error (.malformed rule severityKey (Severity.unknownMessage name))
  | _ => .error (.malformed rule severityKey "expected a string")

/-- The settings with one more key. -/
def addKey (s : RuleSettings) (key : String) (value : Value) : Except SettingsError RuleSettings :=
  if key = enabledKey then do
    return s.withEnabled (← readEnabled s.rule value)
  else if key = severityKey then do
    return s.withSeverity (← readSeverity s.rule value)
  else
    return s.withOption key value

/-- The settings with more keys. -/
def addKeys (s : RuleSettings) : List (String × Value) → Except SettingsError RuleSettings
  | [] => .ok s
  | (key, value) :: rest => do addKeys (← s.addKey key value) rest

/-- The settings that a table makes. -/
def ofTable (rule : String) (table : Table) : Except SettingsError RuleSettings :=
  (empty rule).addKeys table

/-- Whether the rule runs: one that has to be asked for does only if it is enabled. -/
def isEnabled (s : RuleSettings) (isOptIn : Bool) : Bool :=
  s.enabled.getD !isOptIn

/-- The severity of violations, if it is not left to the rule. -/
def severityOr (s : RuleSettings) (default : Severity) : Severity :=
  s.severity.getD default

/-- The key is one that the rule knows, or one that every rule knows. -/
def isKnown (known : List String) (key : String) : Bool :=
  known.contains key || key == enabledKey || key == severityKey

/-- Checks that the rule knows all options, unless it ignores those that it does not know. -/
def checkKeys (s : RuleSettings) (known : List String) (policy : UnknownKeys) :
    Except SettingsError Unit :=
  match policy with
  | .ignore => .ok ()
  | .reject =>
    match s.options.keys.find? fun k => !isKnown known k with
    | some key => .error (.unknownOption s.rule key)
    | none => .ok ()

/-- The value of an option, if there is one. -/
def get {α : Type} (s : RuleSettings) (key : String) (decode : Value → Except Refusal α) :
    Except SettingsError (Option α) :=
  match s.options.get? key with
  | none => .ok none
  | some v =>
    match decode v with
    | .ok a => .ok (some a)
    | .error e => .error (.malformed s.rule key e.message)

/-- The value of an option, or the default. -/
def getOr {α : Type} (s : RuleSettings) (key : String) (decode : Value → Except Refusal α) (default : α) :
    Except SettingsError α := do
  return (← s.get key decode).getD default

end RuleSettings

/-- The value as a set of texts, in ascending order. -/
def Toml.Value.asStringSet (v : Value) : Except Refusal (List String) :=
  sortedSet <$> v.asStrings

end SourceLint
