import SourceLint.Analysis.Analyzer
import SourceLint.Rules.PreferExpect
import SourceLint.Rules.TestCaseAccessibility

/-!
# Registries of rules

* **`builtinRules`** — the rules that come with the program.
* **`Registry`** — rules with different names.
* **`Registry.select`** — the registry of some of the rules.
* **`Registry.analyzer`** — the analyzer with the rules that a configuration enables.
-/

namespace SourceLint

/-- The rules that come with the program. -/
def builtinRules : List RuleEntry :=
  [PreferExpect.entry, TestCaseAccessibility.entry]

/-- Why there is no registry. -/
inductive RegistryError where
  /-- Two rules have the same name. -/
  | duplicateRule (identifier : String)
  /-- No rule has the name. -/
  | unknownRule (identifier : String)
deriving DecidableEq, Repr

/-- The wording of the error. -/
def RegistryError.message : RegistryError → String
  | duplicateRule identifier => s!"Duplicate rule identifier: {identifier}"
  | unknownRule identifier => s!"Unknown rule: {identifier}"

/-- Rules in the order of their registration. -/
structure Registry where
  entries : List RuleEntry

namespace Registry

/-- The names of the rules. -/
def identifiers (r : Registry) : List String :=
  r.entries.map RuleEntry.identifier

/-- The registry of some rules, if their names are different. -/
def ofEntries (entries : List RuleEntry) : Except RegistryError Registry :=
  match (duplicates (entries.map RuleEntry.identifier)).head? with
  | some identifier => .error (.duplicateRule identifier)
  | none => .ok ⟨entries⟩

/-- The registry of the rules that come with the program. -/
def builtin : Except RegistryError Registry :=
  ofEntries builtinRules

/-- The rule with a name. -/
def get? (r : Registry) (identifier : String) : Option RuleEntry :=
  r.entries.find? fun e => e.identifier == identifier

/-- The registry of the rules with the given names, in the order of registration. -/
def select (r : Registry) (identifiers : List String) : Except RegistryError Registry :=
  match identifiers.find? fun i => (r.get? i).isNone with
  | some identifier => .error (.unknownRule identifier)
  | none => .ok ⟨r.entries.filter fun e => identifiers.contains e.identifier⟩

/-- The analyzer with the rules that a configuration enables. -/
def analyzer (r : Registry) (config : Config) : Except AnalyzerError Analyzer :=
  Analyzer.build (.configured r.entries config) true

end Registry

end SourceLint
