import SourceLint.Edit.Substitution
import SourceLint.Report.Violation
import SourceLint.Rule.Description
import SourceLint.Settings.RuleSettings
import SourceLint.Source.SourceFile
import SourceLint.Text.Quoted

/-!
# Rules

* **`Rule`** — what finds violations in a source file and may propose how to mend them.
* **`RuleEntry`** — a rule that can be built from settings.
* **`SourceFile.violation`** — the violation of a rule at a stretch of a file.
-/

namespace SourceLint

/-- A rule. -/
structure Rule where
  /-- The name that the rule gives for itself; it should be that of its description. -/
  identifier : String
  description : RuleDescription
  /-- How severe the violations of the rule are. -/
  severity : Severity
  /-- The rule runs only if it is asked for. -/
  isOptIn : Bool
  /-- The violations in a file, in the order in which they are found. -/
  check : SourceFile → List Violation
  /-- The edit that mends a violation, for a rule that mends any. -/
  correction : Option (Violation → SourceFile → Option Substitution)

/-- A rule that can be built from settings. -/
structure RuleEntry where
  description : RuleDescription
  build : RuleSettings → Except SettingsError Rule
  /-- The rule without settings. -/
  standard : Rule

/-- The name of the rule. -/
def RuleEntry.identifier (e : RuleEntry) : String :=
  e.description.identifier

/-- The rule runs only if it is asked for. -/
def RuleEntry.isOptIn (e : RuleEntry) : Bool :=
  e.standard.isOptIn

/-- The entry as it is shown to those who look for defects. -/
def RuleEntry.debugText (e : RuleEntry) : String :=
  "RuleEntry \x7b identifier: " ++ Text.quotedText e.identifier ++ " \x7d"

/-- The violation of a rule at a stretch of the file. -/
def SourceFile.violation (source : SourceFile) (rule : String) (severity : Severity) (span : Span)
    (reason : String) : Violation :=
  ⟨rule, severity, source.location span, some reason⟩

end SourceLint
