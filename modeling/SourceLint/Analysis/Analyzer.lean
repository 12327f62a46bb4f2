import SourceLint.Directive.Allowance
import SourceLint.Edit.Substitution
import SourceLint.Rule.Basic
import SourceLint.Settings.Config

/-!
# Analyzers

An analyzer runs rules on a file and applies the edits that they propose.

* **`RuleSet`** — rules and what was wrong with the settings of those that are missing.
* **`Analyzer.build`** — the analyzer with a set of rules, if these can be told apart.
* **`Analyzer.analyze`** — the violations in a file, in the order of reports.
* **`Analyzer.correct`** — the file after one pass of edits, with what was mended and what was not.
-/

namespace SourceLint

/-! ### Sets of rules -/

/-- Rules and what was wrong with settings. -/
structure RuleSet where
  rules : List Rule
  settingsErrors : List SettingsError

namespace RuleSet

/-- No rules. -/
def empty : RuleSet := ⟨[], []⟩

/-- The rules of both sets. -/
def append (a b : RuleSet) : RuleSet :=
  ⟨a.rules ++ b.rules, a.settingsErrors ++ b.settingsErrors⟩

/-- The set with one more rule. -/
def add (s : RuleSet) (r : Rule) : RuleSet :=
  { s with rules := s.rules ++ [r] }

/-- The errors for settings of rules that do not exist. -/
def unknownRules (entries : List RuleEntry) (config : Config) : List SettingsError :=
  (config.configuredRules.filter fun r => !entries.any fun e => e.identifier == r).map
    SettingsError.unknownRule

/-- What becomes of one entry: a rule, an error in its settings, or nothing if it is not enabled. -/
def ofEntry (config : Config) (e : RuleEntry) : RuleSet :=
  match config.ruleSettings e.identifier with
  | .error err => ⟨[], [err]⟩
  | .ok settings =>
    if settings.isEnabled e.isOptIn then
      match e.build settings with
      | .ok r => ⟨[r], []⟩
      | .error err => ⟨[], [err]⟩
    else empty

/-- The rules that a configuration enables. -/
def configured (entries : List RuleEntry) (config : Config) : RuleSet :=
  (entries.map (ofEntry config)).foldl append ⟨[], unknownRules entries config⟩

end RuleSet

/-! ### Building -/

/-- Why there is no analyzer, or no outcome. -/
inductive AnalyzerError where
  /-- The name that a rule gives for itself is not that of its description. -/
  | identifierMismatch (identifier described : String)
  /-- The name of a rule has the wrong form. -/
  | invalidIdentifier (identifier : String)
  /-- Two rules have the same name. -/
  | duplicateRule (identifier : String)
  /-- Edits cannot be applied. -/
  | substitution (error : SubstitutionError)
deriving DecidableEq, Repr

/-- The wording of the error. -/
def AnalyzerError.message : AnalyzerError → String
  | identifierMismatch identifier described =>
    s!"Rule identifier {identifier} does not match its description ({described})"
  | invalidIdentifier identifier => s!"Invalid rule identifier: {identifier}"
  | duplicateRule identifier => s!"Duplicate rule identifier: {identifier}"
  | substitution error => s!"Failed to apply corrections: {error.message}"

/-- Rules that can be told apart. -/
structure Analyzer where
  rules : List Rule
  /-- What was wrong with the settings of missing rules. -/
  settingsErrors : List SettingsError
  /-- Whether comments can allow violations. -/
  honorsDirectives : Bool

namespace Analyzer

/-- The names of the rules. -/
def identifiers (a : Analyzer) : List String :=
  a.rules.map (·.identifier)

/-- What is wrong with a list of rules, if anything is. -/
def defect? (rules : List Rule) : Option AnalyzerError :=
  match rules.find? fun r => r.identifier != r.description.identifier with
  | some r => some (.identifierMismatch r.identifier r.description.identifier)
  | none =>
    let names := rules.map (·.identifier)
    match names.find? fun n => !isValidIdentifier n with
    | some n => some (.invalidIdentifier n)
    | none => (duplicates names).head?.map AnalyzerError.duplicateRule

/-- The analyzer with the given rules. -/
def build (set : RuleSet) (honorsDirectives : Bool) : Except AnalyzerError Analyzer :=
  match defect? set.rules with
  | some e => .error e
  | none => .ok ⟨set.rules, set.settingsErrors, honorsDirectives⟩

/-! ### Running -/

/-- The violation is not allowed by a comment. -/
def counts (a : Analyzer) (source : SourceFile) (v : Violation) : Bool :=
  !(a.honorsDirectives && (allowance source.text v.location.line v.rule).isAllowed)

/-- The violations that one rule reports, in order. -/
def runRule (a : Analyzer) (source : SourceFile) (r : Rule) : List Violation :=
  sortViolations ((r.check source).filter (a.counts source))

/-- The violations in a file, in the order of reports. -/
def analyze (a : Analyzer) (source : SourceFile) : List Violation :=
  sortViolations (a.rules.flatMap (a.runRule source))

/-! ### Correcting -/

/-- The outcome of a pass of edits. -/
structure Outcome where
  text : List Char
  /-- The violations that were mended, each with its edit, in the order in which they were accepted. -/
  applied : List (Violation × Substitution)
  /-- The other violations, in the order of reports. -/
  uncorrected : List Violation
deriving DecidableEq, Repr

/-- Something was mended. -/
def Outcome.isChanged (o : Outcome) : Bool :=
  !o.applied.isEmpty

/-- The edit touches the place of the violation. -/
def isAnchored (s : Substitution) (v : Violation) : Bool :=
  s.start ≤ v.location.offset && v.location.offset ≤ s.stop

/-- The edit of a rule for a violation, if it can be used. -/
def usableCorrection? (source : SourceFile) (r : Rule) (v : Violation) : Option Substitution := do
  let correct ← r.correction
  let s ← correct v source
  if isAnchored s v && s.isValid source.text then some s else none

/-- Violations with edits, and violations without. -/
def sift (correct : Violation → Option Substitution) :
    List Violation → List (Violation × Substitution) × List Violation
  | [] => ([], [])
  | v :: vs =>
    let (candidates, others) := sift correct vs
    match correct v with
    | some s => ((v, s) :: candidates, others)
    | none => (candidates, v :: others)

/-- The violations that one rule reports, those with usable edits apart from the others. -/
def siftRule (a : Analyzer) (source : SourceFile) (r : Rule) :
    List (Violation × Substitution) × List Violation :=
  sift (usableCorrection? source r) (a.runRule source r)

/-- The file after a pass of edits.  Where edits overlap, the rule that comes first and the place that
comes first in the report of the rule win. -/
def correct (a : Analyzer) (source : SourceFile) : Except AnalyzerError Outcome :=
  let sifted := a.rules.map (a.siftRule source)
  let (accepted, rejected) := acceptNonOverlapping (sifted.flatMap (·.1))
  let uncorrected := sortViolations (sifted.flatMap (·.2) ++ rejected)
  match applySubstitutions source.text (accepted.map (·.2)) with
  | .ok text => .ok ⟨text, accepted, uncorrected⟩
  | .error e => .error (.substitution e)

end Analyzer

end SourceLint
