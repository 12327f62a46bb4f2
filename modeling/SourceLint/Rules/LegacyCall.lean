import SourceLint.Rule.Basic
import SourceLint.Text.Split
import SourceLint.Traversal.Recorder

/-!
# Calls in legacy modules

The rule reports calls of certain functions in modules whose names mark them as legacy, but not in the
modules inside these unless they are marked themselves.

* **`LegacyCall`** — the settings of the rule.
* **`LegacyCall.rule`**, **`LegacyCall.entry`** — the rule.
-/

namespace SourceLint

open SourceLint.Syntax

/-- The settings of the rule. -/
structure LegacyCall where
  severity : Severity
  /-- The names of the functions. -/
  names : List String
deriving DecidableEq, Repr

namespace LegacyCall

/-- The name of the rule. -/
def identifier : String := "legacy-call"

/-- The settings if nothing is set. -/
def standard : LegacyCall := ⟨.warning, ["fetch"]⟩

/-- The key for the names of functions. -/
def namesKey : String := "names"

/-- What the rule is about.  No examples are given, so nothing is demanded of the rule by its description. -/
def description : RuleDescription where
  identifier := identifier
  name := "Legacy call"
  explanation := "Calls inside legacy modules should use the modern API."
  category := .idiomatic
  unknownKeys := .ignore
  nonTriggering := []
  triggering := []
  corrections := []

/-- The name of a module marks it as legacy. -/
def isLegacyName (name : String) : Bool :=
  Text.beginsWith name "legacy_"

/-- The node is a call of one of the functions. -/
def isLegacyCall (names : List String) (n : Node) : Bool :=
  match n.label with
  | .call (some callee) => names.any callee.path.isName
  | _ => false

/-- The node is a legacy module. -/
def isLegacyModule (n : Node) : Bool :=
  match n.label with
  | .module name => isLegacyName name
  | _ => false

/-- The visitor that reports calls, but not those in other modules. -/
def callVisitor (r : LegacyCall) (source : SourceFile) : Visitor Violation where
  skipped := [.module]
  leave n :=
    if isLegacyCall r.names n then [source.violation identifier r.severity n.span "legacy call"] else []

/-- The visitor that hands on legacy modules. -/
def visitor (r : LegacyCall) (source : SourceFile) : Visitor Violation where
  skipped := []
  leave n := if isLegacyModule n then (r.callVisitor source).delegate n else []

/-- The edit that replaces the function by its modern counterpart. -/
def correction? (v : Violation) (_ : SourceFile) : Option Substitution :=
  some (.insertion v.location.offset "modern_")

/-- The rule. -/
def rule (r : LegacyCall) : Rule where
  identifier := identifier
  description := description
  severity := r.severity
  isOptIn := false
  check source := (r.visitor source).run source.tree
  correction := some correction?

/-- The settings of the rule from those of the configuration. -/
def ofSettings (s : RuleSettings) : Except SettingsError LegacyCall := do
  s.checkKeys [namesKey] description.unknownKeys
  return ⟨s.severityOr standard.severity, ← s.getOr namesKey Toml.Value.asStrings standard.names⟩

/-- The rule as it is configured. -/
def entry : RuleEntry where
  description := description
  build s := rule <$> ofSettings s
  standard := rule standard

end LegacyCall

end SourceLint
