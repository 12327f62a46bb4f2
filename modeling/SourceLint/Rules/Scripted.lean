import SourceLint.Rule.Basic

/-!
# Rules with given answers

A rule that reports the same violations in every file and knows the edits that mend them.
-/

namespace SourceLint

/-- A violation that is reported in every file. -/
structure ScriptedViolation where
  rule : String
  severity : Severity
  line : Nat
  column : Nat
  offset : Nat
  length : Nat
  reason : Option String
  /-- The edit that mends it. -/
  fix : Option Substitution

/-- What is reported, and by whom. -/
structure Scripted where
  identifier : String
  description : RuleDescription
  severity : Severity
  isOptIn : Bool
  isCorrectable : Bool
  violations : List ScriptedViolation

/-- The violation as it is reported in a file. -/
def ScriptedViolation.inFile (s : ScriptedViolation) (path : String) : Violation :=
  ⟨s.rule, s.severity, ⟨path, s.line, s.column, s.offset, s.length⟩, s.reason⟩

/-- The violation is the given one, as far as its rule, its stretch and its reason tell. -/
def ScriptedViolation.isAbout (s : ScriptedViolation) (v : Violation) : Bool :=
  s.rule == v.rule && s.offset == v.location.offset && s.length == v.location.length &&
    s.reason == v.reason

namespace Scripted

/-- The edit for the first violation that is the given one. -/
def correction? (r : Scripted) (v : Violation) (_ : SourceFile) : Option Substitution :=
  (r.violations.find? fun s => s.isAbout v).bind (·.fix)

/-- The rule. -/
def rule (r : Scripted) : Rule where
  identifier := r.identifier
  description := r.description
  severity := r.severity
  isOptIn := r.isOptIn
  check source := r.violations.map fun s => s.inFile source.path
  correction := if r.isCorrectable then some r.correction? else none

end Scripted

end SourceLint
