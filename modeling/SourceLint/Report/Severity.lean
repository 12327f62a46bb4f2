/-!
# Severities

How serious a violation is.  An error is more serious than a warning.
-/

namespace SourceLint

/-- How serious a violation is. -/
inductive Severity where
  | warning
  | error
deriving DecidableEq, Repr, Inhabited

namespace Severity

/-- The name of a severity. -/
def name : Severity → String
  | warning => "warning"
  | error => "error"

/-- The severity with the given name. -/
def ofName? : String → Option Severity
  | "warning" => some warning
  | "error" => some error
  | _ => none

/-- The wording for a text that names no severity. -/
def unknownMessage (text : String) : String :=
  s!"unknown severity `{text}`, expected `warning` or `error`"

/-- Whether a severity is at least as serious as a threshold. -/
def reaches : (threshold severity : Severity) → Bool
  | warning, _ => true
  | error, s => s == error

theorem ofName?_name (s : Severity) : ofName? s.name = some s := by
  cases s <;> rfl

end Severity

end SourceLint
