import SourceLint.Files.PathName
import SourceLint.Report.Severity
import SourceLint.Source.Location

/-!
# Violations

What a rule has against a place in a file.

* **`Violation.order`** — the order of reports: by file, then by offset, then by rule.
* **`sortViolations`** — violations in this order; those that it does not tell apart stay as they are.
* **`Violation.line`**, **`Violation.paragraph`** — the two ways to write a violation.
* **`Annotation`** — a violation as a heading and a labelled stretch.
-/

namespace SourceLint

/-- What a rule has against a place. -/
structure Violation where
  /-- The identifier of the rule. -/
  rule : String
  severity : Severity
  location : Location
  /-- What is wrong, if the rule says it. -/
  reason : Option String
deriving DecidableEq, Repr, Inhabited

namespace Violation

/-- What is wrong; the rule has to do if it does not say more. -/
def message (v : Violation) : String :=
  v.reason.getD v.rule

/-- The order of reports. -/
def order (a b : Violation) : Ordering :=
  ((Files.PathName.order a.location.file b.location.file).then
    (compare a.location.offset b.location.offset)).then (compare a.rule b.rule)

/-- A violation does not come after another one in a report. -/
def notAfter (a b : Violation) : Bool :=
  a.order b != .gt

/-- The place of a violation as a reader looks for it. -/
def place (v : Violation) : String :=
  s!"{v.location.file}:{v.location.line}:{v.location.column}"

/-- A violation on one line. -/
def line (v : Violation) : String :=
  s!"{v.place}: {v.severity.name} [{v.rule}] {v.message}"

/-- A violation on two lines, both ended. -/
def paragraph (v : Violation) : String :=
  s!"{v.rule} at {v.place}\n  {v.severity.name}: {v.message}\n"

end Violation

/-- The violations in the order of reports. -/
def sortViolations (vs : List Violation) : List Violation :=
  vs.mergeSort Violation.notAfter

/-- A heading and a stretch of the text with a label. -/
structure Annotation where
  heading : String
  label : String
  offset : Nat
  length : Nat
deriving DecidableEq, Repr

/-- The annotation that shows a violation in its text. -/
def Violation.annotation (v : Violation) : Annotation :=
  ⟨s!"[{v.rule}] {v.message}", v.severity.name, v.location.offset, v.location.length⟩

end SourceLint
