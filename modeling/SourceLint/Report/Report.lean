import SourceLint.Report.Violation

/-!
# Reports

The outcome of a check of one or more files.  Its counts have no bound, so adding them loses nothing.

* **`Report.merge`** — the report on the files of two reports.
* **`Report.hasViolationsAt`** — whether a violation reaches a severity.
* **`Report.countBySeverity`** — how many errors and how many warnings there are.
-/

namespace SourceLint

/-- The outcome of a check. -/
structure Report where
  violations : List Violation
  /-- The number of files that were checked. -/
  filesChecked : Nat
  /-- The number of edits that were written to files. -/
  correctionsApplied : Nat
deriving DecidableEq, Repr

namespace Report

/-- The report on no file. -/
def empty : Report := ⟨[], 0, 0⟩

/-- The report with more violations at its end. -/
def push (r : Report) (vs : List Violation) : Report :=
  { r with violations := r.violations ++ vs }

/-- The report with its violations in order. -/
def sort (r : Report) : Report :=
  { r with violations := sortViolations r.violations }

/-- The report on the files of both reports, with its violations in order. -/
def merge (r s : Report) : Report :=
  sort ⟨r.violations ++ s.violations, r.filesChecked + s.filesChecked,
    r.correctionsApplied + s.correctionsApplied⟩

/-- Some violation reaches the severity. -/
def hasViolationsAt (r : Report) (threshold : Severity) : Bool :=
  r.violations.any fun v => threshold.reaches v.severity

/-- Some violation is an error. -/
def hasErrors (r : Report) : Bool :=
  r.hasViolationsAt .error

/-- The numbers of errors and of warnings. -/
def countBySeverity (r : Report) : Nat × Nat :=
  let errors := r.violations.countP fun v => v.severity == .error
  (errors, r.violations.length - errors)

end Report

end SourceLint
