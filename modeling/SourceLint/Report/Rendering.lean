import SourceLint.Json.Decode
import SourceLint.Report.Report
import SourceLint.Text.Split

/-!
# Reports for users

* **`OutputFormat`** — the ways to write a report.
* **`Report.render`** — a report written in one of them; **`Report.shown?`** — what of it the user gets.
* **`Report.summary`** — the numbers of violations, in a colour that shows how bad they are.
* **`Violation.excerpt`** — a violation with the line in which it is.
-/

namespace SourceLint

/-- The ways to write a report. -/
inductive OutputFormat where
  /-- With excerpts of the files. -/
  | text
  | json
  /-- One violation on a line. -/
  | compact
deriving DecidableEq, Repr, Inhabited

/-- The format with a name. -/
def OutputFormat.ofName? : String → Option OutputFormat
  | "text" => some text
  | "json" => some json
  | "compact" => some compact
  | _ => none

/-! ### Excerpts -/

/-- The line of a text in which a violation is, and a line that marks its place. -/
def Violation.markedLine (v : Violation) (text : List Char) : List String :=
  match (Text.lines text)[v.location.line - 1]? with
  | none => []
  | some line =>
    let before := v.location.column - 1
    let covered := (Text.slice v.location.offset v.location.stop text).takeWhile (· != '\n')
    let blanks := List.replicate before ' '
    let marks := List.replicate (max 1 covered.length) '^'
    ["    " ++ String.ofList line, "    " ++ String.ofList (blanks ++ marks) ++ " " ++ v.annotation.label]

/-- A violation with the line in which it is, if the text of its file is known. -/
def Violation.excerpt (v : Violation) (text? : Option (List Char)) : String :=
  let marked := (text?.map v.markedLine).getD []
  Text.ofLines ([v.annotation.heading, s!"  at {v.place}"] ++ marked ++ [""])

/-! ### Formats -/

namespace Report

/-- The code for the colour of a report: red for errors, yellow for warnings, green for none. -/
def colour (errors warnings : Nat) : Nat :=
  if 0 < errors then 31 else if 0 < warnings then 33 else 32

/-- The numbers of violations, files and edits. -/
def summary (r : Report) : String :=
  let (errors, warnings) := r.countBySeverity
  let code := colour errors warnings
  let found := s!"Found {errors} error(s), {warnings} warning(s) in {r.filesChecked} file(s)"
  let applied :=
    if 0 < r.correctionsApplied then [s!"Applied {r.correctionsApplied} correction(s)"] else []
  Text.ofLines (s!"\x1b[{code}m{found}\x1b[0m" :: applied)

/-- The violations, one on a line. -/
def compact (r : Report) : String :=
  Text.ofLines (r.violations.map Violation.line)

/-- The violations with excerpts of the given texts, and a summary. -/
def detailed (r : Report) (sources : List (String × List Char)) : String :=
  String.join (r.violations.map fun v => v.excerpt (sources.lookup v.location.file)) ++ r.summary

/-- The report in a format. -/
def render (r : Report) (sources : List (String × List Char)) : OutputFormat → String
  | .text => r.detailed sources
  | .json => r.toJson.print ++ "\n"
  | .compact => r.compact

/-- The report says something of a file whose name is no text. -/
def hasOtherName (r : Report) : Bool :=
  r.violations.any fun v => !Files.PathName.isText v.location.file

/-- What the user gets of a report in a format: JSON is made of texts, and a name may be none. -/
def shown? (r : Report) (sources : List (String × List Char)) (format : OutputFormat) : Option String :=
  if format == .json && r.hasOtherName then none else some (r.render sources format)

end Report

end SourceLint
