import SourceLint.Json.Value
import SourceLint.Rule.Basic

/-!
# Rules as JSON

* **`RuleDescription.toJson`** — a description; what becomes of unknown settings is left out.
-/

namespace SourceLint

/-- A piece of code as JSON. -/
def Example.toJson (e : Example) : Json :=
  .object [("code", .string e.code)]

/-- A description as JSON. -/
def RuleDescription.toJson (d : RuleDescription) : Json :=
  .object [
    ("identifier", .string d.identifier),
    ("name", .string d.name),
    ("explanation", .string d.explanation),
    ("category", .string d.category.name),
    ("non_triggering", .array (d.nonTriggering.map Example.toJson)),
    ("triggering", .array (d.triggering.map Example.toJson)),
    ("corrections", .array (d.corrections.map fun p => .array [p.1.toJson, p.2.toJson]))]

end SourceLint
