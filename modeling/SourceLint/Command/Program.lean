import SourceLint.Command.Arguments
import SourceLint.Command.NewConfig
import SourceLint.Command.RuleList

/-!
# The program

A run of the program takes a tree of files and a command line.  It leaves a tree, writes texts for the
user and ends with a code: 0 if all is well, 1 if the check or the command failed, 2 if the command line
makes no sense.

* **`RunOutcome`** — what a run leaves.
* **`runCommand`** — the run of a command.
* **`runProgram`** — the run for a command line.
-/

namespace SourceLint.CommandLine

open SourceLint.Files

/-- What a run leaves. -/
structure RunOutcome where
  tree : Tree
  exitCode : Nat
  /-- What the user asked for. -/
  output : String
  /-- What the user should know besides. -/
  warnings : List String
  /-- Why the run failed, if it did. -/
  failure : Option String

/-- The outcome of a run that changes nothing and succeeds. -/
def RunOutcome.told (t : Tree) (output : String) : RunOutcome :=
  ⟨t, 0, output, [], none⟩

/-- The outcome of a run that fails. -/
def RunOutcome.failed (t : Tree) (error : CommandError) : RunOutcome :=
  ⟨t, 1, "", [], some error.report⟩

/-- The name of the program and its version. -/
def versionText : String :=
  Text.ofLines ["lintel 0.1.0"]

/-- The run of a check.  The report is shown after all files were written, so a run whose report cannot be
shown fails and has corrected what there was to correct. -/
def runCheck (t : Tree) (options : CheckOptions) (format : OutputFormat) (config : Option String) :
    RunOutcome :=
  match SourceLint.check t options config with
  | (t, .error error) => .failed t error
  | (t, .ok result) =>
    match result.report.shown? result.sources format with
    | some output => ⟨t, if result.failed then 1 else 0, output, result.warnings, none⟩
    | none => ⟨t, 1, "", result.warnings, some CommandError.nameNotText.report⟩

/-- The list of rules in a format. -/
def listRules : OutputFormat → String
  | .json => (ruleListJson builtinListings).print ++ "\n"
  | .text | .compact => ruleTable builtinListings

/-- The run of a command. -/
def runCommand (t : Tree) (invocation : Invocation) : RunOutcome :=
  match invocation.command with
  | .check options format => runCheck t options format invocation.config
  | .listRules format => .told t (listRules format)
  | .newConfig force =>
    match SourceLint.newConfig t "." force with
    | .ok t => .told t newConfigNotice
    | .error error => .failed t error

/-- The run for a command line. -/
def runProgram (t : Tree) (arguments : List String) : RunOutcome :=
  match Request.ofArguments arguments with
  | .run invocation => runCommand t invocation
  | .help topic isLong => .told t (topic.text isLong)
  | .version => .told t versionText
  | .misuse message => ⟨t, 2, "", [], some s!"error: {message}"⟩

end SourceLint.CommandLine
