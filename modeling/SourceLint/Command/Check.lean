import SourceLint.Analysis.Analyzer
import SourceLint.Command.CommandError
import SourceLint.Files.Discovery
import SourceLint.Report.Report
import SourceLint.Rules.Registry

/-!
# Checking a project

A check finds the source files of a project, runs the rules that the configuration enables and reports
what they find.  If it is asked to, it writes the edits that the rules propose first, so that the report
is about the files as they are left.

* **`CheckOptions`** — what is checked and how.
* **`discover`** — the files to check.
* **`checkFiles`** — the check of some files, one after the other.
* **`check`** — the whole check: the tree as it is left, and the outcome.
-/

namespace SourceLint

open SourceLint.Files

/-- What is checked and how. -/
structure CheckOptions where
  /-- The file or the directory. -/
  path : String
  /-- Names of rules with commas between them, if only these rules are to run. -/
  rules : Option String
  /-- More patterns of files to leave out. -/
  exclude : List String
  /-- Whether edits are written. -/
  fix : Bool
deriving DecidableEq, Repr, Inhabited

/-! ### Rules -/

/-- The names in a list with commas. -/
def ruleNames (list : String) : List String :=
  let parts := (Text.splitOn ',' list.toList).map Text.trim
  (parts.filter fun p => !p.isEmpty).map String.ofList

/-- The registry of the named rules, and the configuration that enables them. -/
def restrict (registry : Registry) (config : Config) (names : List String) :
    Except RegistryError (Registry × Config) := do
  return (← registry.select names, names.foldl Config.enable config)

/-- The analyzer for a check. -/
def checkAnalyzer (config : Config) (rules : Option String) : Except CommandError Analyzer := do
  let registry ← Registry.builtin.mapError CommandError.registry
  let (registry, config) ←
    match rules with
    | none => pure (registry, config)
    | some list => (restrict registry config (ruleNames list)).mapError CommandError.registry
  (registry.analyzer config).mapError CommandError.analyzer

/-! ### Files -/

/-- The name that stands for what the user types. -/
def typedInput : String := "-"

/-- The files to check: the one that is named, or those below the directory that is named. -/
def discover (t : Tree) (root : String) (selection : FileSelection) (exclude : List String) :
    Except CommandError (List String) :=
  if t.isFile root then .ok [root]
  else
    match excludeList root (selection.exclude ++ exclude) with
    | .error (text, error) => .error (.excludePattern text error)
    | .ok excluded =>
      if root == typedInput then .ok []
      else
        match t.locate root with
        | .error fault => .error (.target root fault)
        | .ok place =>
          if t.isDirectoryAt place then
            .ok (filesBelow t root place excluded selection.respectsIgnoreFiles "rs")
          else .error (.target root .missing)

/-- The source file with a name. -/
def readSource (t : Tree) (name : String) : Except SourceError SourceFile :=
  match t.read name with
  | .ok text => SourceFile.parse name text
  | .error fault => .error (.unreadable name fault.message)

/-! ### Checking -/

/-- How far a check has come. -/
structure Progress where
  tree : Tree
  report : Report
  /-- The names and texts of the files with violations. -/
  sources : List (String × List Char)
  /-- What went wrong without making the check fail, the latest first. -/
  warnings : List String

namespace Progress

/-- Nothing was checked. -/
def start (t : Tree) (warnings : List String) : Progress :=
  ⟨t, .empty, [], warnings⟩

/-- The progress with one more warning. -/
def warn (p : Progress) (text : String) : Progress :=
  { p with warnings := text :: p.warnings }

/-- The progress with one more file. -/
def count (p : Progress) : Progress :=
  { p with report := { p.report with filesChecked := p.report.filesChecked + 1 } }

/-- The progress after edits were written to a file. -/
def written (p : Progress) (tree : Tree) (edits : Nat) : Progress :=
  { p with
    tree := tree
    report := { p.report with correctionsApplied := p.report.correctionsApplied + edits } }

/-- The progress with the violations of a file. -/
def record (p : Progress) (a : Analyzer) (source : SourceFile) : Progress :=
  match a.analyze source with
  | [] => p
  | violations =>
    { p with
      report := p.report.push violations
      sources := p.sources ++ [(source.path, source.text)] }

/-- The progress after the edits for a file were written, and the file as it is left, unless it cannot be
parsed any more. -/
def fixSource (p : Progress) (a : Analyzer) (source : SourceFile) :
    Except CommandError (Progress × Option SourceFile) :=
  match a.correct source with
  | .error error => .ok (p.warn s!"Leaving {source.path} uncorrected: {error.message}", some source)
  | .ok outcome =>
    if outcome.isChanged then
      match p.tree.write source.path outcome.text with
      | .error fault => .error (.unwritable source.path fault)
      | .ok tree =>
        let p := p.written tree outcome.applied.length
        match SourceFile.parse source.path outcome.text with
        | .ok corrected => .ok (p, some corrected)
        | .error error =>
          .ok (p.warn s!"Corrected file no longer parses: {error.message}", none)
    else .ok (p, some source)

/-- The progress after one more file.  A file that cannot be parsed is passed over. -/
def checkFile (p : Progress) (a : Analyzer) (fix : Bool) (name : String) :
    Except CommandError Progress :=
  match readSource p.tree name with
  | .error (.unparsable file error) =>
    .ok (p.warn s!"Skipping: {(SourceError.unparsable file error).message}")
  | .error error => .error (.source error)
  | .ok source =>
    if fix then
      match p.count.fixSource a source with
      | .error error => .error error
      | .ok (p, some source) => .ok (p.record a source)
      | .ok (p, none) => .ok p
    else .ok (p.count.record a source)

/-- The progress after more files; it ends with the first file that makes the check fail. -/
def checkFiles (p : Progress) (a : Analyzer) (fix : Bool) : List String → Progress × Option CommandError
  | [] => (p, none)
  | name :: names =>
    match p.checkFile a fix name with
    | .ok p => p.checkFiles a fix names
    | .error error => (p, some error)

end Progress

/-- The outcome of a check. -/
structure CheckResult where
  report : Report
  /-- Some violation is severe enough to make the check fail. -/
  failed : Bool
  /-- The names and texts of the files with violations. -/
  sources : List (String × List Char)
  warnings : List String

/-- The outcome of a check that has come to its end. -/
def Progress.result (p : Progress) (config : Config) : CheckResult :=
  let report := p.report.sort
  ⟨report, report.hasViolationsAt config.threshold, p.sources, p.warnings.reverse⟩

/-- What a check needs before it looks at files: the configuration, the analyzer and the files. -/
def prepare (t : Tree) (options : CheckOptions) (configName? : Option String) :
    Except CommandError (Config × Analyzer × List String) := do
  let file := ConfigFile.find t options.path configName?
  let config ← (file.load t).mapError CommandError.configuration
  let analyzer ← checkAnalyzer config options.rules
  let files ← discover t options.path config.files options.exclude
  return (config, analyzer, files)

/-- The check of a project: the tree as it is left, and the outcome. -/
def check (t : Tree) (options : CheckOptions) (configName? : Option String) :
    Tree × Except CommandError CheckResult :=
  match prepare t options configName? with
  | .error error => (t, .error error)
  | .ok (config, analyzer, files) =>
    let start := Progress.start t (analyzer.settingsErrors.map SettingsError.message).reverse
    match start.checkFiles analyzer options.fix files with
    | (p, none) => (p.tree, .ok (p.result config))
    | (p, some error) => (p.tree, .error error)

end SourceLint
