import SourceLint.Files.IgnoreList
import SourceLint.Files.Tree
import SourceLint.Rules.Registry
import SourceLint.Settings.ConfigFile

/-!
# Errors of commands

* **`CommandError`** — why a command fails.
* **`CommandError.chain`** — the wording, the outermost text first, each explained by the next one.
* **`CommandError.report`** — the wording as it is shown to the user.
-/

namespace SourceLint

open SourceLint.Files

/-- Why a command fails. -/
inductive CommandError where
  | configuration (error : ConfigFileError)
  | registry (error : RegistryError)
  | analyzer (error : AnalyzerError)
  /-- A pattern for files to leave out is none. -/
  | excludePattern (text : String) (error : PatternError)
  /-- There is nothing to check. -/
  | target (name : String) (fault : Fault)
  | source (error : SourceError)
  /-- The edited text of a file cannot be written. -/
  | unwritable (name : String) (fault : Fault)
  /-- There is a configuration file already. -/
  | alreadyConfigured (name : String)
  /-- The configuration file cannot be written. -/
  | configurationFault (fault : Fault)
  /-- The report is about a file whose name is no text, and the format has texts only. -/
  | nameNotText
deriving Inhabited

namespace CommandError

/-- The wording of an error in settings and of what is behind it. -/
def settingsChain (error : SettingsError) : List String :=
  match error with
  | .unreadable _ reason => [error.message, reason]
  | _ => [error.message]

/-- The wording of an error in a source file and of what is behind it. -/
def sourceChain (error : SourceError) : List String :=
  match error with
  | .unreadable _ reason => [error.message, reason]
  | .unparsable _ _ => [error.message]

/-- The wording of an error, and of what is behind it. -/
def chain : CommandError → List String
  | configuration ⟨name, cause⟩ => s!"Failed to load config: {name}" :: settingsChain cause
  | registry error => [error.message]
  | analyzer error => ["Failed to build analyzer", error.message]
  | excludePattern text error =>
    let shown := String.ofList (trimmedLine ('!' :: text.toList))
    [s!"Invalid exclude pattern: {text}", s!"error parsing glob '{shown}': {error.message}"]
  | target name fault => [s!"{name}: IO error for operation on {name}: {fault.message}"]
  | source error => sourceChain error
  | unwritable name fault => [s!"Failed to write {name}", fault.message]
  | alreadyConfigured name =>
    [s!"Configuration file already exists at {name}. Use --force to overwrite."]
  | configurationFault fault => [fault.message]
  | nameNotText => ["path contains invalid UTF-8 characters"]

/-- The lines of a text, the first one after a mark and the others after as many blanks. -/
def hangingLines (mark : String) (text : String) : String :=
  let blanks := String.ofList (mark.toList.map fun _ => ' ')
  let lines := (Text.splitOn '\n' text.toList).map String.ofList
  mark ++ String.intercalate ("\n" ++ blanks) lines

/-- The mark before a cause, which has a number if it is not the only one. -/
def causeMark (isOnly : Bool) (index : Nat) : String :=
  if isOnly then "    "
  else
    let number := toString index
    String.ofList (List.replicate (5 - number.length) ' ') ++ number ++ ": "

/-- Texts after the marks of causes. -/
def numberedCauses (isOnly : Bool) (index : Nat) : List String → List String
  | [] => []
  | text :: texts =>
    hangingLines (causeMark isOnly index) text :: numberedCauses isOnly (index + 1) texts

/-- The wording as it is shown to the user. -/
def report (e : CommandError) : String :=
  match e.chain with
  | [] => "Error: "
  | [message] => s!"Error: {message}"
  | message :: causes =>
    let listed := String.intercalate "\n" (numberedCauses (causes.length == 1) 0 causes)
    s!"Error: {message}\n\nCaused by:\n{listed}"

end CommandError

end SourceLint
