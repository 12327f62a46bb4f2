import SourceLint.Files.Tree
import SourceLint.Settings.Config

/-!
# Configuration files

* **`ConfigFile`** — where the configuration of a check is.
* **`ConfigFile.find`** — the file that is named, or the one in the directory of the project, if any.
* **`ConfigFile.load`** — the configuration in it.
-/

namespace SourceLint

open SourceLint.Files

/-- Where the configuration of a check is. -/
inductive ConfigFile where
  /-- In the file that the user names. -/
  | explicit (name : String)
  /-- In a file of the project. -/
  | project (name : String)
  /-- Nowhere. -/
  | default
deriving DecidableEq, Repr

/-- A configuration file cannot be used. -/
structure ConfigFileError where
  name : String
  cause : SettingsError
deriving DecidableEq, Repr

namespace ConfigFile

/-- The names of configuration files in a project; the first one counts. -/
def standardNames : List String := ["lintel.toml", ".lintel.toml"]

/-- The name of the file, if there is one. -/
def name? : ConfigFile → Option String
  | explicit name | project name => some name
  | default => none

/-- The directory of the project of what is checked. -/
def projectOf (t : Tree) (target : String) : String :=
  if t.isFile target then (PathName.parent? target).getD "." else target

/-- Where the configuration for a target is. -/
def find (t : Tree) (target : String) (explicitName? : Option String) : ConfigFile :=
  match explicitName? with
  | some name => explicit name
  | none =>
    let candidates := standardNames.map (PathName.join (projectOf t target))
    match candidates.find? t.hasEntry with
    | some name => project name
    | none => default

/-- The configuration in a file. -/
def read (t : Tree) (name : String) : Except SettingsError Config :=
  match t.read name with
  | .ok text => Config.ofText text
  | .error fault => .error (.unreadable name fault.message)

/-- The configuration, which is the standard one if there is no file. -/
def load (f : ConfigFile) (t : Tree) : Except ConfigFileError Config :=
  match f.name? with
  | none => .ok .standard
  | some name =>
    match read t name with
    | .ok config => .ok config
    | .error cause => .error ⟨name, cause⟩

end ConfigFile

end SourceLint
