import SourceLint.Command.CommandError

/-!
# A new configuration

* **`newConfigText`** — a configuration to begin with, which says what can be configured.
* **`newConfig`** — the tree with this configuration in a directory.
-/

namespace SourceLint

open SourceLint.Files

/-- The name of the configuration file that is written. -/
def newConfigName : String := "lintel.toml"

/-- The lines of the configuration to begin with. -/
def newConfigLines : List String := [
  "# lintel configuration",
  "",
  "# Lowest severity that makes `lintel check` exit non-zero (\"warning\" or \"error\")",
  "fail_on = \"error\"",
  "",
  "[analyzer]",
  "# Glob patterns to exclude from analysis",
  "exclude = [",
  "    \"**/target/**\",",
  "    \"**/generated/**\",",
  "]",
  "",
  "# Respect .gitignore files",
  "respect_gitignore = true",
  "",
  "# Rule configurations",
  "# Every rule accepts `enabled` and `severity`. Opt-in rules stay off until enabled.",
  "",
  "[rules.prefer-expect]",
  "enabled = false",
  "# severity = \"warning\"",
  "# banned_prefix = \"XCTAssert\"",
  "",
  "[rules.test-case-accessibility]",
  "enabled = false",
  "# severity = \"warning\"",
  "# allowed_prefixes = [\"helper_\"]",
  "# test_parent_types = [\"XCTestCase\"]",
  "# exempt_prefixed_types = false"]

/-- The configuration to begin with. -/
def newConfigText : List Char :=
  (Text.ofLines newConfigLines).toList

/-- What the user is told. -/
def newConfigNotice : String :=
  Text.ofLines [
    s!"Created {newConfigName}",
    "",
    "Next steps:",
    s!"  1. Edit {newConfigName} to enable and configure rules",
    "  2. Run: lintel check"]

/-- The tree with the configuration to begin with; one that is there is kept unless `force`. -/
def newConfig (t : Tree) (directory : String) (force : Bool) : Except CommandError Tree :=
  let name := PathName.join directory newConfigName
  if t.hasEntry name && !force then .error (.alreadyConfigured name)
  else (t.write name newConfigText).mapError CommandError.configurationFault

end SourceLint
