/-!
# Errors in settings

Why a configuration, or a part of it, cannot be used.
-/

namespace SourceLint

/-- What is wrong with settings. -/
inductive SettingsError where
  /-- The file with the settings cannot be read. -/
  | unreadable (path reason : String)
  /-- The text of the settings is malformed as a whole. -/
  | unparsable (message : String)
  /-- A setting of a rule has a value that the rule cannot use. -/
  | malformed (rule key message : String)
  /-- A rule has a setting that it does not know. -/
  | unknownOption (rule key : String)
  /-- There are settings for a rule that does not exist. -/
  | unknownRule (rule : String)
deriving DecidableEq, Repr, Inhabited

namespace SettingsError

/-- The wording of the error. -/
def message : SettingsError → String
  | unreadable path reason => s!"Failed to read config file {path}: {reason}"
  | unparsable message => s!"Failed to parse config: {message}"
  | malformed rule key message => s!"Malformed configuration for rule {rule}, key `{key}`: {message}"
  | unknownOption rule key => s!"Unknown option `{key}` for rule {rule}"
  | unknownRule rule => s!"Unknown rule `{rule}` in configuration"

/-- The rule whose settings are wrong. -/
def rule? : SettingsError → Option String
  | unreadable _ _ | unparsable _ => none
  | malformed rule _ _ | unknownOption rule _ | unknownRule rule => some rule

end SettingsError

end SourceLint
