import SourceLint.Text.Split

/-!
# Help

A page says what a command does, how it is called and which words and options it takes.  Where an option
has values that need an explanation there are two pages: a short one with a line for every option, and a
long one on which everything is spelled out.

* **`HelpEntry`**, **`HelpPage`** — what a page says.
* **`HelpPage.render`** — the text of a page.
* **`Topic`** — what there is a page about, and **`Topic.page`** the page.
-/

namespace SourceLint.CommandLine

/-! ### Pages -/

/-- A word or an option of a command line. -/
structure HelpEntry where
  /-- How it is written. -/
  form : String
  about : String
  /-- What is taken when it is left out. -/
  default : Option String
  /-- The values that it may have, and what they mean. -/
  choices : List (String × String)
deriving DecidableEq, Repr

/-- A page of help. -/
structure HelpPage where
  about : String
  usage : String
  /-- The commands that may follow, and what they do. -/
  commands : List (String × String)
  arguments : List HelpEntry
  options : List HelpEntry
deriving DecidableEq, Repr

/-- The greatest length of some texts. -/
def greatestLength (texts : List String) : Nat :=
  texts.foldl (fun n text => max n text.length) 0

/-- A text with blanks up to a length. -/
def padded (width : Nat) (text : String) : String :=
  text ++ String.ofList (List.replicate (width - text.length) ' ')

/-- What stands behind the explanation of an entry on a line. -/
def HelpEntry.notes (e : HelpEntry) : List String :=
  (e.default.map fun value => s!"[default: {value}]").toList ++
    if e.choices.isEmpty then []
    else
      let names := String.intercalate ", " (e.choices.map (·.1))
      [s!"[possible values: {names}]"]

/-- An entry on a line, of which the form takes up some columns. -/
def HelpEntry.line (width : Nat) (e : HelpEntry) : String :=
  let rest := String.intercalate " " (e.about :: e.notes)
  s!"  {padded width e.form}  {rest}"

/-- Where the explanation of an entry begins on a long page. -/
def margin : String := "          "

/-- The lines that explain the values of an entry. -/
def HelpEntry.choiceLines (e : HelpEntry) : List String :=
  if e.choices.isEmpty then []
  else
    let width := greatestLength (e.choices.map (·.1)) + 1
    let line (choice : String × String) : String :=
      let name := padded width (choice.1 ++ ":")
      s!"{margin}- {name} {choice.2}"
    ["", s!"{margin}Possible values:"] ++ e.choices.map line

/-- An entry with every part on lines of its own. -/
def HelpEntry.lines (e : HelpEntry) : List String :=
  let default := match e.default with
    | some value => [margin, s!"{margin}[default: {value}]"]
    | none => []
  [s!"  {e.form}", s!"{margin}{e.about}"] ++ default ++ e.choiceLines

/-- Lines under a heading, with an empty line before it; nothing without lines. -/
def underHeading (heading : String) (lines : List String) : List String :=
  if lines.isEmpty then [] else ["", s!"{heading}:"] ++ lines

/-- The lines of entries. -/
def entryLines (isLong : Bool) (entries : List HelpEntry) : List String :=
  if isLong then ((entries.map HelpEntry.lines).intersperse [""]).flatten
  else entries.map (HelpEntry.line (greatestLength (entries.map (·.form))))

/-- The lines of commands. -/
def commandLines (commands : List (String × String)) : List String :=
  let width := greatestLength (commands.map (·.1))
  commands.map fun c => s!"  {padded width c.1}  {c.2}"

/-- There is more to say about the page than fits on lines. -/
def HelpPage.hasDetails (p : HelpPage) : Bool :=
  (p.arguments ++ p.options).any fun e => !e.choices.isEmpty

/-- The text of a page; the long one, if it is asked for and there is one. -/
def HelpPage.render (p : HelpPage) (isLong : Bool) : String :=
  let isLong := isLong && p.hasDetails
  Text.ofLines <|
    [p.about, "", s!"Usage: {p.usage}"] ++
      underHeading "Commands" (commandLines p.commands) ++
      underHeading "Arguments" (entryLines isLong p.arguments) ++
      underHeading "Options" (entryLines isLong p.options)

/-! ### The pages of the program -/

/-- What there is a page about. -/
inductive Topic where
  | program
  | check
  | listRules
  | newConfig
  /-- The command that shows pages. -/
  | help
deriving DecidableEq, Repr

/-- An entry without a default and without special values. -/
def plainEntry (form about : String) : HelpEntry :=
  ⟨form, about, none, []⟩

def verboseEntry : HelpEntry :=
  plainEntry "-v, --verbose" "Enable verbose output"

def configEntry : HelpEntry :=
  plainEntry "-c, --config <CONFIG>" "Path to configuration file"

def formatEntry : HelpEntry where
  form := "-f, --format <FORMAT>"
  about := "Output format"
  default := some "text"
  choices := [
    ("text", "Human-readable diagnostics with source excerpts"),
    ("json", "JSON output"),
    ("compact", "One-line-per-violation compact format")]

/-- The option that shows the page, on a page with details or without. -/
def helpEntry (hasDetails isLong : Bool) : HelpEntry :=
  plainEntry "-h, --help" <|
    if !hasDetails then "Print help"
    else if isLong then "Print help (see a summary with '-h')"
    else "Print help (see more with '--help')"

def programPage : HelpPage where
  about := "Rule engine for Rust sources with automatic corrections"
  usage := "lintel [OPTIONS] <COMMAND>"
  commands := [
    ("check", "Run lint checks"),
    ("list-rules", "List available rules"),
    ("init", "Initialize configuration file"),
    ("help", "Print this message or the help of the given subcommand(s)")]
  arguments := []
  options := [verboseEntry, configEntry, helpEntry false false,
    plainEntry "-V, --version" "Print version"]

def checkPage (isLong : Bool) : HelpPage where
  about := "Run lint checks"
  usage := "lintel check [OPTIONS] [PATH]"
  commands := []
  arguments := [
    ⟨"[PATH]", "File or directory to analyze (default: current directory)", some ".", []⟩]
  options := [
    formatEntry,
    verboseEntry,
    configEntry,
    plainEntry "    --rules <RULES>"
      "Only run specific rules (comma-separated); opt-in rules named here are enabled",
    plainEntry "-e, --exclude <EXCLUDE>" "Exclude patterns (can be specified multiple times)",
    plainEntry "    --fix" "Apply available corrections in place",
    helpEntry true isLong]

def listRulesPage (isLong : Bool) : HelpPage where
  about := "List available rules"
  usage := "lintel list-rules [OPTIONS]"
  commands := []
  arguments := []
  options := [formatEntry, verboseEntry, configEntry, helpEntry true isLong]

def newConfigPage : HelpPage where
  about := "Initialize configuration file"
  usage := "lintel init [OPTIONS]"
  commands := []
  arguments := []
  options := [plainEntry "    --force" "Overwrite existing config", verboseEntry, configEntry,
    helpEntry false false]

def helpPage : HelpPage where
  about := "Print this message or the help of the given subcommand(s)"
  usage := "lintel help [COMMAND]..."
  commands := []
  arguments := [plainEntry "[COMMAND]..." "Print help for the subcommand(s)"]
  options := []

/-- The page about a topic. -/
def Topic.page (topic : Topic) (isLong : Bool) : HelpPage :=
  match topic with
  | .program => programPage
  | .check => checkPage isLong
  | .listRules => listRulesPage isLong
  | .newConfig => newConfigPage
  | .help => helpPage

/-- The text of the page about a topic. -/
def Topic.text (topic : Topic) (isLong : Bool) : String :=
  (topic.page isLong).render isLong

end SourceLint.CommandLine
