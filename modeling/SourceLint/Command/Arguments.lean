import SourceLint.Command.Check
import SourceLint.Command.Help
import SourceLint.Report.Rendering

/-!
# Command lines

A command line names a command and gives options to it.  An option has a long name and may have a short
one; some take a value, which is the next word or stands in the same word.  Words that begin no option are
positional, and all words are after `--`.  Words are written as names of files are, since some of them name
files; the names of rules and the patterns of files to leave out have to be texts.

* **`Command`**, **`Invocation`** — what the program is asked to do.
* **`Level`**, **`readWords`** — the options that are known at a place of the command line, and those that
  were found.
* **`Invocation.ofArguments`** — what a command line asks for.
-/

namespace SourceLint.CommandLine

/-- What the program is asked to do. -/
inductive Command where
  | check (options : CheckOptions) (format : OutputFormat)
  | listRules (format : OutputFormat)
  | newConfig (force : Bool)
deriving DecidableEq, Repr

/-- A command and the options that every command has. -/
structure Invocation where
  command : Command
  /-- The name of a configuration file. -/
  config : Option String
  isVerbose : Bool
deriving DecidableEq, Repr

/-- What a command line asks for. -/
inductive Request where
  | run (invocation : Invocation)
  /-- A page of help. -/
  | help (topic : Topic) (isLong : Bool)
  | version
  /-- The command line makes no sense. -/
  | misuse (message : String)
deriving DecidableEq, Repr

/-! ### Options -/

/-- What an option is followed by. -/
inductive Arity where
  /-- Nothing. -/
  | flag
  /-- A value that passes the test; the option may be given once. -/
  | single (accepts : String → Bool)
  /-- A value that passes the test; the option may be given again. -/
  | repeatable (accepts : String → Bool)
  /-- Nothing; the user gets the page of help, a long one for the long name. -/
  | help
  /-- Nothing; the user gets the version. -/
  | version

/-- An option. -/
structure OptionSpec where
  long : String
  short : Option Char
  arity : Arity

/-- The options at one place of the command line, and how many positional words there may be. -/
structure Level where
  topic : Topic
  options : List OptionSpec
  /-- A positional word has to pass the test; there is none without a test. -/
  positional : Option (String → Bool)

/-- The options that were found, each with its values, and the positional word. -/
structure Found where
  values : List (String × String)
  positional : Option String
deriving Inhabited

namespace Found

/-- Nothing was found. -/
def empty : Found := ⟨[], none⟩

/-- Whether an option was found. -/
def has (f : Found) (name : String) : Bool :=
  f.values.any fun v => v.1 == name

/-- The values of an option in the order in which they were given. -/
def all (f : Found) (name : String) : List String :=
  (f.values.filter fun v => v.1 == name).map (·.2)

/-- The value of an option. -/
def value? (f : Found) (name : String) : Option String :=
  (f.all name).head?

end Found

/-- What was found, or what the user gets instead. -/
abbrev Read (α : Type) := Except Request α

/-- The command line makes no sense. -/
def misused {α : Type} (message : String) : Read α :=
  .error (.misuse message)

/-- What was found, with an option and its value; `byLongName` says how the option is written. -/
def addOption (level : Level) (found : Found) (option : OptionSpec) (byLongName : Bool)
    (value : String) : Read Found :=
  let added : Found := { found with values := found.values ++ [(option.long, value)] }
  let addOnce : Read Found :=
    if found.has option.long then misused s!"--{option.long} cannot be used multiple times"
    else .ok added
  let refused : Read Found := misused s!"invalid value '{value}' for --{option.long}"
  match option.arity with
  | .help => .error (.help level.topic byLongName)
  | .version => .error .version
  | .flag => addOnce
  | .repeatable accepts => if accepts value then .ok added else refused
  | .single accepts =>
    if found.has option.long then addOnce
    else if accepts value then .ok added
    else refused

/-- What was found, with a positional word. -/
def addPositional (level : Level) (found : Found) (word : String) : Read Found :=
  match level.positional, found.positional with
  | some accepts, none =>
    if accepts word then .ok { found with positional := some word }
    else misused s!"invalid value '{word}'"
  | _, _ => misused s!"unexpected argument '{word}'"

/-! ### Words -/

/-- Whether an option takes a value. -/
def OptionSpec.takesValue (o : OptionSpec) : Bool :=
  match o.arity with
  | .single _ | .repeatable _ => true
  | .flag | .help | .version => false

/-- What a word is, if it is not positional. -/
inductive Word where
  | escape
  | long (name : List Char) (value : Option (List Char))
  | short (cluster : List Char)
  | plain

/-- What a word is. -/
def Word.of (word : String) : Word :=
  match word.toList with
  | ['-', '-'] => escape
  | '-' :: '-' :: rest =>
    match Text.breakAt? '=' rest with
    | some (name, value) => long name (some value)
    | none => long rest none
  | '-' :: c :: rest => short (c :: rest)
  | _ => plain

/-- A word can be the value of the option before it. -/
def isValue (word : String) : Bool :=
  match Word.of word with
  | .plain => true
  | _ => false

/-- What was found, and an option that still needs its value. -/
abbrev Pending := Found × Option OptionSpec

/-- What was found after a long option. -/
def readLong (level : Level) (found : Found) (name : List Char) (value : Option (List Char)) :
    Read Pending :=
  match level.options.find? fun o => o.long == String.ofList name, value with
  | none, _ =>
    let shown := String.ofList name
    misused s!"unexpected argument '--{shown}'"
  | some o, some v =>
    if o.takesValue then return (← addOption level found o true (String.ofList v), none)
    else misused s!"unexpected value for --{o.long}"
  | some o, none =>
    if o.takesValue then return (found, some o)
    else return (← addOption level found o true "", none)

/-- What was found after a group of short options; the rest of the group may be the value of one. -/
def readCluster (level : Level) (found : Found) : List Char → Read Pending
  | [] => .ok (found, none)
  | c :: cs =>
    match level.options.find? fun o => o.short == some c with
    | none =>
      let shown := String.ofList [c]
      misused s!"unexpected argument '-{shown}'"
    | some o =>
      if o.takesValue then
        match cs with
        | [] => .ok (found, some o)
        | '=' :: value | value =>
          return (← addOption level found o false (String.ofList value), none)
      else do readCluster level (← addOption level found o false "") cs

/-- What was found after positional words. -/
def readPositionals (level : Level) (found : Found) : List String → Read Found
  | [] => .ok found
  | word :: words => do readPositionals level (← addPositional level found word) words

/-- What was found at a level, and the words that are left; `stops` says which plain words end it. -/
def readWords (level : Level) (stops : Bool) (found : Found) (pending : Option OptionSpec) :
    List String → Read (Found × List String)
  | [] =>
    match pending with
    | some o => misused s!"a value is required for --{o.long}"
    | none => .ok (found, [])
  | word :: words =>
    match pending with
    | some o =>
      if isValue word then do
        readWords level stops (← addOption level found o true word) none words
      else misused s!"a value is required for --{o.long}"
    | none =>
      match Word.of word with
      | .escape => do return (← readPositionals level found words, [])
      | .long name value => do
        let (found, pending) ← readLong level found name value
        readWords level stops found pending words
      | .short cluster => do
        let (found, pending) ← readCluster level found cluster
        readWords level stops found pending words
      | .plain =>
        if stops then .ok (found, word :: words)
        else do readWords level stops (← addPositional level found word) none words

/-! ### Commands -/

/-- The text is not empty. -/
def isFilled (text : String) : Bool :=
  text != ""

/-- The text is the name of a format. -/
def isFormat (text : String) : Bool :=
  (OutputFormat.ofName? text).isSome

/-- The options of every command. -/
def commonOptions : List OptionSpec := [
  ⟨"verbose", some 'v', .flag⟩,
  ⟨"config", some 'c', .single isFilled⟩,
  ⟨"help", some 'h', .help⟩]

/-- The option for the format. -/
def formatOption : OptionSpec := ⟨"format", some 'f', .single isFormat⟩

/-- The options before the command. -/
def programLevel : Level :=
  ⟨.program, commonOptions ++ [⟨"version", some 'V', .version⟩], none⟩

/-- The options of a check. -/
def checkLevel : Level where
  topic := .check
  options := commonOptions ++ [
    formatOption,
    ⟨"rules", none, .single Files.PathName.isText⟩,
    ⟨"exclude", some 'e', .repeatable Files.PathName.isText⟩,
    ⟨"fix", none, .flag⟩]
  positional := some isFilled

/-- The options of the list of rules. -/
def listRulesLevel : Level :=
  ⟨.listRules, commonOptions ++ [formatOption], none⟩

/-- The options of a new configuration. -/
def newConfigLevel : Level :=
  ⟨.newConfig, commonOptions ++ [⟨"force", none, .flag⟩], none⟩

/-- The format that was asked for. -/
def Found.format (f : Found) : OutputFormat :=
  ((f.value? "format").bind OutputFormat.ofName?).getD .text

/-- The check that was asked for. -/
def Found.check (f : Found) : Command :=
  .check ⟨f.positional.getD ".", f.value? "rules", f.all "exclude", f.has "fix"⟩ f.format

/-- The level of a command, and the command that what was found at it makes. -/
def commandNamed? : String → Option (Level × (Found → Command))
  | "check" => some (checkLevel, Found.check)
  | "list-rules" => some (listRulesLevel, fun f => .listRules f.format)
  | "init" => some (newConfigLevel, fun f => .newConfig (f.has "force"))
  | _ => none

/-- What is asked for after the name of a command; what is said there comes before what was said of all
commands. -/
def readCommand (common : Found) (level : Level) (command : Found → Command) (words : List String) :
    Read Invocation := do
  let (found, _) ← readWords level false .empty none words
  return ⟨command found, found.value? "config" <|> common.value? "config",
    found.has "verbose" || common.has "verbose"⟩

/-- What there is to say about a word that may name a command. -/
def topicNamed? (word : String) : Option Topic :=
  if word == "help" then some .help else (commandNamed? word).map fun c => c.1.topic

/-- The answer to a question for help, which may name a command; no command has commands of its own. -/
def helpAbout : List String → Read Invocation
  | [] => .error (.help .program true)
  | word :: words =>
    match topicNamed? word, words with
    | some topic, [] => .error (.help topic true)
    | some _, word :: _ | none, _ => misused s!"unrecognized subcommand '{word}'"

/-- What a command line asks for, or what the user gets instead. -/
def readArguments (arguments : List String) : Read Invocation := do
  match ← readWords programLevel true .empty none arguments with
  | (_, []) => misused "a command is required: check, list-rules or init"
  | (common, word :: words) =>
    if word == "help" then helpAbout words
    else
      match commandNamed? word with
      | none => misused s!"unrecognized subcommand '{word}'"
      | some (level, command) => readCommand common level command words

/-- What a command line asks for. -/
def Request.ofArguments (arguments : List String) : Request :=
  match readArguments arguments with
  | .ok invocation => .run invocation
  | .error request => request

end SourceLint.CommandLine
