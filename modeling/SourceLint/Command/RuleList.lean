import SourceLint.Json.Value
import SourceLint.Rules.Registry
import SourceLint.Text.Split

/-!
# The list of rules

* **`RuleListing`** — what is told of a rule.
* **`ruleTable`**, **`ruleListJson`** — the rules as a table and as JSON.
-/

namespace SourceLint

/-- What is told of a rule. -/
structure RuleListing where
  identifier : String
  name : String
  category : Category
  isOptIn : Bool
  isCorrectable : Bool
  explanation : String
deriving DecidableEq, Repr

/-- What is told of the rule of an entry. -/
def RuleEntry.listing (e : RuleEntry) : RuleListing :=
  ⟨e.description.identifier, e.description.name, e.description.category, e.isOptIn,
    e.standard.correction.isSome, e.description.explanation⟩

/-- A rule as JSON. -/
def RuleListing.toJson (l : RuleListing) : Json :=
  .object [
    ("identifier", .string l.identifier),
    ("name", .string l.name),
    ("category", .string l.category.name),
    ("opt_in", .boolean l.isOptIn),
    ("correctable", .boolean l.isCorrectable),
    ("explanation", .string l.explanation)]

/-- A text with blanks up to a width. -/
def padded (width : Nat) (text : String) : String :=
  text ++ String.ofList (List.replicate (width - text.length) ' ')

/-- A row of the table. -/
def tableRow (identifier category optIn fixable description : String) : String :=
  String.intercalate " "
    [padded 26 identifier, padded 10 category, padded 7 optIn, padded 8 fixable, description]

/-- A truth value in the table. -/
def yesNo (flag : Bool) : String :=
  if flag then "yes" else "no"

/-- A rule in the table. -/
def RuleListing.row (l : RuleListing) : String :=
  tableRow l.identifier l.category.name (yesNo l.isOptIn) (yesNo l.isCorrectable) l.explanation

/-- The rules as a table, with a hint for those that have to be asked for. -/
def ruleTable (rules : List RuleListing) : String :=
  Text.ofLines (
    ["Available rules:", "", tableRow "Identifier" "Category" "Opt-in" "Fixable" "Description",
      String.ofList (List.replicate 90 '-')] ++
    rules.map RuleListing.row ++
    ["", "Opt-in rules run only with `enabled = true` in lintel.toml or via --rules, e.g.:",
      "  lintel check --rules prefer-expect,test-case-accessibility",
      "  lintel check --fix --rules test-case-accessibility"])

/-- The rules as JSON. -/
def ruleListJson (rules : List RuleListing) : Json :=
  .array (rules.map RuleListing.toJson)

/-- What is told of the rules that come with the program. -/
def builtinListings : List RuleListing :=
  builtinRules.map RuleEntry.listing

end SourceLint
