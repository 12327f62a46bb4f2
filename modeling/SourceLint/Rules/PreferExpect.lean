import SourceLint.Rule.Basic
import SourceLint.Text.Split
import SourceLint.Traversal.Visitor

/-!
# Calls of assertion functions

The rule reports every call of a function whose name begins with a prefix, because assertions are to be
written with matchers.

* **`PreferExpect`** — the settings of the rule.
* **`PreferExpect.bannedCall?`** — the name of the function if a node is such a call.
* **`PreferExpect.rule`**, **`PreferExpect.entry`** — the rule.
-/

namespace SourceLint

open SourceLint.Syntax

/-- The settings of the rule. -/
structure PreferExpect where
  severity : Severity
  /-- How the names of the functions begin. -/
  bannedPrefix : String
deriving DecidableEq, Repr

namespace PreferExpect

/-- The name of the rule. -/
def identifier : String := "prefer-expect"

/-- The settings if nothing is set. -/
def standard : PreferExpect := ⟨.warning, "XCTAssert"⟩

/-- The key for the prefix. -/
def prefixKey : String := "banned_prefix"

/-- What the rule is about. -/
def description : RuleDescription where
  identifier := identifier
  name := "Prefer expect"
  explanation := "Prefer `expect(value).to(matcher)` over legacy assertion functions such as " ++
    "`XCTAssertTrue`."
  category := .idiomatic
  unknownKeys := .reject
  nonTriggering := [
    ⟨"expect(foo).to(equal(1));"⟩,
    ⟨"expect(foo) == 1;"⟩,
    ⟨"assert_eq!(foo, 1);"⟩,
    ⟨"MyXCTAssertTrue(foo);"⟩,
    ⟨"let check = XCTAssertTrue;"⟩,
    ⟨"suite.XCTAssertTrue(foo);"⟩]
  triggering := [
    ⟨"↓XCTAssertTrue(foo);\nexpect(foo) == 1;"⟩,
    ⟨"↓xctest::XCTAssertEqual(foo, 1);"⟩,
    ⟨"fn test_sum() \x7b\n    ↓XCTAssertEqual(sum(1, 2), 3);\n\x7d"⟩,
    ⟨"↓XCTAssertTrue(↓XCTAssertNotNil(foo));"⟩]
  corrections := []

/-- The function that a node calls, if the node is a call of a function by its name and the name begins
with the prefix. -/
def bannedCall? (start : String) (n : Node) : Option String :=
  match n.label with
  | .call (some callee) => callee.path.lastName?.filter (Text.beginsWith · start)
  | _ => none

/-- What is wrong with a call. -/
def reason (name : String) : String :=
  s!"Use `expect(...)` instead of `{name}`"

/-- The visitor that reports calls. -/
def visitor (r : PreferExpect) (source : SourceFile) : Visitor Violation where
  skipped := []
  leave n :=
    match bannedCall? r.bannedPrefix n with
    | some name => [source.violation identifier r.severity n.span (reason name)]
    | none => []

/-- The rule. -/
def rule (r : PreferExpect) : Rule where
  identifier := identifier
  description := description
  severity := r.severity
  isOptIn := true
  check source := (r.visitor source).run source.tree
  correction := none

/-- The settings of the rule from those of the configuration. -/
def ofSettings (s : RuleSettings) : Except SettingsError PreferExpect := do
  s.checkKeys [prefixKey] description.unknownKeys
  let start ← s.getOr prefixKey Toml.Value.asString standard.bannedPrefix
  if start == "" then
    throw (.malformed identifier prefixKey "must not be empty")
  return ⟨s.severityOr standard.severity, start⟩

/-- The rule as it is configured. -/
def entry : RuleEntry where
  description := description
  build s := rule <$> ofSettings s
  standard := rule standard

end PreferExpect

end SourceLint
