import SourceLint.Rule.Basic
import SourceLint.Syntax.Attributes
import SourceLint.Text.Split
import SourceLint.Traversal.Recorder

/-!
# Members of test cases

A type is a test case if it derives one of certain traits or implements one of them.  Test cases are run
by their runner and are not for other code to use, so their members should be private, except tests,
what the runner calls by its name, and members with certain prefixes.

* **`TestCaseAccessibility`** — the settings of the rule.
* **`TestCaseAccessibility.testCases`** — the names of the test cases of a tree.
* **`TestCaseAccessibility.exposed?`** — the name and the visibility of a node that should be private.
* **`TestCaseAccessibility.correction?`** — the edit that makes a member private.
* **`TestCaseAccessibility.rule`**, **`TestCaseAccessibility.entry`** — the rule.
-/

namespace SourceLint

open SourceLint.Syntax SourceLint.Text

/-- The settings of the rule. -/
structure TestCaseAccessibility where
  severity : Severity
  /-- How the names of members begin that need not be private, in ascending order. -/
  allowedPrefixes : List String
  /-- The traits that make a type a test case, in ascending order. -/
  parentTypes : List String
  /-- Whether test cases whose own name begins with an allowed prefix are left out. -/
  exemptsPrefixedTypes : Bool
deriving DecidableEq, Repr

namespace TestCaseAccessibility

/-- The name of the rule. -/
def identifier : String := "test-case-accessibility"

/-- The settings if nothing is set. -/
def standard : TestCaseAccessibility := ⟨.warning, [], ["XCTestCase"], false⟩

/-- The key for the allowed prefixes. -/
def prefixesKey : String := "allowed_prefixes"

/-- The key for the traits of test cases. -/
def parentsKey : String := "test_parent_types"

/-- The key for leaving out test cases by their names. -/
def exemptKey : String := "exempt_prefixed_types"

/-- The settings with one more allowed prefix. -/
def allowPrefix (r : TestCaseAccessibility) (start : String) : TestCaseAccessibility :=
  { r with allowedPrefixes := sortedSet (start :: r.allowedPrefixes) }

/-- The settings with one more trait of test cases. -/
def addParent (r : TestCaseAccessibility) (parent : String) : TestCaseAccessibility :=
  { r with parentTypes := sortedSet (parent :: r.parentTypes) }

/-- What the rule is about. -/
def description : RuleDescription where
  identifier := identifier
  name := "Test case accessibility"
  explanation := "Members of test-case types should be private, except test methods, " ++
    "lifecycle hooks and members with an allowed prefix."
  category := .lint
  unknownKeys := .reject
  nonTriggering := [
    .ofLines [
      "struct Helper \x7b",
      "    pub value: u8,",
      "\x7d",
      "",
      "impl Helper \x7b",
      "    pub fn new() -> Self \x7b",
      "        Self \x7b value: 0 \x7d",
      "    \x7d",
      "\x7d"],
    .ofLines [
      "#[derive(XCTestCase)]",
      "struct LoginTests \x7b",
      "    session: Session,",
      "\x7d"],
    .ofLines [
      "struct LoginTests;",
      "",
      "impl XCTestCase for LoginTests \x7b\x7d",
      "",
      "impl LoginTests \x7b",
      "    pub fn set_up(&mut self) \x7b\x7d",
      "    pub fn tear_down_with_error(&mut self) -> Result<(), Error> \x7b",
      "        Ok(())",
      "    \x7d",
      "    pub fn test_login(&self) \x7b\x7d",
      "    fn make_user(&self) -> User \x7b",
      "        User::default()",
      "    \x7d",
      "\x7d"],
    .ofLines [
      "#[derive(XCTestCase)]",
      "struct LoginTests;",
      "",
      "impl LoginTests \x7b",
      "    #[test]",
      "    pub fn login_succeeds() \x7b\x7d",
      "",
      "    pub fn all_tests() -> Vec<&'static str> \x7b",
      "        pub struct Listing \x7b",
      "            pub names: Vec<&'static str>,",
      "        \x7d",
      "        Vec::new()",
      "    \x7d",
      "\x7d"],
    .ofLines [
      "struct LoginTests;",
      "",
      "impl XCTestCase for LoginTests \x7b\x7d",
      "",
      "impl Display for LoginTests \x7b",
      "    fn fmt(&self, f: &mut Formatter<'_>) -> fmt::Result \x7b",
      "        Ok(())",
      "    \x7d",
      "\x7d"]]
  triggering := [
    .ofLines [
      "#[derive(XCTestCase)]",
      "struct LoginTests \x7b",
      "    ↓pub session: Session,",
      "\x7d"],
    .ofLines [
      "struct LoginTests;",
      "",
      "impl XCTestCase for LoginTests \x7b\x7d",
      "",
      "impl LoginTests \x7b",
      "    ↓pub(crate) fn make_user(&self) -> User \x7b",
      "        User::default()",
      "    \x7d",
      "    ↓pub const TIMEOUT: u64 = 5;",
      "    pub fn test_login(&self) \x7b\x7d",
      "\x7d"],
    .ofLines [
      "struct LoginTests;",
      "",
      "impl xctest::XCTestCase for LoginTests \x7b\x7d",
      "",
      "impl LoginTests \x7b",
      "    ↓pub fn test_with(&self, user: User) \x7b\x7d",
      "\x7d"],
    .ofLines [
      "#[derive(Debug, XCTestCase)]",
      "struct LoginTests(↓pub Session);"]]
  corrections := [
    (.ofLines [
      "#[derive(XCTestCase)]",
      "struct LoginTests \x7b",
      "    ↓pub session: Session,",
      "\x7d"],
    .ofLines [
      "#[derive(XCTestCase)]",
      "struct LoginTests \x7b",
      "    session: Session,",
      "\x7d"]),
    (.ofLines [
      "struct LoginTests;",
      "",
      "impl XCTestCase for LoginTests \x7b\x7d",
      "",
      "impl LoginTests \x7b",
      "    ↓pub(crate)  fn make_user(&self) \x7b\x7d",
      "\x7d"],
    .ofLines [
      "struct LoginTests;",
      "",
      "impl XCTestCase for LoginTests \x7b\x7d",
      "",
      "impl LoginTests \x7b",
      "    fn make_user(&self) \x7b\x7d",
      "\x7d"])]

/-! ### Test cases -/

/-- The name of a type that is written as a path without a type before it. -/
def plainName? (type : TypedPath) : Option String :=
  if type.qualified then none else type.path.lastName?

/-- The name of the type that an implementation is for, if it is a plain one. -/
def implName? (header : ImplHeader) : Option String :=
  header.selfType.bind plainName?

/-- The type that a node alone makes a test case. -/
def testCaseOf? (parents : List String) (n : Node) : Option String :=
  let derives := (derivedNames n.attributes).any parents.contains
  match n.label with
  | .struct name | .enum name | .union name => if derives then some name else none
  | .impl header =>
    match header.implemented with
    | some (_, path) =>
      if path.lastName?.any parents.contains then implName? header else none
    | none => none
  | _ => none

/-- The visitor that finds test cases. -/
def collector (parents : List String) : Visitor String where
  skipped := []
  leave n := (testCaseOf? parents n).toList

/-- The names of the test cases of a tree. -/
def testCases (r : TestCaseAccessibility) (tree : Node) : List String :=
  (collector r.parentTypes).run tree

/-- A name begins with an allowed prefix. -/
def hasAllowedPrefix (r : TestCaseAccessibility) (name : String) : Bool :=
  r.allowedPrefixes.any (beginsWith name)

/-- The members of the type are looked at. -/
def isChecked (r : TestCaseAccessibility) (cases : List String) (name : String) : Bool :=
  cases.contains name && !(r.exemptsPrefixedTypes && r.hasAllowedPrefix name)

/-! ### Members -/

/-- The members that the runner of tests calls by their names. -/
def lifecycleMembers : List String :=
  ["set_up", "tear_down", "set_up_with_error", "tear_down_with_error", "all_tests"]

/-- Members with the name need not be private. -/
def isExempt (r : TestCaseAccessibility) (name : String) : Bool :=
  lifecycleMembers.contains name || r.hasAllowedPrefix name

/-- The function is a test by its name and its parameters. -/
def isTestMethod (name : String) (receiverOnly : Bool) : Bool :=
  beginsWith name "test" && receiverOnly

/-- The member that a node is, unless it is a test. -/
def member? (n : Node) : Option Member :=
  match n.label with
  | .field member | .implConst member | .implType member => some member
  | .implFunction member receiverOnly =>
    if marksTest n.attributes || isTestMethod member.name receiverOnly then
      none
    else some member
  | _ => none

/-- The name of a member that should be private, and where its visibility is written. -/
def exposed? (r : TestCaseAccessibility) (n : Node) : Option (String × Span) := do
  let member ← member? n
  let span ← member.visibility
  if r.isExempt member.name then none else some (member.name, span)

/-- What is wrong with a member. -/
def reason (name owner : String) : String :=
  s!"`{name}` of test case `{owner}` should be private"

/-- The visitor that reports the members of a type, but not those of types inside it. -/
def memberVisitor (r : TestCaseAccessibility) (source : SourceFile) (owner : String) :
    Visitor Violation where
  skipped := [.block, .closure, .module, .struct, .enum, .union, .trait, .typeAlias, .impl, .function]
  leave n :=
    match r.exposed? n with
    | some (name, span) => [source.violation identifier r.severity span (reason name owner)]
    | none => []

/-- The type to which the members inside a node belong, and the nodes that hold them. -/
def memberNodes (n : Node) : Option (String × List Node) :=
  match n.label with
  | .struct name => some (name, n.fieldLists)
  | .union name => some (name, n.fieldLists.flatMap Node.children)
  | .impl header =>
    if header.implemented.isSome then none
    else (implName? header).map fun name => (name, n.bodyItems)
  | _ => none

/-- The visitor that hands on the members of test cases. -/
def visitor (r : TestCaseAccessibility) (source : SourceFile) (cases : List String) :
    Visitor Violation where
  skipped := []
  leave n :=
    match memberNodes n with
    | some (owner, nodes) =>
      if r.isChecked cases owner then nodes.flatMap (r.memberVisitor source owner).delegate else []
    | none => []

/-- The edit that makes a member private: its visibility and the blanks after it go away. -/
def correction? (v : Violation) (source : SourceFile) : Option Substitution :=
  let start := v.location.offset
  let stop := v.location.stop
  if (Substitution.deletion start stop).isValid source.text &&
      "pub".toList.isPrefixOf (slice start stop source.text) then
    let rest := dropBytes stop source.text
    some (.deletion start (stop + (byteLength rest - byteLength (trimStart rest))))
  else none

/-- The rule. -/
def rule (r : TestCaseAccessibility) : Rule where
  identifier := identifier
  description := description
  severity := r.severity
  isOptIn := true
  check source := (r.visitor source (r.testCases source.tree)).run source.tree
  correction := some correction?

/-- The settings of the rule from those of the configuration. -/
def ofSettings (s : RuleSettings) : Except SettingsError TestCaseAccessibility := do
  s.checkKeys [prefixesKey, parentsKey, exemptKey] description.unknownKeys
  let prefixes ← s.getOr prefixesKey Toml.Value.asStringSet standard.allowedPrefixes
  let parents ← s.getOr parentsKey Toml.Value.asStringSet standard.parentTypes
  let exempts ← s.getOr exemptKey Toml.Value.asBool standard.exemptsPrefixedTypes
  return ⟨s.severityOr standard.severity, prefixes, parents, exempts⟩

/-- The rule as it is configured. -/
def entry : RuleEntry where
  description := description
  build s := rule <$> ofSettings s
  standard := rule standard

end TestCaseAccessibility

end SourceLint
