import SourceLint.Text.Split

/-!
# Allow directives

A comment such as `// lintel: allow(some-rule) reason="some reason"` allows what a rule would report
on the line of the comment and on the next line.

* **`Directive.ofLine?`** — the directive that a line carries.
* **`allowance`** — whether a rule is allowed on a line, and why.
-/

namespace SourceLint

open SourceLint.Text

/-- What a comment allows. -/
structure Directive where
  /-- The rules that it names, at least one. -/
  rules : List String
  reason : Option String
deriving DecidableEq, Repr

namespace Directive

/-- The name that stands for every rule. -/
def everyRule : String := "all"

/-- The word that begins a directive. -/
def keyword : List Char := "lintel:".toList

/-- Whether the directive is about the rule. -/
def covers (d : Directive) (rule : String) : Bool :=
  d.rules.contains rule || d.rules.contains everyRule

/-- The text of the comment that begins at the first two slashes of the line. -/
def comment? : List Char → Option (List Char)
  | '/' :: '/' :: rest => some (trim (rest.dropWhile (· == '/')))
  | _ :: rest => comment? rest
  | [] => none

/-- The reason that is written in quotes after the rules. -/
def reason? (rest : List Char) : Option String := do
  let value ← afterStart? "reason=".toList (trim rest)
  let quoted ← afterStart? ['"'] (trim value)
  let (reason, _) ← breakAt? '"' quoted
  return String.ofList reason

/-- The names in a list that commas separate, blanks around them and empty names left out. -/
def names (list : List Char) : List String :=
  ((splitOn ',' list).map trim).filterMap fun n =>
    if n.isEmpty then none else some (String.ofList n)

/-- The directive that a line carries, if it carries one. -/
def ofLine? (line : List Char) : Option Directive := do
  let comment ← comment? line
  let allow ← afterStart? keyword comment
  let list ← afterStart? "allow(".toList (trim allow)
  let (list, rest) ← breakAt? ')' (trim list)
  let rules := names list
  if rules.isEmpty then none else some ⟨rules, reason? rest⟩

end Directive

/-- Whether a rule is allowed to be broken. -/
inductive Allowance where
  | denied
  | allowed (reason : Option String)
deriving DecidableEq, Repr

/-- The rule is allowed to be broken. -/
def Allowance.isAllowed : Allowance → Bool
  | denied => false
  | allowed _ => true

/-- The reason that a directive gives, if one allows the rule to be broken. -/
def Allowance.reason? : Allowance → Option String
  | denied => none
  | allowed reason => reason

/-- What the first of the lines that is about the rule says. -/
def allowanceIn (rule : String) : List (List Char) → Allowance
  | [] => .denied
  | line :: rest =>
    match Directive.ofLine? line with
    | some d => if d.covers rule then .allowed d.reason else allowanceIn rule rest
    | none => allowanceIn rule rest

/-- The lines whose directives are about a line, which is counted from one: the one before it and the
line itself.  There is a number after that of the line, since numbers have no bound. -/
def linesAbout (text : List Char) (line : Nat) : List (List Char) :=
  let first := max (line - 1) 1
  ((lines text).drop (first - 1)).take (line + 1 - first)

/-- Whether a rule is allowed to be broken on a line of the text. -/
def allowance (text : List Char) (line : Nat) (rule : String) : Allowance :=
  allowanceIn rule (linesAbout text line)

end SourceLint
