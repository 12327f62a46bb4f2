import SourceLint.Rule.Basic
import SourceLint.Traversal.Visitor

/-!
# Calls of a renamed function

A rule that reports the calls of one function and puts another text in the place of its name, or of the
whole call.
-/

namespace SourceLint

open SourceLint.Syntax

/-- The settings of the rule. -/
structure Rename where
  description : RuleDescription
  severity : Severity
  /-- The name of the function. -/
  function : String
  replacement : String
  /-- Whether the whole call is replaced. -/
  wholeCall : Bool
  isCorrectable : Bool

namespace Rename

/-- The place to report if a node is a call of the function. -/
def site? (r : Rename) (n : Node) : Option Span :=
  match n.label with
  | .call (some callee) =>
    if callee.path.isName r.function then
      if r.wholeCall then some n.span else n.children.findSome? calleeSpan?
    else none
  | _ => none
where
  /-- Where the callee is written. -/
  calleeSpan? (c : Node) : Option Span :=
    match c.label with
    | .part .callee => some c.span
    | _ => none

/-- The visitor that reports calls. -/
def visitor (r : Rename) (source : SourceFile) : Visitor Violation where
  skipped := []
  leave n :=
    match r.site? n with
    | some span =>
      [source.violation r.description.identifier r.severity span s!"call to {r.function}"]
    | none => []

/-- The edit that replaces what was reported. -/
def correction? (r : Rename) (v : Violation) (_ : SourceFile) : Option Substitution :=
  some ⟨v.location.offset, v.location.stop, r.replacement⟩

/-- The rule. -/
def rule (r : Rename) : Rule where
  identifier := r.description.identifier
  description := r.description
  severity := r.severity
  isOptIn := false
  check source := (r.visitor source).run source.tree
  correction := if r.isCorrectable then some r.correction? else none

end Rename

end SourceLint
