import SourceLint.Report.Violation
import SourceLint.Source.SourceFile
import SourceLint.Traversal.Visitor

/-!
# Recorders

A recorder is a visitor that writes down which nodes it left, reports some of them and may hand parts of
a node on to another recorder.

* **`Node.caption`** — the text that says which node it is.
* **`Target`**, **`Node.targets`** — the parts of a node that can be handed on.
* **`Recorder`** — what is written down, reported and handed on.
* **`Recorder.record`** — the record of some nodes of a file.
-/

namespace SourceLint

open SourceLint.Syntax

namespace Syntax.Node

/-- The parts of a node of a certain sort. -/
def childrenWith (n : Node) (p : Part → Bool) : List Node :=
  n.children.filter fun c =>
    match c.label with
    | .part part => p part
    | _ => false

/-- The children of the children of a certain sort. -/
def grandchildrenWith (n : Node) (p : Part → Bool) : List Node :=
  (n.childrenWith p).flatMap children

/-- The text that says which node it is: mostly its name. -/
def caption (n : Node) : String :=
  match n.label with
  | .module name | .struct name | .enum name | .union name | .trait name | .typeAlias name
  | .function name => name
  | .impl header => ((header.selfType.bind fun p => p.path.lastName?).getD "")
  | .implFunction member _ | .implConst member | .implType member | .field member => member.name
  | .call callee => (callee.bind fun p => p.path.lastName?).getD ""
  | .methodCall method => method
  | .macroCall path => path.lastName?.getD ""
  | .closure parameters => toString parameters
  | .block => toString n.children.length
  | .part _ => ""

/-- The items in the body of the node. -/
def bodyItems (n : Node) : List Node :=
  n.grandchildrenWith fun
    | .items => true
    | _ => false

/-- The lists of fields of the node. -/
def fieldLists (n : Node) : List Node :=
  n.childrenWith fun
    | .fields => true
    | _ => false

/-- The variants of the node. -/
def variants (n : Node) : List Node :=
  n.childrenWith fun
    | .variant => true
    | _ => false

/-- The expressions that the node passes to a call. -/
def callArguments (n : Node) : List Node :=
  n.grandchildrenWith fun
    | .arguments => true
    | _ => false

/-- The expression on which a method is called. -/
def callReceiver (n : Node) : List Node :=
  n.grandchildrenWith fun
    | .receiver => true
    | _ => false

/-- The expression that gives the node its value. -/
def valueExpression (n : Node) : List Node :=
  n.grandchildrenWith fun
    | .value => true
    | _ => false

/-- The block that is the body of the node. -/
def bodyBlocks (n : Node) : List Node :=
  n.children.filter fun c => c.kind? == some .block

end Syntax.Node

/-- What of a node is handed on. -/
inductive Target where
  | self
  | children
deriving DecidableEq, Repr

/-- The nodes that are handed on. -/
def Target.nodes (t : Target) (n : Node) : List Node :=
  match t, n.kind? with
  | .self, some .methodCall => n.callReceiver
  | .self, some .module | .self, some .struct | .self, some .enum | .self, some .union
  | .self, some .trait | .self, some .impl | .self, some .function | .self, some .field
  | .self, some .block => [n]
  | .children, some .module | .children, some .impl => n.bodyItems
  | .children, some .struct => n.fieldLists
  | .children, some .enum => n.variants.flatMap Syntax.Node.fieldLists
  | .children, some .union => n.fieldLists.flatMap Syntax.Node.children
  | .children, some .function | .children, some .implFunction => n.bodyBlocks
  | .children, some .implConst | .children, some .closure => n.valueExpression
  | .children, some .call | .children, some .methodCall => n.callArguments
  | .children, some .block => n.children
  | _, _ => []

/-- A node that a recorder left. -/
structure Event where
  /-- How many recorders handed the node on before. -/
  depth : Nat
  kind : NodeKind
  caption : String
  location : Location
deriving DecidableEq

/-- What a recorder writes down. -/
inductive Entry where
  | left (event : Event)
  | reported (violation : Violation)

/-- What is left out and what is reported; a recorder may hand nodes of a kind on to another one. -/
inductive Recorder where
  | plain (skipped reported : List NodeKind)
  | delegating (skipped reported : List NodeKind) (kind : NodeKind) (target : Target)
    (inner : Recorder)
deriving Inhabited

namespace Recorder

/-- The rule in whose name recorders report. -/
def ruleName : String := "recorder"

/-- What is written down at a node, before anything is handed on. -/
def entriesAt (source : SourceFile) (severity : Severity) (reported : List NodeKind) (depth : Nat)
    (n : Node) : List Entry :=
  match n.kind? with
  | none => []
  | some kind =>
    let location := source.location n.span
    let event := Entry.left ⟨depth, kind, n.caption, location⟩
    if reported.contains kind then
      [event, .reported ⟨ruleName, severity, location, some s!"{kind.name} {n.caption}"⟩]
    else
      [event]

/-- The visitor that a recorder is. -/
def visitor (source : SourceFile) (severity : Severity) : (depth : Nat) → Recorder → Visitor Entry
  | depth, plain skipped reported => ⟨skipped, entriesAt source severity reported depth⟩
  | depth, delegating skipped reported kind target inner =>
    let next := visitor source severity (depth + 1) inner
    ⟨skipped, fun n =>
      entriesAt source severity reported depth n ++
        if n.kind? = some kind then (target.nodes n).flatMap next.delegate else []⟩

/-- The record of some nodes of a file. -/
def record (source : SourceFile) (severity : Severity) (r : Recorder) (roots : List Node) : List Entry :=
  roots.flatMap (r.visitor source severity 0).delegate

end Recorder

/-- The nodes at which a traversal of a file can begin. -/
inductive Roots where
  /-- The whole tree. -/
  | tree
  /-- Each item or statement. -/
  | members
  /-- The expression of each statement that is one. -/
  | expressions
deriving DecidableEq, Repr

/-- The expression of a statement, if the statement is an expression. -/
def statementExpression? (n : Node) : List Node :=
  match n.label with
  | .part (.statement .expression) => n.children
  | _ => []

/-- The nodes at which the traversal of a file begins; a file of items has no expressions at its top. -/
def Roots.nodes (roots : Roots) (source : SourceFile) : List Node :=
  match roots with
  | .tree => [source.tree]
  | .members => source.members
  | .expressions =>
    if source.isFile then source.members else source.members.flatMap statementExpression?

end SourceLint
