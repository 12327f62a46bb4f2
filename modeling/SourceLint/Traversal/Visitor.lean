import SourceLint.Syntax.Node

/-!
# Traversal

A visitor is asked about a node after it was asked about everything inside it.  It may leave out whole
subtrees by their kind, but the node at which a traversal begins is not left out.

* **`Visitor`** — the kinds that are left out and the answer at each node.
* **`Visitor.visit`** — the answers at a node and inside it.  A traversal carries an exemption, the kind
  of the node at which it began; the first node that has a kind uses it up.
* **`Visitor.delegate`** — the answers at a node that is handed on.
* **`Visitor.run`** — the answers in the tree of a whole text.
-/

namespace SourceLint

open SourceLint.Syntax

/-- What is left out, and what is answered at each node that has a kind. -/
structure Visitor (α : Type) where
  /-- The kinds of nodes that are not looked into. -/
  skipped : List NodeKind
  /-- The answers at a node when everything inside it was seen. -/
  leave : Node → List α

namespace Visitor

variable {α : Type}

/-- Nodes of the kind are left out, unless the kind is exempt. -/
def prunes (v : Visitor α) (exempt : Option NodeKind) (k : NodeKind) : Bool :=
  exempt != some k && v.skipped.contains k

mutual

/-- The answers inside a node and then at the node, nothing if it is left out, and the exemption for
what is visited next. -/
def visit (v : Visitor α) (exempt : Option NodeKind) : Node → List α × Option NodeKind
  | .mk l s cs =>
    match l.kind? with
    | none => v.visitAll exempt cs
    | some k =>
      if v.prunes exempt k then ([], none)
      else
        let inside := v.visitAll none cs
        (inside.1 ++ v.leave (.mk l s cs), inside.2)

/-- The answers at some nodes, one node after the other. -/
def visitAll (v : Visitor α) (exempt : Option NodeKind) : List Node → List α × Option NodeKind
  | [] => ([], exempt)
  | n :: ns =>
    let first := v.visit exempt n
    let rest := v.visitAll first.2 ns
    (first.1 ++ rest.1, rest.2)

end

/-- The answers at a node that is handed on, which is not left out itself. -/
def delegate (v : Visitor α) (n : Node) : List α :=
  (v.visit n.kind? n).1

/-- The answers in a whole tree. -/
def run (v : Visitor α) (tree : Node) : List α :=
  (v.visit none tree).1

end Visitor

end SourceLint
