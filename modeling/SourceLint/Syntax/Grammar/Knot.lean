import SourceLint.Syntax.Grammar.Statement

/-!
# The grammar

The record of nonterminals is built from itself, one level of nesting at a time.  Every production
calls a nonterminal only a bounded number of times before it reads a token, so a depth in proportion
to the number of trees is never used up.

* **`grammar`** — the nonterminals down to a depth of nesting.
* **`Production.run`** — a parser run on all the trees of a text with enough depth.
-/

namespace SourceLint.Syntax

/-- The nonterminals at a depth of nesting at which no more is read. -/
def Grammar.exhausted : Grammar where
  expression _ := Parser.expected []
  operand _ := Parser.expected []
  operators _ _ _ := Parser.expected []
  statementExpression := Parser.expected []
  conditional := Parser.expected []
  type _ := Parser.expected []
  bound := Parser.expected []
  pattern := Parser.expected []
  statements := Parser.expected []
  item := Parser.expected []
  fields := Parser.expected []
  importTree _ := Parser.expected []

/-- The nonterminals down to a depth of nesting. -/
def grammar : (depth : Nat) → Grammar
  | 0 => .exhausted
  | depth + 1 => {
    expression := fun allowStruct s => Production.expression (grammar depth) allowStruct s
    operand := fun allowStruct s => Production.operand (grammar depth) allowStruct s
    operators := fun left allowStruct level s =>
      Production.operators (grammar depth) left allowStruct level s
    statementExpression := fun s => Production.statementExpression (grammar depth) s
    conditional := fun s => Production.conditional (grammar depth) s
    type := fun allowPlus s => Production.type (grammar depth) allowPlus s
    bound := fun s => Production.bound (grammar depth) s
    pattern := fun s => Production.pattern (grammar depth) s
    statements := fun s => Production.statements (grammar depth) s
    item := fun s => Production.item (grammar depth) s
    fields := fun s => Production.namedFields (grammar depth) s
    importTree := fun allowRoot s => Production.importTree (grammar depth) allowRoot s }

/-- The number of trees, those inside groups included. -/
def treeCount (ts : List TokenTree) : Nat :=
  ts.foldr (fun t count => t.size + count) 0

/-- How often nonterminals may call one another before a token is read. -/
def Grammar.callsPerToken : Nat := 16

/-- What a parser reads from all the trees of a text.  It fails at the first tree that it or one of
the groups in it left unread. -/
def Production.run {α : Type} (p : Grammar → Parser α) (ts : List TokenTree) : Except SyntaxError α := do
  let g := grammar (Grammar.callsPerToken * (treeCount ts + 2))
  let (a, s) ← (p g).run (.ofTrees ts)
  match s.leftover, s.rest with
  | some e, _ => throw e
  | none, t :: _ => throw ⟨t.span.start, .expected [] false⟩
  | none, [] => return a

end SourceLint.Syntax
