import SourceLint.Syntax.Parser

/-!
# The recursion of the grammar

The productions of the grammar refer to one another in circles.  Every production is therefore given
a `Grammar`, a record of the nonterminals through which all circles pass, and calls these instead of
other productions; `SourceLint.Syntax.Grammar.Knot` builds the record.

* **`Grammar`** — the nonterminals.
* **`Precedence`** — how tightly operators bind.
-/

namespace SourceLint.Syntax

/-- How tightly an operator binds: the greater the tighter. -/
abbrev Precedence := Nat

namespace Precedence

def lowest : Precedence := 0
def assignment : Precedence := 1
def range : Precedence := 2
def or : Precedence := 3
def and : Precedence := 4
def comparison : Precedence := 6
def bitOr : Precedence := 7
def bitXor : Precedence := 8
def bitAnd : Precedence := 9
def shift : Precedence := 10
def sum : Precedence := 11
def product : Precedence := 12
def cast : Precedence := 13

end Precedence

/-- How tightly the operator binds. -/
def BinaryOperator.precedence : BinaryOperator → Precedence
  | add | sub => .sum
  | mul | div | rem => .product
  | and => .and
  | or => .or
  | bitXor => .bitXor
  | bitAnd => .bitAnd
  | bitOr => .bitOr
  | shiftLeft | shiftRight => .shift
  | equal | less | atMost | notEqual | atLeast | greater => .comparison
  | update => .assignment

/-- The nonterminals through which the productions refer to one another. -/
structure Grammar where
  /-- An expression; the flag says whether it may be a struct literal without parentheses. -/
  expression : (allowStruct : Bool) → Parser Node
  /-- An expression without operators between operands. -/
  operand : (allowStruct : Bool) → Parser Node
  /-- The operators after an operand that bind at least as tightly as the level, with their right
  operands. -/
  operators : (left : Node) → (allowStruct : Bool) → (level : Precedence) → Parser Node
  /-- An expression in the place of a statement, where a block-like expression ends at its brace. -/
  statementExpression : Parser Node
  /-- An `if` with all its branches. -/
  conditional : Parser Node
  /-- A type; the flag says whether it may be a sum of bounds. -/
  type : (allowPlus : Bool) → Parser Node
  /-- A bound on a type, with the nodes inside it. -/
  bound : Parser (List Node)
  /-- A pattern without alternatives. -/
  pattern : Parser Node
  /-- The statements up to the end of the group. -/
  statements : Parser (List Node)
  /-- An item with its attributes. -/
  item : Parser Node
  /-- Named fields in braces. -/
  fields : Parser Node
  /-- The tree of an import; it answers whether the tree is well formed throughout. -/
  importTree : (allowRoot : Bool) → Parser Bool

end SourceLint.Syntax
