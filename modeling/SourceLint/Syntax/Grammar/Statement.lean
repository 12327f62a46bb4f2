import SourceLint.Syntax.Grammar.Item

/-!
# Statements

* **`statement`** — a binding, an item, a macro call or an expression.
* **`statements`** — the statements of a block; an expression that does not end at its brace needs a
  semicolon unless it is the last.
-/

namespace SourceLint.Syntax.Production

open SourceLint.Syntax.Parser

/-! ### Forms of statements -/

/-- The attributes of a statement belong to the leftmost operand of its expression, and every expression
begins where its left operand does. -/
def attachLeft (start : Position) (attributes : List Node) : Node → Node
  | .mk (.part (.expression .assignment)) s (l :: r) => aroundLeft .assignment s l r
  | .mk (.part (.expression (.binary op))) s (l :: r) => aroundLeft (.binary op) s l r
  | .mk (.part (.expression .cast)) s (l :: r) => aroundLeft .cast s l r
  | e => withEarlierAttributes start attributes e
where
  /-- The expression of a form with the attributes on its left operand. -/
  aroundLeft (form : ExpressionForm) (s : Span) (l : Node) (r : List Node) : Node :=
    let left := attachLeft start attributes l
    .mk (.part (.expression form)) ⟨left.span.start, s.stop⟩ (left :: r)

/-- What a macro call in the place of a statement turns out to be. -/
inductive MacroStatement where
  /-- No macro call, or one that is part of an expression. -/
  | none
  /-- An item, because a name follows the exclamation mark. -/
  | item
  /-- A statement of its own, because its braces end it. -/
  | call
deriving DecidableEq

/-- How a statement that begins with a path and an exclamation mark goes on. -/
def macroStatementAhead : Parser MacroStatement := do
  match ← ahead? plainPath with
  | none => return .none
  | some (_, s) =>
    let second := s.rest.drop 1
    let third := s.rest.drop 2
    if !startsMark "!" s.rest then
      return .none
    else if startsName second || startsWord "try" second then
      return .item
    else if startsGroup .brace second &&
        !((startsMark "." third && !startsMark ".." third) || startsMark "?" third) then
      return .call
    else
      return .none

/-- An item comes next, where an expression would be possible as well. -/
def startsItem (ts : List TokenTree) : Bool :=
  let second := ts.drop 1
  let third := ts.drop 2
  let functionWords := ["unsafe", "extern", "fn"]
  startsOneOf ["pub", "extern", "use", "fn", "mod", "type", "struct", "enum", "trait", "impl", "macro"]
      ts ||
    (startsWord "crate" ts && !startsMark "::" second) ||
    (startsWord "static" ts && (startsWord "mut" second || startsName second)) ||
    (startsWord "const" ts &&
      !(startsGroup .brace second || startsWord "static" second ||
        (startsWord "async" second && !startsOneOf functionWords third) ||
        startsWord "move" second || startsMark "|" second)) ||
    (startsWord "unsafe" ts && !startsGroup .brace second) ||
    (startsWord "async" ts && startsOneOf functionWords second) ||
    (startsWord "union" ts && startsName second) ||
    (startsWord "auto" ts && startsWord "trait" second) ||
    (startsWord "default" ts && startsOneOf ["unsafe", "impl"] second)

/-! ### Statements -/

/-- A statement, and whether it has to be the last because nothing ends it. -/
structure EndedStatement where
  node : Node
  isEnded : Bool

/-- The statement of a form that begins at a place. -/
def statementNode (start : Position) (form : StatementForm) (children : List Node) : Parser Node :=
  node start (.part (.statement form)) children

/-- A binding after its attributes. -/
def bindingStatement (g : Grammar) (start : Position) (attributes : List Node) : Parser Node := do
  word "let"
  let place ← here
  let pattern ← g.pattern
  let binding ←
    if ← mark? ":" then
      let type ← g.type true
      patternNode place .typed [pattern, type]
    else
      pure pattern
  let value ←
    if ← mark? "=" then
      let value ← g.expression true
      if !(← get).afterBrace && startsWord "else" (← trees) then
        skip
        let otherwise ← here
        let inner ← block g
        pure [value, ← expressionNode otherwise .blockExpression [inner]]
      else
        pure [value]
    else
      pure []
  mark ";"
  statementNode start .binding (attributes ++ binding :: value)

/-- A macro call that its braces end, after its attributes. -/
def macroStatement (start : Position) (attributes : List Node) : Parser Node := do
  let place ← here
  let p ← plainPath
  let call ← macroRest place p
  let _ ← mark? ";"
  statementNode start .macroUse (attributes ++ [call])

/-- An expression after its attributes, with the semicolon that may follow it. -/
def expressionStatement (g : Grammar) (start : Position) (attributes : List Node) :
    Parser EndedStatement := do
  let e ← g.statementExpression
  let closed := (← get).afterBrace
  let e := attachLeft start attributes e
  let start := e.span.start
  let hasSemicolon ← mark? ";"
  let isMacro := e.expression? == some .macroUse
  if isMacro && (hasSemicolon || closed) then
    return ⟨← statementNode start .macroUse e.children, true⟩
  else
    return ⟨← statementNode start .expression [e], hasSemicolon || isBlockLike e⟩

/-- A statement. -/
def statement (g : Grammar) : Parser EndedStatement := do
  let start ← here
  let attributes ← outerAttributes g
  let ts ← trees
  let form ← macroStatementAhead
  if form = .call then
    return ⟨← macroStatement start attributes, true⟩
  else if startsWord "let" ts then
    return ⟨← bindingStatement g start attributes, true⟩
  else if startsItem ts || form = .item then
    let inner ← itemRest g start attributes
    return ⟨← statementNode start .item [inner], true⟩
  else
    expressionStatement g start attributes

/-- The statements up to the end of the group. -/
def statementsWithin (g : Grammar) : (fuel : Nat) → Parser (List Node)
  | 0 => return []
  | fuel + 1 => do
    let start ← here
    if (← trees).isEmpty then
      return []
    else if ← mark? ";" then
      let empty ← statementNode start .expression [partOf (.expression .unstructured) []]
      return empty :: (← statementsWithin g fuel)
    else
      let s ← statement g
      if !(s.isEnded || (← trees).isEmpty) then
        fail .unendedStatement
      return s.node :: (← statementsWithin g fuel)

/-- The statements up to the end of the group. -/
def statements (g : Grammar) : Parser (List Node) := do
  statementsWithin g ((← trees).length + 1)

end SourceLint.Syntax.Production
