import SourceLint.Syntax.Grammar.Pattern

/-!
# Expressions

* **`operand`** — an expression without operators between operands: signs before it, the atom itself
  and the calls, fields and indices after it.
* **`operators`** — operators and their right operands, by precedence.
* **`expression`** — both together.
* **`statementExpression`** — an expression in the place of a statement or of the body of an arm,
  where a block-like expression ends at its brace unless a method or a question mark follows.
-/

namespace SourceLint.Syntax.Production

open SourceLint.Syntax.Parser

/-! ### Forms -/

/-- The expression ends at its brace where it stands as a statement. -/
def isBlockLike (e : Node) : Bool :=
  match e.expression? with
  | some .conditional | some .matching | some .blockExpression | some .unsafeBlock
  | some .whileLoop | some .endlessLoop | some .forLoop | some .tryBlock | some .constBlock => true
  | _ => false

/-- The expression is a range. -/
def isRange (e : Node) : Bool :=
  e.expression? == some .range

/-- The expression is a comparison. -/
def isComparison (e : Node) : Bool :=
  match e.expression? with
  | some (.binary op) => op.precedence == Precedence.comparison
  | _ => false

/-- The expression has no parts that are kept. -/
def isUnstructured (e : Node) : Bool :=
  e.expression? == some .unstructured

/-- The node with attributes before it.  An expression without parts begins with them, but does not keep
them. -/
def withAttributes (start : Position) (attributes : List Node) (e : Node) : Node :=
  if attributes.isEmpty then e
  else if isUnstructured e then .mk e.label ⟨start, e.span.stop⟩ e.children
  else .mk e.label ⟨start, e.span.stop⟩ (attributes ++ e.children)

/-- The node with attributes that were read before it was known what they belong to.  An expression without
parts has no place for them. -/
def withEarlierAttributes (start : Position) (attributes : List Node) (e : Node) : Node :=
  if isUnstructured e then e else withAttributes start attributes e

/-- An expression may begin with the next tree. -/
def startsExpression (ts : List TokenTree) : Bool :=
  (startsAnyWord ts && !startsWord "as" ts) || startsGroup .parenthesis ts ||
    startsGroup .bracket ts || startsGroup .brace ts || startsLiteral ts ||
    (startsMark "!" ts && !startsMark "!=" ts) ||
    (startsMark "-" ts && !startsMark "-=" ts && !startsMark "->" ts) ||
    (startsMark "*" ts && !startsMark "*=" ts) || (startsMark "|" ts && !startsMark "|=" ts) ||
    (startsMark "&" ts && !startsMark "&=" ts) || startsMark ".." ts ||
    (startsMark "<" ts && !startsMark "<=" ts && !startsMark "<<=" ts) || startsMark "::" ts ||
    startsLifetime ts || startsMark "#" ts

/-! ### Operators -/

/-- The operators, longer ones before those that they begin with. -/
def operatorTable : List (String × BinaryOperator) :=
  [("+=", .update), ("-=", .update), ("*=", .update), ("/=", .update), ("%=", .update),
    ("^=", .update), ("&=", .update), ("|=", .update), ("<<=", .update), (">>=", .update),
    ("&&", .and), ("||", .or), ("<<", .shiftLeft), (">>", .shiftRight), ("==", .equal),
    ("<=", .atMost), ("!=", .notEqual), (">=", .atLeast), ("+", .add), ("-", .sub), ("*", .mul),
    ("/", .div), ("%", .rem), ("^", .bitXor), ("&", .bitAnd), ("|", .bitOr), ("<", .less),
    (">", .greater)]

/-- The operator that comes next. -/
def operator? (ts : List TokenTree) : Option (String × BinaryOperator) :=
  operatorTable.find? fun entry => startsMark entry.1 ts

/-- An equals sign that assigns comes next. -/
def startsAssignment (ts : List TokenTree) : Bool :=
  startsMark "=" ts && !startsMark "=>" ts

/-- How tightly the operator that comes next binds. -/
def nextPrecedence (ts : List TokenTree) : Precedence :=
  match operator? ts with
  | some (_, op) => op.precedence
  | none =>
    if startsAssignment ts then .assignment
    else if startsMark ".." ts then .range
    else if startsWord "as" ts then .cast
    else .lowest

/-- Extends a right operand by the operators that bind more tightly than the one before it, or as
tightly if that is an assignment. -/
def extendOperand (g : Grammar) (allowStruct : Bool) (level : Precedence) :
    (fuel : Nat) → Node → Parser Node
  | 0, e => return e
  | fuel + 1, e => do
    let ts ← trees
    let next := nextPrecedence ts
    if next > level || (next == level && level == Precedence.assignment) then
      let e ← g.operators e allowStruct next
      if (← trees).length == ts.length then
        return e
      else
        extendOperand g allowStruct level fuel e
    else
      return e

/-- The right operand of an operator. -/
def rightOperand (g : Grammar) (allowStruct : Bool) (level : Precedence) : Parser Node := do
  let e ← g.operand allowStruct
  extendOperand g allowStruct level ((← trees).length + 1) e

/-- A range without an upper bound ends here. -/
def endsRange (allowStruct : Bool) (ts : List TokenTree) : Bool :=
  ts.isEmpty || startsMark "," ts || startsMark ";" ts ||
    (startsMark "." ts && !startsMark ".." ts) || startsMark "?" ts || startsMark "=>" ts ||
    (!allowStruct && startsGroup .brace ts) || startsMark "=" ts || startsMark "+" ts ||
    startsMark "/" ts || startsMark "%" ts || startsMark "^" ts || startsMark ">" ts ||
    startsMark "<=" ts || startsMark "!=" ts || startsMark "-=" ts || startsMark "*=" ts ||
    startsMark "&=" ts || startsMark "|=" ts || startsMark "<<=" ts || startsWord "as" ts

/-- The dots of a range and its upper bound. -/
def rangeEnd (g : Grammar) (allowStruct : Bool) : Parser (List Node) := do
  let closed ← rangeDots false
  if !closed && endsRange allowStruct (← trees) then
    return []
  else
    return [← rightOperand g allowStruct .range]

/-- What may not follow a cast. -/
def checkCast : Parser Unit := do
  let ts ← trees
  let complaint (what : String) : Parser Unit :=
    fail (.refused s!"casts cannot be followed by {what}")
  if startsMark "." ts && !startsMark ".." ts then
    let second := ts.drop 1
    let third := ts.drop 2
    if startsWord "await" second then
      complaint "`.await`"
    else if startsName second && (startsGroup .parenthesis third || startsMark "::" third) then
      complaint "a method call"
    else
      complaint "a field access"
  else if startsMark "?" ts then
    complaint "`?`"
  else if startsGroup .bracket ts then
    complaint "indexing"
  else if startsGroup .parenthesis ts then
    complaint "a function call"

/-- One more operator after the left operand, if one comes that binds at least as tightly as the
level. -/
def operatorStep (g : Grammar) (left : Node) (allowStruct : Bool) (level : Precedence) :
    Parser (Option Node) := do
  let ts ← trees
  let start := left.span.start
  if isRange left then
    return none
  match operator? ts with
  | some (symbol, op) =>
    if op.precedence < level then
      return none
    if op.precedence == Precedence.comparison && isComparison left then
      fail (.refused "comparison operators cannot be chained")
    mark symbol
    let right ← rightOperand g allowStruct op.precedence
    return some (← expressionNode start (.binary op) [left, right])
  | none =>
    if Precedence.assignment ≥ level && startsAssignment ts then
      mark "="
      let right ← rightOperand g allowStruct .assignment
      return some (← expressionNode start .assignment [left, right])
    else if Precedence.range ≥ level && startsMark ".." ts then
      let upper ← rangeEnd g allowStruct
      return some (← expressionNode start .range (left :: upper))
    else if Precedence.cast ≥ level && startsWord "as" ts then
      skip
      let type ← g.type false
      checkCast
      return some (← expressionNode start .cast [left, type])
    else
      return none

/-- The operators after a left operand that bind at least as tightly as the level. -/
def operatorsWithin (g : Grammar) (allowStruct : Bool) (level : Precedence) :
    (fuel : Nat) → Node → Parser Node
  | 0, left => return left
  | fuel + 1, left => do
    match ← operatorStep g left allowStruct level with
    | some e => operatorsWithin g allowStruct level fuel e
    | none => return left

/-- The operators after a left operand that bind at least as tightly as the level. -/
def operators (g : Grammar) (left : Node) (allowStruct : Bool) (level : Precedence) :
    Parser Node := do
  operatorsWithin g allowStruct level ((← trees).length + 1) left

/-- An expression. -/
def expression (g : Grammar) (allowStruct : Bool) : Parser Node := do
  let left ← g.operand allowStruct
  operators g left allowStruct .lowest

/-! ### Calls, fields and indices -/

/-- The elements of a list in parentheses or brackets. -/
def expressionList (g : Grammar) (d : Delimiter) : Parser Node := do
  let start ← here
  let elements ← group d (commaList (g.expression true))
  node start (.part .arguments) elements

/-- The number with a point or an exponent that comes next: its text, with the sign before it if it is
negative, and the number of its trees. -/
def nextFraction? : List TokenTree → Option (String × Nat)
  | .token (.literal .float text) _ :: _ => some (text, 1)
  | .token (.punct '-' _) _ :: .token (.literal .float text) _ :: _ => some ("-" ++ text, 2)
  | _ => none

/-- The fields that a number with a point selects, one after the other: `x.0.1` has two of them. -/
def numberedFields (e : Node) (place : Position) (text : String) : Parser (Node × Bool) := do
  let trailing := text.endsWith "."
  let pieces := (text.splitOn ".").filter fun piece => !piece.isEmpty
  match pieces.findSome? pieceComplaint? with
  | some cause => throw ⟨place, cause⟩
  | none =>
    let wrap (inner : Node) (_ : String) : Node :=
      .mk (.part (.expression .fieldAccess)) inner.span [inner]
    return (pieces.foldl wrap e, trailing)

/-- What a dot after an expression selects: a field, a method or the result of waiting. -/
def selection (g : Grammar) (e : Node) : Parser Node := do
  let start := e.span.start
  let (e, ended) ←
    match nextFraction? (← trees) with
    | some (text, n) => do
      let place ← here
      skipMany n
      let (e, trailing) ← numberedFields e place text
      pure (e, !trailing)
    | none => pure (e, false)
  if ended then
    expressionNode start .fieldAccess e.children
  else if ← word? "await" then
    expressionNode start .awaited [e]
  else
    let (member, isNumber) ← memberName
    let ts ← trees
    let arguments ←
      if !isNumber && startsMark "::" ts then do
        mark "::"
        some <$> genericArguments g
      else
        pure none
    if !isNumber && (arguments.isSome || startsGroup .parenthesis (← trees)) then
      let list ← expressionList g .parenthesis
      node start (.methodCall member)
        (partOf .receiver [e] :: partOf .generics (arguments.getD []).flatten :: [list])
    else
      expressionNode start .fieldAccess [e]

/-- What follows an atom: calls, fields, methods, indices and question marks. -/
def postfixWithin (g : Grammar) : (fuel : Nat) → Node → Parser Node
  | 0, e => return e
  | fuel + 1, e => do
    let ts ← trees
    let start := e.span.start
    if startsGroup .parenthesis ts then
      let list ← expressionList g .parenthesis
      let callee := .mk (.part .callee) e.span [e]
      postfixWithin g fuel (← node start (.call e.pathExpression?) [callee, list])
    else if startsMark "." ts && !startsMark ".." ts && !isRange e then
      mark "."
      postfixWithin g fuel (← selection g e)
    else if startsGroup .bracket ts then
      let index ← group .bracket (g.expression true)
      postfixWithin g fuel (← expressionNode start .indexing [e, index])
    else if startsMark "?" ts && !isRange e then
      mark "?"
      postfixWithin g fuel (← expressionNode start .propagation [e])
    else
      return e

/-- What follows an atom. -/
def afterAtom (g : Grammar) (e : Node) : Parser Node := do
  postfixWithin g ((← trees).length + 1) e

/-! ### Atoms -/

/-- A path, a macro call or a struct literal. -/
def pathAtom (g : Grammar) (allowStruct : Bool) : Parser Node := do
  let start ← here
  let (typed, nodes) ← typedPath g true
  let ts ← trees
  if !typed.qualified && startsMark "!" ts && !startsMark "!=" ts && typed.path.isPlain then
    let call ← macroRest start typed.path
    expressionNode start .macroUse [call]
  else if allowStruct && startsGroup .brace ts then
    let fields ← group .brace do
      structFields ((← trees).length + 1)
    expressionNode start .structLiteral (nodes ++ fields)
  else
    expressionNode start (.path typed) nodes
where
  /-- One field and its value, which may be left out for a field that has the name of a variable. -/
  structField : Parser (List Node) := do
    let attributes ← outerAttributes g
    let (_, isNumber) ← memberName
    if isNumber || startsMark ":" (← trees) then
      mark ":"
      return attributes ++ [← g.expression true]
    else
      return attributes
  /-- The fields up to the end of the group, the last of which may stand for all others. -/
  structFields : (fuel : Nat) → Parser (List Node)
    | 0 => return []
    | fuel + 1 => do
      if (← trees).isEmpty then
        return []
      if startsMark ".." (← trees) then
        mark ".."
        if (← trees).isEmpty then
          return []
        else
          return [← g.expression true]
      let field ← structField
      if (← trees).isEmpty then
        return field
      mark ","
      return field ++ (← structFields fuel)

/-- What parentheses hold: nothing, one expression or the elements of a tuple. -/
def parenthesizedAtom (g : Grammar) : Parser Node := do
  let start ← here
  let (elements, isTuple) ← group .parenthesis do
    if (← trees).isEmpty then
      return ([], true)
    let first ← g.expression true
    if (← trees).isEmpty then
      return ([first], false)
    mark ","
    return (first :: (← commaList (g.expression true)), true)
  expressionNode start (if isTuple then .tuple else .parenthesized) elements

/-- What brackets hold: elements, or one element and how often it is repeated. -/
def arrayAtom (g : Grammar) : Parser Node := do
  let start ← here
  let (elements, isRepetition) ← group .bracket do
    if (← trees).isEmpty then
      return ([], false)
    let first ← g.expression true
    let ts ← trees
    if ts.isEmpty then
      return ([first], false)
    else if startsMark "," ts then
      mark ","
      return (first :: (← commaList (g.expression true)), false)
    else if startsMark ";" ts then
      mark ";"
      return ([first, ← g.expression true], true)
    else
      expected [quoted ",", quoted ";"]
  expressionNode start (if isRepetition then .repetition else .array) elements

/-- The parts of a pattern without the attributes inside a constant that is the whole of it. -/
def partsOfParameter (p : Node) : List Node :=
  match p.pattern?, p.children with
  | some .literal, [constant] =>
    if constant.expression? == some .constBlock then
      [.mk constant.label constant.span constant.children.getLast?.toList]
    else
      [constant]
  | _, parts => parts

/-- The parameter of a closure.  The attributes before it take the place of those inside it. -/
def closureParameter (g : Grammar) : Parser Node := do
  let start ← here
  let attributes ← outerAttributes g
  let inner ← g.pattern
  if ← mark? ":" then
    let type ← g.type true
    patternNode start .typed (attributes ++ [inner, type])
  else if inner.pattern? == some .unstructured then
    return inner
  else
    return .mk inner.label ⟨start, inner.span.stop⟩ (attributes ++ partsOfParameter inner)

/-- A closure. -/
def closure (g : Grammar) (allowStruct : Bool) : Parser Node := do
  let start ← here
  let binder := (← binder? g).getD []
  let _ ← word? "const"
  let _ ← word? "static"
  let _ ← word? "async"
  let _ ← word? "move"
  mark "|"
  let parameters ← listTo (startsMark "|") "," (closureParameter g)
  mark "|"
  let (result, body) ←
    if startsMark "->" (← trees) then do
      let result ← resultType g true
      let place ← here
      let inner ← block g
      pure (result, ← expressionNode place .blockExpression [inner])
    else
      pure ([], ← g.expression allowStruct)
  node start (.closure parameters.length)
    (binder ++ parameters ++ result ++ [partOf .value [body]])

/-- A condition that binds the names of a pattern. -/
def letCondition (g : Grammar) (allowStruct : Bool) : Parser Node := do
  let start ← here
  word "let"
  let binding ← alternatives g
  mark "="
  let left ← g.operand allowStruct
  let value ← g.operators left allowStruct .comparison
  expressionNode start .letCondition [binding, value]

/-- An `if` with all its branches. -/
def conditional (g : Grammar) : Parser Node := do
  let start ← here
  word "if"
  let condition ← g.expression false
  let branch ← block g
  if ← word? "else" then
    let place ← here
    let ts ← trees
    let other ←
      if startsWord "if" ts then
        g.conditional
      else if startsGroup .brace ts then do
        let inner ← block g
        expressionNode place .blockExpression [inner]
      else
        expected [quoted "if", "curly braces"]
    expressionNode start .conditional [condition, branch, other]
  else
    expressionNode start .conditional [condition, branch]

/-- A loop over a condition, after its label. -/
def whileLoop (g : Grammar) (start : Position) : Parser Node := do
  word "while"
  let condition ← g.expression false
  let (attributes, body) ← attributedBlock g
  expressionNode start .whileLoop (attributes ++ [condition, body])

/-- A loop over the elements of a collection, after its label. -/
def forLoop (g : Grammar) (start : Position) : Parser Node := do
  word "for"
  let binding ← alternatives g
  word "in"
  let source ← g.expression false
  let (attributes, body) ← attributedBlock g
  expressionNode start .forLoop (attributes ++ [binding, source, body])

/-- A loop without a condition, after its label. -/
def endlessLoop (g : Grammar) (start : Position) : Parser Node := do
  word "loop"
  let (attributes, body) ← attributedBlock g
  expressionNode start .endlessLoop (attributes ++ [body])

/-- An expression with a label. -/
def labeled (g : Grammar) : Parser Node := do
  let start ← here
  lifetime
  mark ":"
  let ts ← trees
  if startsWord "while" ts then
    whileLoop g start
  else if startsWord "for" ts then
    forLoop g start
  else if startsWord "loop" ts then
    endlessLoop g start
  else if startsGroup .brace ts then
    blockExpression g start
  else
    expected ["loop or block expression"]

/-- One arm of a `match`. -/
def arm (g : Grammar) : Parser Node := do
  let start ← here
  let attributes ← outerAttributes g
  let binding ← alternatives g
  let guard ← if ← word? "if" then pure [← g.expression true] else pure []
  mark "=>"
  let body ← g.statementExpression
  if !isBlockLike body && !(← trees).isEmpty then
    mark ","
  else
    let _ ← mark? ","
  node start (.part .arm) (attributes ++ binding :: guard ++ [body])

/-- A `match` with its arms. -/
def matching (g : Grammar) : Parser Node := do
  let start ← here
  word "match"
  let subject ← g.expression false
  let (attributes, arms) ← group .brace do
    return (← innerAttributes g, ← repeatToEnd (arm g))
  expressionNode start .matching (attributes ++ subject :: arms)

/-- A jump out of a loop or a block, with the value that it carries. -/
def breakOut (g : Grammar) (allowStruct : Bool) : Parser Node := do
  let start ← here
  word "break"
  let ts ← trees
  if startsLifetime ts && startsMark ":" (ts.drop 1) then
    let place ← here
    let _ ← g.expression true
    throw ⟨place, .refused "parentheses required"⟩
  let _ ← lifetime?
  let ts ← trees
  if startsExpression ts && (allowStruct || !startsGroup .brace ts) then
    expressionNode start .breakOut [← g.expression true]
  else
    expressionNode start .breakOut []

/-- A keyword with the value that may follow it. -/
def withOptionalValue (g : Grammar) (form : ExpressionForm) : Parser Node := do
  let start ← here
  skip
  if startsExpression (← trees) then
    expressionNode start form [← g.expression true]
  else
    expressionNode start form []

/-- A keyword and the block that it governs. -/
def keywordBlock (g : Grammar) (form : ExpressionForm) (attributed : Bool) : Parser Node := do
  let start ← here
  skip
  let _ ← if form == .asyncBlock then word? "move" else pure false
  if attributed then
    let (attributes, body) ← attributedBlock g
    expressionNode start form (attributes ++ [body])
  else
    expressionNode start form [← block g]

/-- A closure comes next. -/
def startsClosure (ts : List TokenTree) : Bool :=
  let second := ts.drop 1
  startsMark "|" ts || startsWord "move" ts ||
    (startsWord "for" ts && choosesParameters second) ||
    (startsWord "const" ts && !startsGroup .brace second) || startsWord "static" ts ||
    (startsWord "async" ts && (startsMark "|" second || startsWord "move" second))

/-- A path comes next. -/
def startsPath (ts : List TokenTree) : Bool :=
  startsName ts || startsMark "::" ts || startsMark "<" ts || startsOneOf pathWords ts ||
    (startsWord "try" ts && (startsMark "!" (ts.drop 1) || startsMark "::" (ts.drop 1)))

/-- An expression without operators before or after it. -/
def atom (g : Grammar) (allowStruct : Bool) : Parser Node := do
  let start ← here
  let ts ← trees
  let second := ts.drop 1
  if startsLiteral ts then
    literal
  else if startsWord "async" ts && (startsGroup .brace second ||
      (startsWord "move" second && startsGroup .brace (ts.drop 2))) then
    keywordBlock g .asyncBlock false
  else if startsWord "try" ts && startsGroup .brace second then
    keywordBlock g .tryBlock false
  else if startsClosure ts then
    closure g allowStruct
  else if startsBuiltin ts then
    builtinOperation
    expressionNode start .unstructured []
  else if startsPath ts then
    pathAtom g allowStruct
  else if startsGroup .parenthesis ts then
    parenthesizedAtom g
  else if startsWord "break" ts then
    breakOut g allowStruct
  else if startsWord "continue" ts then
    skip
    let _ ← lifetime?
    expressionNode start .continueOn []
  else if startsWord "return" ts then
    withOptionalValue g .returning
  else if startsWord "become" ts then
    skip
    let _ ← g.expression true
    expressionNode start .unstructured []
  else if startsGroup .bracket ts then
    arrayAtom g
  else if startsWord "let" ts then
    letCondition g allowStruct
  else if startsWord "if" ts then
    g.conditional
  else if startsWord "while" ts then
    whileLoop g start
  else if startsWord "for" ts then
    forLoop g start
  else if startsWord "loop" ts then
    endlessLoop g start
  else if startsWord "match" ts then
    matching g
  else if startsWord "yield" ts then
    withOptionalValue g .yielding
  else if startsWord "unsafe" ts then
    keywordBlock g .unsafeBlock true
  else if startsWord "const" ts then
    keywordBlock g .constBlock true
  else if startsGroup .brace ts then
    blockExpression g start
  else if startsMark ".." ts then
    expressionNode start .range (← rangeEnd g allowStruct)
  else if startsWord "_" ts then
    skip
    expressionNode start .inferred []
  else if startsLifetime ts then
    labeled g
  else
    expected ["an expression"]

/-! ### Operands and statements -/

/-- A reference after its ampersand. -/
def reference (g : Grammar) (start : Position) (attributes : List Node) (allowStruct : Bool) :
    Parser Node := do
  mark "&"
  let ts ← trees
  let raw := startsWord "raw" ts && startsOneOf ["mut", "const"] (ts.drop 1)
  if raw then
    skip
  let isMutable ← word? "mut"
  if raw && !isMutable then
    word "const"
  let inner ← g.operand allowStruct
  expressionNode start (if raw then .rawReference else .reference) (attributes ++ [inner])

/-- An expression without operators between operands. -/
def operand (g : Grammar) (allowStruct : Bool) : Parser Node := do
  let start ← here
  let attributes ← outerAttributes g
  let ts ← trees
  if startsMark "&" ts then
    reference g start attributes allowStruct
  else if startsMark "*" ts || startsMark "!" ts || startsMark "-" ts then
    skip
    let inner ← g.operand allowStruct
    expressionNode start .unary (attributes ++ [inner])
  else
    let place ← here
    let e ← afterAtom g (← atom g allowStruct)
    if !attributes.isEmpty && isRange e then
      throw ⟨place,
        .refused "attributes are not allowed on range expressions starting with `..`"⟩
    return withAttributes start attributes e

/-- An expression that may end at its brace, if one comes next. -/
def blockLike? (g : Grammar) : Parser (Option Node) := do
  let start ← here
  let ts ← trees
  let second := ts.drop 1
  if startsWord "if" ts then
    return some (← g.conditional)
  else if startsWord "while" ts then
    return some (← whileLoop g start)
  else if startsWord "for" ts && !choosesParameters second then
    return some (← forLoop g start)
  else if startsWord "loop" ts then
    return some (← endlessLoop g start)
  else if startsWord "match" ts then
    return some (← matching g)
  else if startsWord "try" ts && startsGroup .brace second then
    return some (← keywordBlock g .tryBlock false)
  else if startsWord "unsafe" ts then
    return some (← keywordBlock g .unsafeBlock true)
  else if startsWord "const" ts && startsGroup .brace second then
    return some (← keywordBlock g .constBlock true)
  else if startsGroup .brace ts then
    return some (← blockExpression g start)
  else if startsLifetime ts then
    return some (← labeled g)
  else
    return none

/-- An expression in the place of a statement. -/
def statementExpression (g : Grammar) : Parser Node := do
  let start ← here
  let attributes ← outerAttributes g
  match ← blockLike? g with
  | some e =>
    let ts ← trees
    if (startsMark "." ts && !startsMark ".." ts) || startsMark "?" ts then
      let e ← afterAtom g e
      g.operators (withEarlierAttributes start attributes e) true .lowest
    else
      return withEarlierAttributes start attributes e
  | none =>
    let e ← g.operand true
    g.operators (withEarlierAttributes start attributes e) true .lowest

end SourceLint.Syntax.Production
