import SourceLint.Syntax.Token.Literal
import SourceLint.Syntax.Grammar.Type

/-!
# Patterns

* **`pattern`** — a pattern without alternatives.
* **`alternatives`** — a pattern that may have several alternatives, after a leading bar if there is
  one.
* **`memberName`** — the name or the number of a field.
-/

namespace SourceLint.Syntax.Production

open SourceLint.Syntax.Parser

/-- The greatest number that a field may have. -/
def greatestFieldNumber : Nat := 4294967295

/-- What keeps an integer from naming a field: a suffix, a sign or its size. -/
def numberComplaint? (negative : Bool) (text : List Char) : Option SyntaxCause :=
  let (value, suffix) := Literal.integerValue text
  if !suffix.isEmpty then some (.refused "expected unsuffixed integer")
  else if negative then some (.refused "invalid digit found in string")
  else if value > greatestFieldNumber then some (.refused "number too large to fit in target type")
  else none

/-- What keeps a piece of a number with points from naming a field.  The piece is read on its own, so that
it may be a hexadecimal number, a number with an exponent or no number at all. -/
def pieceComplaint? (piece : String) : Option SyntaxCause :=
  let (negative, text) := match piece.toList with
    | '-' :: rest => (true, rest)
    | cs => (false, cs)
  if (Literal.floatLength text).isSome then some (.refused "expected integer literal")
  else if (Literal.integerLength text).isSome then numberComplaint? negative text
  else some .notTokens

/-- The integer that comes next: its text, whether it is negative, and the number of its trees. -/
def nextInteger? : List TokenTree → Option (String × Bool × Nat)
  | .token (.literal .integer text) _ :: _ => some (text, false, 1)
  | .token (.punct '-' _) _ :: .token (.literal .integer text) _ :: _ => some (text, true, 2)
  | _ => none

/-- The name or the number of a field, and whether it is a number. -/
def memberName : Parser (String × Bool) := do
  let ts ← trees
  match nextInteger? ts with
  | some (text, negative, n) =>
    match numberComplaint? negative text.toList with
    | some cause => fail cause
    | none =>
      skipMany n
      return (text, true)
  | none =>
    if startsName ts then
      return (← name, false)
    else
      expected ["identifier", "integer"]

/-- The bar between alternatives comes next. -/
def startsAlternative (ts : List TokenTree) : Bool :=
  startsMark "|" ts && !startsMark "||" ts && !startsMark "|=" ts

/-- A pattern with its alternatives, after a leading bar if there is one. -/
def alternatives (g : Grammar) : Parser Node := do
  let start ← here
  let leading ← mark? "|"
  let first ← g.pattern
  if leading || startsAlternative (← trees) then
    let rest ← repeatWhile startsAlternative do
      mark "|"
      g.pattern
    patternNode start .alternatives (first :: rest)
  else
    return first

/-- The place of the dots of a range that lacks one of its bounds. -/
def openRange? (p : Node) : Option Position :=
  match p.pattern? with
  | some (.range false _) => some p.span.start
  | some (.range true false) => some { p.span.stop with column := p.span.stop.column - 2 }
  | _ => none

/-- The pattern is two dots on their own. -/
def isRest (p : Node) : Bool :=
  p.pattern? == some .rest

/-- The dots of a range in a pattern; the answer says whether the upper bound belongs to it. -/
def rangeDots (obsolete : Bool) : Parser Bool := do
  let ts ← trees
  if startsMark "..=" ts then
    mark "..="
    return true
  else if startsMark "..." ts then
    if obsolete then
      mark "..."
      return true
    else
      expected [quoted "..="]
  else if startsMark ".." ts then
    mark ".."
    return false
  else
    expected [quoted ".."]

/-- A path in an expression or a pattern. -/
def pathExpression (g : Grammar) : Parser Node := do
  let start ← here
  let (typed, nodes) ← typedPath g true
  expressionNode start (.path typed) nodes

/-- A block after the word `const`. -/
def constBlock (g : Grammar) : Parser Node := do
  let start ← here
  word "const"
  let (attributes, inner) ← attributedBlock g
  expressionNode start .constBlock (attributes ++ [inner])

/-- A bound of a range in a pattern, if one comes next. -/
def rangeBound? (g : Grammar) : Parser (Option Node) := do
  let ts ← trees
  if ts.isEmpty || startsMark "|" ts || startsMark "=" ts ||
      (startsMark ":" ts && !startsMark "::" ts) || startsMark "," ts || startsMark ";" ts ||
      startsWord "if" ts then
    return none
  else if startsLiteral ts then
    return some (← literal)
  else if startsName ts || startsMark "::" ts || startsMark "<" ts || startsOneOf pathWords ts then
    return some (← pathExpression g)
  else if startsWord "const" ts then
    return some (← constBlock g)
  else
    expected
      ["literal", "identifier", quoted "::", quoted "<", quoted "self", quoted "Self",
        quoted "super", quoted "crate", quoted "const"]

/-- The dots of a range and its upper bound, which a closed range has to have. -/
def rangeRest (g : Grammar) : Parser (List Node) := do
  let closed ← rangeDots true
  match ← rangeBound? g with
  | some upper => return [upper]
  | none =>
    if closed then
      expected ["range upper bound"]
    else
      return []

/-- One field of a struct pattern. -/
def fieldPattern (g : Grammar) (start : Position) (attributes : List Node) : Parser Node := do
  let boxed ← word? "box"
  let byRef ← word? "ref"
  let mutable ← word? "mut"
  let marked := boxed || byRef || mutable
  let (_, isNumber) ← if marked then do pure (← name, false) else memberName
  if isNumber || (!marked && startsMark ":" (← trees)) then
    mark ":"
    let inner ← alternatives g
    patternNode start .typed (attributes ++ [inner])
  else if boxed then
    patternNode start .typed (attributes ++ [← patternNode start .unstructured []])
  else
    patternNode start .identifier attributes

/-- The fields of a struct pattern up to the end of the group. -/
def fieldPatterns (g : Grammar) : (fuel : Nat) → Parser (List Node)
  | 0 => return []
  | fuel + 1 => do
    if (← trees).isEmpty then
      return []
    let start ← here
    let attributes ← outerAttributes g
    if startsMark ".." (← trees) then
      mark ".."
      return [← patternNode start .rest attributes]
    let field ← fieldPattern g start attributes
    if (← trees).isEmpty then
      return [field]
    mark ","
    return field :: (← fieldPatterns g fuel)

/-- A pattern that begins with a path. -/
def patternFromPath (g : Grammar) : Parser Node := do
  let start ← here
  let (typed, nodes) ← typedPath g true
  let ts ← trees
  if !typed.qualified && startsMark "!" ts && !startsMark "!=" ts && typed.path.isPlain then
    let call ← macroRest start typed.path
    patternNode start .macroUse [call]
  else if startsGroup .brace ts then
    let fields ← group .brace do
      fieldPatterns g ((← trees).length + 1)
    patternNode start .struct (nodes ++ fields)
  else if startsGroup .parenthesis ts then
    let elements ← group .parenthesis (commaList (alternatives g))
    patternNode start .tupleStruct (nodes ++ elements)
  else if startsMark ".." ts then
    let upper ← rangeRest g
    patternNode start (.range true !upper.isEmpty) (nodes ++ upper)
  else
    patternNode start .path nodes

/-- A pattern that begins with a literal or a constant. -/
def patternFromLiteral (g : Grammar) : Parser Node := do
  let start ← here
  match ← rangeBound? g with
  | none => expected []
  | some lower =>
    if startsMark ".." (← trees) then
      let upper ← rangeRest g
      patternNode start (.range true !upper.isEmpty) (lower :: upper)
    else
      patternNode start .literal [lower]

/-- A pattern that begins with the dots of a range: the rest of a list, or a range without a lower
bound. -/
def patternFromDots (g : Grammar) : Parser Node := do
  let start ← here
  let closed ← rangeDots false
  match ← rangeBound? g with
  | some upper => patternNode start (.range false true) [upper]
  | none =>
    if closed then
      expected ["range upper bound"]
    else
      patternNode start .rest []

/-- A name with its binding mode and the pattern after its at sign. -/
def bindingPattern (g : Grammar) : Parser Node := do
  let start ← here
  let _ ← word? "ref"
  let _ ← word? "mut"
  if startsWord "self" (← trees) then
    skip
  else
    let _ ← name
  if ← mark? "@" then
    patternNode start .identifier [← g.pattern]
  else
    patternNode start .identifier []

/-- The elements of a pattern in parentheses, and whether a comma follows the last. -/
def tupleElements (g : Grammar) : (fuel : Nat) → Parser (List Node × Bool)
  | 0 => return ([], true)
  | fuel + 1 => do
    if (← trees).isEmpty then
      return ([], true)
    let element ← alternatives g
    if (← trees).isEmpty then
      return ([element], false)
    mark ","
    let (rest, trailing) ← tupleElements g fuel
    return (element :: rest, trailing)

/-- A pattern in parentheses. -/
def parenthesizedPattern (g : Grammar) : Parser Node := do
  let start ← here
  let (elements, trailing) ← group .parenthesis do
    tupleElements g ((← trees).length + 1)
  match elements with
  | [one] =>
    patternNode start (if trailing || isRest one then .tuple else .parenthesized) elements
  | _ => patternNode start .tuple elements

/-- One element of a slice pattern, in which ranges need both bounds. -/
def sliceElement (g : Grammar) : Parser Node := do
  let element ← alternatives g
  match openRange? element with
  | some dots =>
    throw ⟨dots, .refused "range pattern is not allowed unparenthesized inside slice pattern"⟩
  | none => return element

/-- A pattern without alternatives. -/
def pattern (g : Grammar) : Parser Node := do
  let start ← here
  let ts ← trees
  let second := ts.drop 1
  if (startsName ts &&
        (startsMark "::" second || startsMark "!" second || startsGroup .brace second ||
          startsGroup .parenthesis second || startsMark ".." second)) ||
      (startsWord "self" ts && startsMark "::" second) || startsMark "::" ts || startsMark "<" ts ||
      startsOneOf ["Self", "super", "crate"] ts then
    patternFromPath g
  else if startsWord "_" ts then
    skip
    patternNode start .wildcard []
  else if startsWord "box" ts then
    skip
    let _ ← g.pattern
    patternNode start .unstructured []
  else if startsMark "-" ts || startsLiteral ts || startsWord "const" ts then
    patternFromLiteral g
  else if startsOneOf ["ref", "mut", "self"] ts || startsName ts then
    bindingPattern g
  else if startsMark "&" ts then
    mark "&"
    let _ ← word? "mut"
    patternNode start .reference [← g.pattern]
  else if startsGroup .parenthesis ts then
    parenthesizedPattern g
  else if startsGroup .bracket ts then
    let elements ← group .bracket (commaList (sliceElement g))
    patternNode start .slice elements
  else if startsMark ".." ts && !startsMark "..." ts then
    patternFromDots g
  else
    expected
      (["identifier", quoted "::", quoted "<", quoted "_", "literal", quoted "const", quoted "ref",
          quoted "mut", quoted "&", "parentheses", "square brackets"] ++
        (if startsMark ".." ts then [] else [quoted ".."]) ++ [quoted "const"])

end SourceLint.Syntax.Production
