import SourceLint.Syntax.Grammar.Attribute

/-!
# Paths with arguments

Names separated by double colons, with arguments where types and expressions allow them.

* **`path`**, **`typedPath`** — paths with arguments; in an expression arguments need a double colon
  before them, in a type they do not.
* **`genericArguments`** — arguments in angle brackets.
* **`functionPath`** — the arguments of a function trait, which are in parentheses and which only a
  bound may have.
-/

namespace SourceLint.Syntax.Production

open SourceLint.Syntax.Parser

/-- A value in the place of a type argument: a literal, a name or a block. -/
def constArgument (g : Grammar) : Parser Node := do
  let start ← here
  let ts ← trees
  if startsLiteral ts then
    literal
  else if startsName ts then
    let n ← name
    expressionNode start (.path ⟨false, ⟨false, [⟨n, .absent⟩]⟩⟩) []
  else if startsGroup .brace ts then
    blockExpression g start
  else
    expected []

/-- The type is a single name, possibly with arguments in angle brackets. -/
def isBareName (type : Node) : Bool :=
  match type.type? with
  | some (.path ⟨false, ⟨false, [_]⟩⟩) => true
  | _ => false

/-- One argument in angle brackets. -/
def genericArgument (g : Grammar) : Parser (List Node) := do
  let ts ← trees
  if startsLifetime ts && !startsMark "+" (ts.drop 1) then
    skip
    return []
  if startsLiteral ts || startsGroup .brace ts then
    return [← constArgument g]
  let type ← g.type true
  if isBareName type then
    if ← mark? "=" then
      let ts ← trees
      if startsLiteral ts || startsGroup .brace ts then
        return [type, ← constArgument g]
      else
        return [type, ← g.type true]
    if ← mark? ":" then
      let bounds ← listOf (fun ts => startsMark "," ts || startsMark ">" ts) "+" g.bound
      return type :: bounds.flatten
  return [type]

/-- Arguments in angle brackets, one after the other. -/
def genericArguments (g : Grammar) : Parser (List (List Node)) := do
  mark "<"
  let arguments ← listTo (startsMark ">") "," (genericArgument g)
  mark ">"
  return arguments

/-- The result of a function type, if it is written. -/
def resultType (g : Grammar) (allowPlus : Bool) : Parser (List Node) := do
  if ← mark? "->" then
    return [← g.type allowPlus]
  else
    return []

/-- The arguments and the result of a function type in the place of arguments. -/
def functionArguments (g : Grammar) : Parser (List Node) := do
  let inputs ← group .parenthesis (commaList (g.type true))
  return inputs ++ (← resultType g false)

/-- One name of a path and its arguments. -/
def pathSegment (g : Grammar) (inExpression : Bool) :
    Parser (PathSegment × List Node) := do
  let ts ← trees
  if startsOneOf ["super", "self", "crate", "try"] ts then
    return (⟨← anyWord, .absent⟩, [])
  let n ← if startsWord "Self" ts then anyWord else name
  let ts ← trees
  if (!inExpression && startsMark "<" ts && !startsMark "<=" ts && !startsMark "<<=" ts) ||
      (startsMark "::" ts && startsMark "<" (ts.drop 2)) then
    let _ ← mark? "::"
    let arguments ← genericArguments g
    return (⟨n, .angled arguments.isEmpty⟩, arguments.flatten)
  else
    return (⟨n, .absent⟩, [])

/-- The names of a path, a separator between any two of them; the list goes on while `more` holds. -/
def pathSegments (g : Grammar) (inExpression : Bool)
    (more : List TokenTree → Bool) : (fuel : Nat) → Parser (List PathSegment × List Node)
  | 0 => return ([], [])
  | fuel + 1 => do
    let (segment, nodes) ← pathSegment g inExpression
    if more (← trees) then
      mark "::"
      let (segments, rest) ← pathSegments g inExpression more fuel
      return (segment :: segments, nodes ++ rest)
    else
      return ([segment], nodes)

/-- A path with arguments, and the nodes of these. -/
def path (g : Grammar) (inExpression : Bool) :
    Parser (Path × List Node) := do
  let global ← mark? "::"
  let more ts := startsMark "::" ts && !startsGroup .parenthesis (ts.drop 2)
  let (segments, nodes) ← pathSegments g inExpression more ((← trees).length + 1)
  return (⟨global, segments⟩, nodes)

/-- A path that may begin with a type in angle brackets, and the nodes of its arguments. -/
def typedPath (g : Grammar) (inExpression : Bool) :
    Parser (TypedPath × List Node) := do
  if ← mark? "<" then
    let type ← g.type true
    let viaTrait ←
      if ← word? "as" then
        some <$> path g false
      else
        pure none
    mark ">"
    mark "::"
    let (segments, nodes) ←
      pathSegments g inExpression (startsMark "::") ((← trees).length + 1)
    match viaTrait with
    | some (p, traitNodes) =>
      return (⟨true, ⟨p.global, p.segments ++ segments⟩⟩, type :: traitNodes ++ nodes)
    | none => return (⟨true, ⟨true, segments⟩⟩, type :: nodes)
  else
    let (p, nodes) ← path g inExpression
    return (⟨false, p⟩, nodes)

/-- The path with the given arguments after its last name. -/
def withArguments (p : Path) (arguments : PathArguments) : Path :=
  match p.segments.reverse with
  | [] => p
  | last :: before => { p with segments := (⟨last.name, arguments⟩ :: before).reverse }

/-- The arguments and the result of a function trait after a path whose last name has none yet. -/
def functionPath (g : Grammar) (p : Path) (nodes : List Node) : Parser (Path × List Node) := do
  let ts ← trees
  let bare := match p.segments.getLast? with
    | some s => s.arguments == .absent || s.arguments == .angled true
    | none => false
  if bare &&
      (startsGroup .parenthesis ts || (startsMark "::" ts && startsGroup .parenthesis (ts.drop 2))) then
    let _ ← mark? "::"
    let arguments ← functionArguments g
    return (withArguments p .parenthesized, nodes ++ arguments)
  else
    return (p, nodes)

end SourceLint.Syntax.Production
