import SourceLint.Syntax.Grammar.Path

/-!
# Types, bounds and parameters

* **`type`** — a type.
* **`bound`**, **`bounds`** — traits and lifetimes that a type is bounded by.
* **`parameters`**, **`conditions`** — the generic parameters of an item and its `where` clause.
* **`choosesParameters`** — whether an angle bracket opens parameters rather than a type.
-/

namespace SourceLint.Syntax.Production

open SourceLint.Syntax.Parser

/-! ### Parameters -/

/-- A lifetime parameter after its attributes. -/
def lifetimeParameter : Parser Unit := do
  lifetime
  if ← mark? ":" then
    let stop ts := ts.isEmpty || startsMark "," ts || startsMark ">" ts
    let _ ← listOf stop "+" lifetime

/-- A type parameter after its attributes. -/
def typeParameter (g : Grammar) : Parser (List Node) := do
  let _ ← name
  let stop ts := ts.isEmpty || startsMark "," ts || startsMark ">" ts || startsMark "=" ts
  let bounds ← if ← mark? ":" then listOf stop "+" g.bound else pure []
  let default ← if ← mark? "=" then pure [← g.type true] else pure []
  return bounds.flatten ++ default

/-- A constant parameter after its attributes. -/
def constParameter (g : Grammar) : Parser (List Node) := do
  word "const"
  let _ ← name
  mark ":"
  let type ← g.type true
  let default ← if ← mark? "=" then pure [← constArgument g] else pure []
  return type :: default

/-- A parameter with its attributes; `wild` when an underscore may take the place of a name. -/
def parameter (g : Grammar) (wild : Bool) : Parser (List Node) := do
  let attributes ← outerAttributes g
  let ts ← trees
  if startsLifetime ts then
    lifetimeParameter
    return attributes
  else if startsName ts then
    return attributes ++ (← typeParameter g)
  else if startsWord "const" ts then
    return attributes ++ (← constParameter g)
  else if wild && startsWord "_" ts then
    skip
    return attributes
  else if wild then
    expected ["lifetime", "identifier", quoted "const"]
  else
    expected ["identifier", "lifetime", quoted "const"]

/-- The generic parameters of an item, if it has any. -/
def parameters (g : Grammar) : Parser (List Node) := do
  if ← mark? "<" then
    let found ← listTo (startsMark ">") "," (parameter g true)
    mark ">"
    return found.flatten
  else
    return []

/-- The parameters of a binder `for<…>`, if one comes next. -/
def binder? (g : Grammar) : Parser (Option (List Node)) := do
  if ← word? "for" then
    mark "<"
    let found ← listTo (startsMark ">") "," (parameter g false)
    mark ">"
    return some found.flatten
  else
    return none

/-- Whether the next angle bracket opens generic parameters rather than a type. -/
def choosesParameters (ts : List TokenTree) : Bool :=
  let second := ts.drop 1
  let third := ts.drop 2
  startsMark "<" ts &&
    (startsMark ">" second || startsMark "#" second ||
      ((startsLifetime second || startsName second) &&
        (startsMark ">" third || startsMark "," third ||
          (startsMark ":" third && !startsMark "::" third) || startsMark "=" third)) ||
      startsWord "const" second)

/-- The end of a list of bounds in a `where` clause. -/
def endsCondition (ts : List TokenTree) : Bool :=
  ts.isEmpty || startsGroup .brace ts || startsMark "," ts || startsMark ";" ts ||
    (startsMark ":" ts && !startsMark "::" ts) || startsMark "=" ts

/-- One condition of a `where` clause. -/
def condition (g : Grammar) : Parser (List Node) := do
  let ts ← trees
  if startsLifetime ts && startsMark ":" (ts.drop 1) then
    lifetime
    mark ":"
    let stop ts := endsCondition ts || startsMark ":" ts
    let _ ← listOf stop "+" lifetime
    return []
  else
    let binder := (← binder? g).getD []
    let type ← g.type true
    mark ":"
    let bounds ← listOf endsCondition "+" g.bound
    return binder ++ type :: bounds.flatten

/-- The conditions of a `where` clause, if one comes next. -/
def conditions (g : Grammar) : Parser (List Node) := do
  if ← word? "where" then
    if choosesParameters (← trees) then
      fail (.refused "generic parameters on `where` clauses are reserved for future use")
    let found ← listOf endsCondition "," (condition g)
    return found.flatten
  else
    return []

/-! ### Bounds -/

/-- The forms of bounds. -/
inductive BoundForm where
  | lifetime
  | trait
  | capture
deriving DecidableEq

/-- A trait as a bound; `allowConst` when it may be marked constant.  Of a bound that is, no parts are
kept. -/
def traitBound (g : Grammar) (allowConst : Bool) : Parser (Option (List Node)) := do
  let before ← binder? g
  let start ← here
  let ts ← trees
  let isConst := startsGroup .bracket ts || startsWord "const" ts
  if startsGroup .bracket ts then
    group .bracket (word "const")
    if !allowConst then
      throw ⟨start, .refused "`[const]` is not allowed here"⟩
  else if isConst then
    skip
    if !allowConst then
      throw ⟨start, .refused "`const` is not allowed here"⟩
  let relaxedAt ← here
  let relaxed ← mark? "?"
  let binder ← if relaxed && before.isNone then binder? g else pure before
  let (p, nodes) ← path g false
  let (_, nodes) ← functionPath g p nodes
  if relaxed && binder.isSome then
    throw ⟨relaxedAt,
      .refused "`for<...>` binder not allowed with `?` trait polarity modifier"⟩
  return if isConst then none else some (binder.getD [] ++ nodes)

/-- A trait in parentheses as a bound.  What it ends in counts as the end of the bound. -/
def parenthesizedBound (g : Grammar) (allowConst : Bool) : Parser (List Node) := do
  let (nodes, ends) ← group .parenthesis do
    let nodes ← traitBound g allowConst
    return (nodes.getD [], nodes.isSome && (← get).afterBrace)
  modify fun s => { s with afterBrace := ends }
  return nodes

/-- What may be captured by a type that hides another. -/
def capture : Parser Unit := do
  word "use"
  mark "<"
  let one : Parser Unit := do
    let ts ← trees
    if startsLifetime ts || startsName ts || startsWord "Self" ts then
      skip
    else
      expected ["lifetime", "identifier", quoted ">"]
    let ts ← trees
    unless startsMark "," ts || startsMark ">" ts do
      expected [quoted ",", quoted ">"]
  let _ ← listTo (startsMark ">") "," one
  mark ">"

/-- One bound and its form. -/
def anyBound (g : Grammar) (allowCapture allowConst : Bool) : Parser (BoundForm × List Node) := do
  let start ← here
  let ts ← trees
  if startsLifetime ts then
    skip
    return (.lifetime, [])
  else if startsWord "use" ts then
    capture
    if allowCapture then
      return (.capture, [])
    else
      throw ⟨start, .refused "`use<...>` precise capturing syntax is not allowed here"⟩
  else if startsGroup .parenthesis ts then
    return (.trait, ← parenthesizedBound g allowConst)
  else
    return (.trait, (← traitBound g allowConst).getD [])

/-- A bound where nothing may be captured. -/
def bound (g : Grammar) : Parser (List Node) := do
  return (← anyBound g false true).2

/-- Something comes next that another bound may begin with. -/
def startsBound (allowConst : Bool) (ts : List TokenTree) : Bool :=
  startsAnyWord ts || startsMark "::" ts || startsMark "?" ts || startsLifetime ts ||
    startsGroup .parenthesis ts || (allowConst && startsGroup .bracket ts)

/-- Bounds joined by plus signs, of which the last may be followed by one; and whether it is. -/
def boundsWithin (g : Grammar) (allowPlus allowCapture allowConst : Bool) :
    (fuel : Nat) → Parser (List (BoundForm × List Node) × Bool)
  | 0 => return ([], false)
  | fuel + 1 => do
    let first ← anyBound g allowCapture allowConst
    if allowPlus && startsMark "+" (← trees) then
      mark "+"
      if startsBound allowConst (← trees) then
        let (rest, trailing) ← boundsWithin g allowPlus allowCapture allowConst fuel
        return (first :: rest, trailing)
      else
        return ([first], true)
    else
      return ([first], false)

/-- Bounds joined by plus signs, among which there has to be a trait. -/
def bounds (g : Grammar) (start : Position) (allowPlus allowCapture allowConst : Bool)
    (complaint : String) : Parser (List Node × Bool) := do
  let (found, trailing) ←
    boundsWithin g allowPlus allowCapture allowConst ((← trees).length + 1)
  if found.all fun b => b.1 != .trait then
    throw ⟨start, .refused complaint⟩
  return ((found.map (·.2)).flatten, found.length == 1 && !trailing)

/-! ### Types -/

/-- The name of a foreign calling convention, if one is written. -/
def convention? : Parser Unit := do
  if ← word? "extern" then
    if startsLiteralOf .string (← trees) then
      skip

/-- The words `mut self` come next. -/
def startsMutSelf (ts : List TokenTree) : Bool :=
  startsWord "mut" ts && startsWord "self" (ts.drop 1)

/-- One parameter of a function type, after its attributes.  The first may be a receiver; of one that is
marked mutable no parts are kept. -/
def bareParameter (g : Grammar) (isFirst : Bool) : Parser (List Node) := do
  let isMutSelf := isFirst && startsMutSelf (← trees)
  if isMutSelf then
    skip
  let ts ← trees
  let isSelf := isFirst && startsWord "self" ts
  let isNamed :=
    (startsName ts || startsWord "_" ts || isSelf) && startsMark ":" (ts.drop 1) &&
      !startsMark "::" (ts.drop 1)
  if isNamed then
    skip
    mark ":"
  if isFirst && !(isSelf && isNamed) && startsMutSelf (← trees) then
    skipMany 2
    return []
  else if isMutSelf && !isNamed then
    word "self"
    return []
  else
    let type ← g.type true
    return if isMutSelf then [] else [type]

/-- The parameters of a function type up to the end of the group; the last may stand for any number. -/
def bareParameters (g : Grammar) (isFirst : Bool) : (fuel : Nat) → Parser (List Node)
  | 0 => return []
  | fuel + 1 => do
    if (← trees).isEmpty then
      return []
    let attributes ← outerAttributes g
    let ts ← trees
    if startsMark "..." ts then
      mark "..."
      let _ ← mark? ","
      return attributes
    else if (startsName ts || startsWord "_" ts) && startsMark ":" (ts.drop 1) &&
        startsMark "..." (ts.drop 2) then
      skip
      mark ":"
      mark "..."
      let _ ← mark? ","
      return attributes
    else
      let one := attributes ++ (← bareParameter g isFirst)
      if (← trees).isEmpty then
        return one
      mark ","
      return one ++ (← bareParameters g false fuel)

/-- A function type. -/
def functionType (g : Grammar) (start : Position) (binder : List Node) : Parser Node := do
  let inner := (← binder? g).getD []
  let _ ← word? "unsafe"
  convention?
  word "fn"
  let parameters : Parser (List Node) := do
    bareParameters g true ((← trees).length + 1)
  groupThen .parenthesis parameters fun nodes => do
    let result ← resultType g false
    typeNode start .bareFunction (binder ++ inner ++ nodes ++ result)

/-- The bounds that follow a type in parentheses, which is the first of them. -/
def moreBounds (g : Grammar) : Parser (List Node) := do
  let more ← repeatWhile (startsMark "+") do
    mark "+"
    return (← anyBound g false false).2
  return more.flatten

/-- What a pair of parentheses in the place of a type holds. -/
inductive Parenthesized where
  | unit
  | lifetimeBounds (type : Node)
  | relaxedBound (nodes : List Node)
  | one (type : Node)
  | many (types : List Node)

/-- The inside of parentheses in the place of a type. -/
def parenthesizedType (g : Grammar) : Parser Parenthesized := do
  let ts ← trees
  if ts.isEmpty then
    return .unit
  if startsLifetime ts then
    let start ← here
    let (nodes, single) ←
      bounds g start true false false "at least one trait is required for an object type"
    return .lifetimeBounds (← typeNode start (.traitObject false single) nodes)
  if startsMark "?" ts then
    return .relaxedBound ((← traitBound g false).getD [])
  let first ← g.type true
  if startsMark "," (← trees) then
    mark ","
    return .many (first :: (← commaList (g.type true)))
  return .one first

/-- The type in parentheses may be the first of several bounds. -/
def isBoundType (type : Node) : Bool :=
  match type.type? with
  | some (.path p) => !p.qualified
  | some (.traitObject dyn single) => !dyn && single
  | _ => false

/-- A type that begins with a group in parentheses. -/
def typeInParentheses (g : Grammar) (start : Position) (allowPlus : Bool) : Parser Node :=
  groupThen .parenthesis (parenthesizedType g) fun
  | .unit => typeNode start .tuple []
  | .lifetimeBounds type => typeNode start .parenthesized [type]
  | .relaxedBound nodes => do
    let more ← moreBounds g
    typeNode start (.traitObject false more.isEmpty) (nodes ++ more)
  | .many types => typeNode start .tuple types
  | .one type => do
    if allowPlus && startsMark "+" (← trees) && isBoundType type then
      let more ← moreBounds g
      typeNode start (.traitObject false false) (type :: more)
    else
      typeNode start .parenthesized [type]

/-- An operation of the compiler comes next. -/
def startsBuiltin (ts : List TokenTree) : Bool :=
  startsWord "builtin" ts && startsMark "#" (ts.drop 1)

/-- An operation of the compiler, of which no parts are kept. -/
def builtinOperation : Parser Unit := do
  skip
  mark "#"
  let _ ← name
  if startsGroup .parenthesis (← trees) then skip else expected ["parentheses"]

/-- A type that begins with a path, after the parameters of a binder if there is one. -/
def typeFromPath (g : Grammar) (start : Position) (allowPlus : Bool) (binder : Option (List Node)) :
    Parser Node := do
  let (typed, nodes) ← typedPath g false
  if typed.qualified then
    typeNode start (.path typed) nodes
  else
    let ts ← trees
    if startsMark "!" ts && !startsMark "!=" ts && typed.path.isPlain then
      let call ← macroRest start typed.path
      typeNode start .macroUse [call]
    else if binder.isSome || (allowPlus && startsMark "+" ts) then
      let (more, single) ←
        if startsMark "+" ts && allowPlus then do
          mark "+"
          if startsBound false (← trees) then
            let (found, _) ← boundsWithin g true false false ((← trees).length + 1)
            pure ((found.map (·.2)).flatten, false)
          else
            pure ([], false)
        else
          pure ([], true)
      typeNode start (.traitObject false single) (binder.getD [] ++ nodes ++ more)
    else
      typeNode start (.path typed) nodes

/-- The words of paths that are no names. -/
def pathWords : List String :=
  ["super", "self", "Self", "crate"]

/-- A type after a binder, if there is one. -/
def typeAfterBinder (g : Grammar) (start : Position) (allowPlus : Bool)
    (binder : Option (List Node)) : Parser Node := do
  let place ← here
  let ts ← trees
  if startsGroup .parenthesis ts then
    typeInParentheses g place allowPlus
  else if startsOneOf ["fn", "unsafe", "extern"] ts then
    functionType g start (binder.getD [])
  else if startsBuiltin ts then
    builtinOperation
    typeNode start .unstructured []
  else if startsName ts || startsOneOf pathWords ts || startsMark "::" ts || startsMark "<" ts then
    typeFromPath g start allowPlus binder
  else if startsWord "dyn" ts then
    skip
    let star ← mark? "*"
    let (nodes, single) ←
      bounds g place allowPlus false false "at least one trait is required for an object type"
    if star then
      typeNode start .unstructured []
    else
      typeNode start (.traitObject true single) nodes
  else if startsGroup .bracket ts then
    let (isArray, nodes) ← group .bracket do
      let element ← g.type true
      if ← mark? ";" then
        return (true, [element, ← g.expression true])
      else
        return (false, [element])
    typeNode start (if isArray then .array else .slice) nodes
  else if startsMark "*" ts then
    mark "*"
    if startsOneOf ["const", "mut"] (← trees) then
      skip
    else
      expected [quoted "const", quoted "mut"]
    typeNode start .pointer [← g.type false]
  else if startsMark "&" ts then
    mark "&"
    let _ ← lifetime?
    let _ ← word? "mut"
    typeNode start .reference [← g.type false]
  else if startsMark "!" ts && !startsMark "=" ts then
    mark "!"
    typeNode start .never []
  else if startsWord "impl" ts then
    skip
    let (nodes, _) ← bounds g place allowPlus true true "at least one trait must be specified"
    typeNode start .implTrait nodes
  else if startsWord "_" ts then
    skip
    typeNode start .inferred []
  else if startsLifetime ts then
    let (nodes, single) ←
      bounds g place true false false "at least one trait is required for an object type"
    typeNode start (.traitObject false single) nodes
  else
    expected
      ((if binder.isNone then [quoted "for"] else []) ++
        ["parentheses", quoted "fn", quoted "unsafe", quoted "extern", "identifier", quoted "::",
          quoted "<", quoted "dyn", "square brackets", quoted "*", quoted "&", quoted "!",
          quoted "impl", quoted "_", "lifetime"])

/-- A type. -/
def type (g : Grammar) (allowPlus : Bool) : Parser Node := do
  let start ← here
  let binder ← binder? g
  if binder.isSome then
    let ts ← trees
    unless startsName ts || startsOneOf (["fn", "unsafe", "extern"] ++ pathWords) ts do
      expected
        ["identifier", quoted "fn", quoted "unsafe", quoted "extern", quoted "super", quoted "self",
          quoted "Self", quoted "crate"]
  typeAfterBinder g start allowPlus binder

end SourceLint.Syntax.Production
