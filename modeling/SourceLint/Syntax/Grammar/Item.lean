import SourceLint.Syntax.Grammar.Expression

/-!
# Items

Declarations at the top of a file, in modules and among statements, and those in the bodies of traits,
implementations and foreign blocks.  Some spellings are read for the sake of tools that give them a
meaning of their own, although the language has none for them; of such an item no parts are kept.

* **`itemRest`** — an item after its attributes.
* **`implItem`**, **`traitItem`**, **`foreignItem`** — the items in bodies.
-/

namespace SourceLint.Syntax.Production

open SourceLint.Syntax.Parser

/-! ### Common parts -/

/-- An item of which no parts are kept. -/
def unstructuredItem (start : Position) : Parser Node :=
  node start (.part .item) []

/-- An attributed body of items: the attributes inside it and the items. -/
def itemBody (g : Grammar) (item : Parser Node) : Parser (List Node × Node) := do
  let start ← here
  let (attributes, items) ← group .brace do
    return (← innerAttributes g, ← repeatToEnd item)
  return (attributes, ← node start (.part .items) items)

/-- The cursor after the words that may precede `fn`, if that word follows them. -/
def signatureAhead (allowSafe : Bool) (ts : List TokenTree) : Bool :=
  let ts := if startsWord "const" ts then ts.drop 1 else ts
  let ts := if startsWord "async" ts then ts.drop 1 else ts
  let ts :=
    if startsWord "unsafe" ts || (allowSafe && startsWord "safe" ts) then ts.drop 1 else ts
  let ts :=
    if startsWord "extern" ts then
      if startsLiteralOf .string (ts.drop 1) then ts.drop 2 else ts.drop 1
    else ts
  startsWord "fn" ts

/-- The beginning of a receiver up to the word `self`; the answer says whether it is a reference.  The word
`self` at the beginning of a path is none. -/
def receiverStart : Parser Bool := do
  let byReference ← mark? "&"
  if byReference then
    let _ ← lifetime?
  let _ ← word? "mut"
  word "self"
  if startsMark "::" (← trees) then
    expected []
  return byReference

/-- The type of a receiver, if it is written. -/
def receiverType (g : Grammar) (byReference : Bool) : Parser (List Node) := do
  if !byReference && startsMark ":" (← trees) then
    mark ":"
    return [← g.type true]
  else
    return []

/-- One parameter of a function after its attributes. -/
inductive FunctionParameter where
  | receiver (place : Position) (nodes : List Node)
  | typed (nodes : List Node)
  /-- The parameter that stands for any number of arguments. -/
  | variadic (nodes : List Node)

/-- The place of the word `self` in a receiver. -/
def selfPlace : List TokenTree → Position
  | [] => .first
  | .token (.word "self") s :: _ => s.start
  | _ :: ts => selfPlace ts

/-- One parameter of a function after its attributes. -/
def functionParameter (g : Grammar) : Parser FunctionParameter := do
  let ts ← trees
  match ← ahead? receiverStart with
  | some (byReference, s) =>
    set s
    return .receiver (selfPlace ts) (← receiverType g byReference)
  | none =>
    if startsName ts && startsMark "<" (ts.drop 1) then
      return .typed [← g.type true]
    let binding ← g.pattern
    mark ":"
    if ← mark? "..." then
      return .variadic [binding]
    else
      return .typed [binding, ← g.type true]

/-- What the parameters of a function are known to hold. -/
structure ParameterList where
  nodes : List Node
  /-- No parameter but a receiver. -/
  receiverOnly : Bool

/-- The parameters of a function up to the end of the group. -/
def functionParameters (g : Grammar) (hasReceiver isFirst : Bool) : (fuel : Nat) →
    Parser ParameterList
  | 0 => return ⟨[], true⟩
  | fuel + 1 => do
    if (← trees).isEmpty then
      return ⟨[], true⟩
    let attributes ← outerAttributes g
    if startsMark "..." (← trees) then
      mark "..."
      unless (← trees).isEmpty do
        mark ","
      return ⟨attributes, true⟩
    let (nodes, isReceiver) ←
      match ← functionParameter g with
      | .variadic nodes => do
        unless (← trees).isEmpty do
          mark ","
        return ⟨attributes ++ nodes, true⟩
      | .receiver place nodes => do
        if hasReceiver then
          throw ⟨place, .refused "unexpected second method receiver"⟩
        if !isFirst then
          throw ⟨place, .refused "unexpected method receiver"⟩
        pure (attributes ++ nodes, true)
      | .typed nodes => pure (attributes ++ nodes, false)
    if (← trees).isEmpty then
      return ⟨nodes, isReceiver⟩
    mark ","
    let rest ← functionParameters g (hasReceiver || isReceiver) false fuel
    return ⟨nodes ++ rest.nodes, isReceiver && rest.receiverOnly⟩

/-- The head of a function. -/
structure Signature where
  name : String
  receiverOnly : Bool
  /-- Its parts, the conditions on type parameters before the parameters of the function. -/
  node : Node
  /-- Whether it is marked safe, which only foreign functions may be. -/
  isSafe : Bool

/-- The head of a function. -/
def signature (g : Grammar) (allowSafe : Bool) : Parser Signature := do
  let start ← here
  let _ ← word? "const"
  let _ ← word? "async"
  let isUnsafe ← word? "unsafe"
  let isSafe ← if allowSafe && !isUnsafe then word? "safe" else pure false
  convention?
  word "fn"
  let n ← name
  let generics ← parameters g
  let inputs : Parser ParameterList := do
    functionParameters g false true ((← trees).length + 1)
  groupThen .parenthesis inputs fun inputs => do
    let result ← resultType g true
    let where_ ← conditions g
    let head ← node start (.part .signature) (generics ++ where_ ++ inputs.nodes ++ result)
    return ⟨n, inputs.receiverOnly, head, isSafe⟩

/-- The bounds after a colon, up to something that ends them. -/
def boundsUpTo (g : Grammar) (stop : List TokenTree → Bool) : Parser (List Node) := do
  return (← listTo stop "+" g.bound).flatten

/-- The words among the given ones that do not come next, as an error lists them. -/
def missingWords (words : List String) (ts : List TokenTree) : List String :=
  (words.filter fun w => !startsWord w ts).map quoted

/-- A macro call in the place of an item, with the semicolon that it needs unless it ends in a brace.
-/
def macroItem (start : Position) (attributes : List Node) : Parser Node := do
  let place ← here
  let p ← plainPath
  let call ← macroRest place p
  unless (← get).afterBrace do
    mark ";"
  node start (.part .item) (attributes ++ [call])

/-- A path that may begin a macro call in the place of an item comes next. -/
def startsMacroItem (ts : List TokenTree) : Bool :=
  startsName ts || startsOneOf ["self", "super", "crate"] ts || startsMark "::" ts

/-- The wording for the beginnings of macro calls. -/
def macroBeginnings : List String :=
  ["identifier", quoted "self", quoted "super", quoted "crate", quoted "::"]

/-- The parts of a type alias or an associated type. -/
structure TypeDeclaration where
  name : String
  visibility : Option Span
  isDefault : Bool
  /-- The nodes of its parameters and conditions. -/
  generics : List Node
  /-- The nodes of its bounds, if it has a colon. -/
  bounds : Option (List Node)
  /-- The type after its equals sign. -/
  definition : Option Node

/-- A type alias or an associated type after its attributes.  A `where` clause may stand before the
equals sign, after the type, or at either place. -/
def typeDeclaration (g : Grammar) (allowDefault whereBefore whereAfter : Bool) :
    Parser TypeDeclaration := do
  let vis ← visibility
  let isDefault ← if allowDefault then word? "default" else pure false
  word "type"
  let n ← name
  let generics ← parameters g
  let stop ts := startsWord "where" ts || startsMark "=" ts || startsMark ";" ts
  let bounds ← if ← mark? ":" then some <$> boundsUpTo g stop else pure none
  let hasWhere := whereBefore && startsWord "where" (← trees)
  let before ← if whereBefore then conditions g else pure []
  let definition ← if ← mark? "=" then some <$> g.type true else pure none
  let after ← if whereAfter && !hasWhere then conditions g else pure []
  mark ";"
  return ⟨n, vis, isDefault, generics ++ before ++ after, bounds, definition⟩

/-! ### Items in bodies -/

/-- A constant in a body after the word `const`: its name, its parts and its value, and whether it is
plain, that is without parameters and conditions. -/
structure ConstDeclaration where
  name : String
  parts : List Node
  value : Option Node
  isPlain : Bool

/-- A constant after the word `const`; `others` is what may stand in the place of its name besides. -/
def constDeclaration (g : Grammar) (others : List String) : Parser ConstDeclaration := do
  let ts ← trees
  let n ←
    if startsName ts || startsWord "_" ts then anyWord
    else expected (["identifier", quoted "_"] ++ others)
  let hasParameters := startsMark "<" (← trees)
  let generics ← parameters g
  mark ":"
  let type ← g.type true
  let value ← if ← mark? "=" then some <$> g.expression true else pure none
  let hasWhere := startsWord "where" (← trees)
  let where_ ← conditions g
  mark ";"
  return ⟨n, generics ++ where_ ++ [type], value, !hasParameters && !hasWhere⟩

/-- A function in an implementation, after its attributes. -/
def implFunction (g : Grammar) (start : Position) (attributes : List Node) : Parser Node := do
  let vis ← visibility
  let _ ← word? "default"
  let head ← signature g false
  if ← mark? ";" then
    unstructuredItem start
  else
    let (inner, body) ← attributedBlock g
    node start (.implFunction ⟨head.name, vis⟩ head.receiverOnly)
      (attributes ++ inner ++ [head.node, body])

/-- An item in the body of an implementation. -/
def implItem (g : Grammar) : Parser Node := do
  let start ← here
  let attributes ← outerAttributes g
  match ← ahead? visibility with
  | none =>
    let _ ← visibility
    unstructuredItem start
  | some (vis, s) =>
    let isDefault := startsWord "default" s.rest && !startsMark "!" (s.rest.drop 1)
    let ts := if isDefault then s.rest.drop 1 else s.rest
    if startsWord "fn" ts || signatureAhead false ts then
      implFunction g start attributes
    else if startsWord "const" ts then
      set s
      let _ ← if isDefault then word? "default" else pure false
      word "const"
      let c ← constDeclaration g []
      match c.value with
      | some value =>
        if c.isPlain then
          node start (.implConst ⟨c.name, vis⟩)
            (attributes ++ c.parts ++ [partOf .value [value]])
        else
          unstructuredItem start
      | none => unstructuredItem start
    else if startsWord "type" ts then
      let t ← typeDeclaration g true false true
      match t.definition, t.bounds with
      | some type, none =>
        node start (.implType ⟨t.name, t.visibility⟩) (attributes ++ t.generics ++ [type])
      | _, _ => unstructuredItem start
    else if vis.isNone && !isDefault && startsMacroItem ts then
      macroItem start attributes
    else
      set s
      if isDefault then
        skip
      let words := ["fn", "const", "type"]
      let words := if isDefault then words else "default" :: words
      expected
        (missingWords words ts ++ if vis.isNone && !isDefault then macroBeginnings else [])

/-- A function in a trait, with a body or without one. -/
def traitFunction (g : Grammar) (start : Position) (attributes : List Node) : Parser Node := do
  let head ← signature g false
  let ts ← trees
  if startsGroup .brace ts then
    let (inner, body) ← attributedBlock g
    node start (.part .item) (attributes ++ inner ++ [head.node, body])
  else if startsMark ";" ts then
    mark ";"
    node start (.part .item) (attributes ++ [head.node])
  else
    expected ["curly braces", quoted ";"]

/-- The words that make a function of an item in the body of a trait that begins with `const`. -/
def functionWords : List String :=
  ["async", "unsafe", "extern", "fn"]

/-- An item in the body of a trait. -/
def traitItem (g : Grammar) : Parser Node := do
  let start ← here
  let attributes ← outerAttributes g
  let vis ← visibility
  let isDefault ← word? "default"
  let marked := vis.isSome || isDefault
  let ts ← trees
  let item ←
    if startsWord "fn" ts || signatureAhead false ts then
      traitFunction g start attributes
    else if startsWord "const" ts && startsOneOf functionWords (ts.drop 1) then
      traitFunction g start attributes
    else if startsWord "const" ts then do
      skip
      let c ← constDeclaration g (functionWords.map quoted)
      if c.isPlain then
        node start (.part .item) (attributes ++ c.parts ++ c.value.toList)
      else
        unstructuredItem start
    else if startsWord "type" ts then do
      let t ← typeDeclaration g false false true
      if t.visibility.isSome then
        unstructuredItem start
      else
        node start (.part .item)
          (attributes ++ t.generics ++ t.bounds.getD [] ++ t.definition.toList)
    else if !marked && startsMacroItem ts then
      macroItem start attributes
    else
      expected
        ([quoted "fn", quoted "const", quoted "type"] ++ if marked then [] else macroBeginnings)
  if marked then
    unstructuredItem start
  else
    return item

/-- A function in a foreign block, after its attributes. -/
def foreignFunction (g : Grammar) (start : Position) (attributes : List Node) : Parser Node := do
  let _ ← visibility
  let head ← signature g true
  if startsGroup .brace (← trees) then
    let _ ← attributedBlock g
    unstructuredItem start
  else
    mark ";"
    if head.isSafe then
      unstructuredItem start
    else
      node start (.part .item) (attributes ++ [head.node])

/-- A static in a foreign block, after its attributes. -/
def foreignStatic (g : Grammar) (start : Position) (attributes : List Node) : Parser Node := do
  let _ ← visibility
  let isUnsafe ← word? "unsafe"
  let isSafe ← if isUnsafe then pure false else word? "safe"
  word "static"
  let _ ← word? "mut"
  let _ ← name
  mark ":"
  let type ← g.type true
  let hasValue ← mark? "="
  if hasValue then
    let _ ← g.expression true
  mark ";"
  if isUnsafe || isSafe || hasValue then
    unstructuredItem start
  else
    node start (.part .item) (attributes ++ [type])

/-- An item in a foreign block. -/
def foreignItem (g : Grammar) : Parser Node := do
  let start ← here
  let attributes ← outerAttributes g
  match ← ahead? visibility with
  | none =>
    let _ ← visibility
    unstructuredItem start
  | some (vis, s) =>
    let ts := s.rest
    if startsWord "fn" ts || signatureAhead true ts then
      foreignFunction g start attributes
    else if startsWord "static" ts ||
        (startsOneOf ["unsafe", "safe"] ts && startsWord "static" (ts.drop 1)) then
      foreignStatic g start attributes
    else if startsWord "type" ts then
      let t ← typeDeclaration g false true true
      if t.bounds.isSome || t.definition.isSome then
        unstructuredItem start
      else
        node start (.part .item) (attributes ++ t.generics)
    else if vis.isNone && startsMacroItem ts then
      macroItem start attributes
    else
      set s
      expected
        ([quoted "fn", quoted "static", quoted "type"] ++ if vis.isNone then macroBeginnings else [])

/-! ### Structs, enums and unions -/

/-- A named field. -/
def namedField (g : Grammar) : Parser Node := do
  let start ← here
  let attributes ← outerAttributes g
  let vis ← visibility
  let wild := startsWord "_" (← trees)
  let n ← if wild then anyWord else name
  mark ":"
  let ts ← trees
  if wild && (startsWord "struct" ts || (startsWord "union" ts && startsGroup .brace (ts.drop 1))) then
    skip
    -- The fields of the nested type are read like any others, but they are not kept.
    let _ ← g.fields
    node start (.field ⟨n, vis⟩) attributes
  else
    let type ← g.type true
    node start (.field ⟨n, vis⟩) (attributes ++ [type])

/-- A field without a name. -/
def unnamedField (g : Grammar) : Parser Node := do
  let start ← here
  let attributes ← outerAttributes g
  let vis ← visibility
  let type ← g.type true
  node start (.field ⟨"", vis⟩) (attributes ++ [type])

/-- Fields in braces. -/
def namedFields (g : Grammar) : Parser Node := do
  let start ← here
  let fields ← group .brace (commaList (namedField g))
  node start (.part .fields) fields

/-- Fields in parentheses. -/
def unnamedFields (g : Grammar) : Parser Node := do
  let start ← here
  let fields ← group .parenthesis (commaList (unnamedField g))
  node start (.part .fields) fields

/-- A struct after its attributes and visibility. -/
def structItem (g : Grammar) (start : Position) (attributes : List Node) : Parser Node := do
  word "struct"
  let n ← name
  let generics ← parameters g
  let finish (where_ : List Node) (fields : Node) : Parser Node :=
    node start (.struct n) (attributes ++ [partOf .generics (generics ++ where_), fields])
  let ts ← trees
  let hasWhere := startsWord "where" ts
  let where_ ← conditions g
  let beginnings := if hasWhere then [] else [quoted "where", "parentheses"]
  let ts ← trees
  if !hasWhere && startsGroup .parenthesis ts then
    let fields ← unnamedFields g
    let hasWhere := startsWord "where" (← trees)
    let where_ ← conditions g
    if ← mark? ";" then
      finish where_ fields
    else
      expected ((if hasWhere then [] else [quoted "where"]) ++ [quoted ";"])
  else if startsGroup .brace ts then
    finish where_ (← namedFields g)
  else if startsMark ";" ts then
    mark ";"
    finish where_ (partOf .fields [])
  else
    expected (beginnings ++ ["curly braces", quoted ";"])

/-- A variant of an enum. -/
def enumVariant (g : Grammar) : Parser Node := do
  let start ← here
  let attributes ← outerAttributes g
  let _ ← visibility
  let _ ← name
  let ts ← trees
  let fields ←
    if startsGroup .brace ts then namedFields g
    else if startsGroup .parenthesis ts then unnamedFields g
    else pure (partOf .fields [])
  let discriminant ← if ← mark? "=" then pure [← g.expression true] else pure []
  node start (.part .variant) (attributes ++ fields :: discriminant)

/-- An enum after its attributes and visibility. -/
def enumItem (g : Grammar) (start : Position) (attributes : List Node) : Parser Node := do
  word "enum"
  let n ← name
  let generics ← parameters g
  let where_ ← conditions g
  let variants ← group .brace (commaList (enumVariant g))
  node start (.enum n) (attributes ++ partOf .generics (generics ++ where_) :: variants)

/-- A union after its attributes and visibility. -/
def unionItem (g : Grammar) (start : Position) (attributes : List Node) : Parser Node := do
  word "union"
  let n ← name
  let generics ← parameters g
  let where_ ← conditions g
  let fields ← namedFields g
  node start (.union n) (attributes ++ [partOf .generics (generics ++ where_), fields])

/-! ### Modules, imports and foreign blocks -/

/-- A module after its attributes and visibility. -/
def moduleItem (g : Grammar) (start : Position) (attributes : List Node) : Parser Node := do
  let _ ← word? "unsafe"
  word "mod"
  let n ← if startsWord "try" (← trees) then anyWord else name
  let ts ← trees
  if startsMark ";" ts then
    mark ";"
    node start (.module n) attributes
  else if startsGroup .brace ts then
    let (inner, items) ← itemBody g g.item
    node start (.module n) (attributes ++ inner ++ [items])
  else
    expected [quoted ";", "curly braces"]

/-- The trees of an import in braces up to the end of the group; the answer says whether none of them
begins at the root. -/
def importTrees (g : Grammar) (allowRoot : Bool) : (fuel : Nat) → Parser Bool
  | 0 => return true
  | fuel + 1 => do
    if (← trees).isEmpty then
      return true
    let atRoot ← if allowRoot then mark? "::" else pure false
    let wellFormed ← g.importTree (allowRoot && !atRoot)
    let ok := !atRoot && wellFormed
    if (← trees).isEmpty then
      return ok
    mark ","
    return (← importTrees g allowRoot fuel) && ok

/-- The tree of an import; the answer says whether no branch of it begins at the root. -/
def importTree (g : Grammar) (allowRoot : Bool) : Parser Bool := do
  let ts ← trees
  if startsName ts || startsOneOf ["self", "super", "crate", "try"] ts then
    skip
    if ← mark? "::" then
      g.importTree false
    else if ← word? "as" then
      let ts ← trees
      if startsName ts || startsWord "_" ts then
        skip
        return true
      else
        expected ["identifier or underscore"]
    else
      return true
  else if startsMark "*" ts then
    mark "*"
    return true
  else if startsGroup .brace ts then
    group .brace do
      importTrees g allowRoot ((← trees).length + 1)
  else
    expected
      ["identifier", quoted "self", quoted "super", quoted "crate", quoted "try", quoted "*",
        "curly braces"]

/-- An import after its attributes and visibility. -/
def importItem (g : Grammar) (start : Position) (attributes : List Node) : Parser Node := do
  word "use"
  let global ← mark? "::"
  let ok ← g.importTree !global
  mark ";"
  node start (.part .item) (if ok then attributes else [])

/-- The declaration of a linked crate after its attributes and visibility. -/
def crateItem (start : Position) (attributes : List Node) : Parser Node := do
  word "extern"
  word "crate"
  if startsWord "self" (← trees) then
    skip
  else
    let _ ← name
  if ← word? "as" then
    if startsWord "_" (← trees) then
      skip
    else
      let _ ← name
  mark ";"
  node start (.part .item) attributes

/-- A block of foreign items after its attributes. -/
def foreignBlock (g : Grammar) (start : Position) (attributes : List Node) : Parser Node := do
  let _ ← word? "unsafe"
  if startsWord "extern" (← trees) then
    convention?
  else
    expected [quoted "extern"]
  let (inner, items) ← itemBody g (foreignItem g)
  node start (.part .item) (attributes ++ inner ++ [items])

/-! ### Traits and implementations -/

/-- A trait after its parameters. -/
def traitRest (g : Grammar) (start : Position) (attributes : List Node) (n : String)
    (generics : List Node) : Parser Node := do
  let stop ts := startsWord "where" ts || startsGroup .brace ts
  let bounds ← if ← mark? ":" then boundsUpTo g stop else pure []
  let where_ ← conditions g
  let (inner, items) ← itemBody g (traitItem g)
  node start (.trait n)
    (attributes ++ inner ++ partOf .generics (generics ++ where_ ++ bounds) :: [items])

/-- A trait that may be marked unsafe or automatic, after its attributes and visibility. -/
def markedTrait (g : Grammar) (start : Position) (attributes : List Node) : Parser Node := do
  let _ ← word? "unsafe"
  let _ ← word? "auto"
  word "trait"
  let n ← name
  let generics ← parameters g
  traitRest g start attributes n generics

/-- A trait or another name for bounds, after its attributes and visibility. -/
def traitItemOrAlias (g : Grammar) (start : Position) (attributes : List Node) : Parser Node := do
  word "trait"
  let n ← name
  let generics ← parameters g
  let ts ← trees
  if startsGroup .brace ts || startsMark ":" ts || startsWord "where" ts then
    traitRest g start attributes n generics
  else if startsMark "=" ts then
    mark "="
    let stop ts := startsWord "where" ts || startsMark ";" ts
    let bounds ← listTo stop "+" (return (← anyBound g false false).2)
    let where_ ← conditions g
    mark ";"
    node start (.part .item) (attributes ++ generics ++ where_ ++ bounds.flatten)
  else
    expected ["curly braces", quoted ":", quoted "where", quoted "="]

/-- The type that a node is, if it is written as a path. -/
def typePath? (type : Node) : Option TypedPath :=
  match type.type? with
  | some (.path p) => some p
  | _ => none

/-- An implementation after its attributes. -/
def implementation (g : Grammar) (start : Position) (attributes : List Node) : Parser Node := do
  let hasVisibility := (← visibility).isSome
  let _ ← word? "default"
  let _ ← word? "unsafe"
  word "impl"
  let generics ← if choosesParameters (← trees) then parameters g else pure []
  let ts ← trees
  let isConst := startsWord "const" ts || (startsMark "?" ts && startsWord "const" (ts.drop 1))
  if isConst then
    let _ ← mark? "?"
    word "const"
  let bang ← here
  let ts ← trees
  let negative := startsMark "!" ts && !startsGroup .brace (ts.drop 1)
  if negative then
    mark "!"
  let first ← g.type true
  let isFor ← word? "for"
  let (header, types, hasTrait) ←
    if isFor then do
      let self ← g.type true
      match typePath? first with
      | some ⟨false, p⟩ =>
        pure (ImplHeader.mk (some (negative, p)) (typePath? self), [first, self], true)
      | _ => pure (ImplHeader.mk none (typePath? self), [first, self], false)
    else if negative then
      throw ⟨bang, .refused "inherent impls cannot be negative"⟩
    else
      pure (ImplHeader.mk none (typePath? first), [first], false)
  let where_ ← conditions g
  let (inner, items) ← itemBody g (implItem g)
  if hasVisibility || isConst || (isFor && !hasTrait) then
    unstructuredItem start
  else
    node start (.impl header)
      (attributes ++ inner ++ partOf .generics (generics ++ where_) :: types ++ [items])

/-! ### Functions, constants and statics -/

/-- A function after its attributes and visibility. -/
def functionItem (g : Grammar) (start : Position) (attributes : List Node) : Parser Node := do
  let head ← signature g false
  if ← mark? ";" then
    unstructuredItem start
  else
    let (inner, body) ← attributedBlock g
    node start (.function head.name) (attributes ++ inner ++ [head.node, body])

/-- A static after its attributes and visibility. -/
def staticItem (g : Grammar) (start : Position) (attributes : List Node) : Parser Node := do
  word "static"
  let _ ← word? "mut"
  let _ ← name
  if ← mark? "=" then
    let _ ← g.expression true
    mark ";"
    unstructuredItem start
  else
    mark ":"
    let type ← g.type true
    if ← mark? ";" then
      unstructuredItem start
    else
      mark "="
      let value ← g.expression true
      mark ";"
      node start (.part .item) (attributes ++ [type, value])

/-- A constant after its attributes and visibility. -/
def constItem (g : Grammar) (start : Position) (attributes : List Node) : Parser Node := do
  word "const"
  let c ← constDeclaration g []
  match c.value with
  | some value =>
    if c.isPlain then
      node start (.part .item) (attributes ++ c.parts ++ [value])
    else
      unstructuredItem start
  | none => unstructuredItem start

/-- A type alias after its attributes. -/
def aliasItem (g : Grammar) (start : Position) (attributes : List Node) : Parser Node := do
  let t ← typeDeclaration g false true false
  match t.definition, t.bounds with
  | some type, none => node start (.typeAlias t.name) (attributes ++ t.generics ++ [type])
  | _, _ => unstructuredItem start

/-- The definition of a declarative macro by the word `macro`. -/
def macroDefinition (start : Position) : Parser Node := do
  skip
  let _ ← name
  let hasParameters := startsGroup .parenthesis (← trees)
  if hasParameters then
    skip
  if startsGroup .brace (← trees) then
    skip
    unstructuredItem start
  else
    expected ((if hasParameters then [] else ["parentheses"]) ++ ["curly braces"])

/-- A macro call in the place of an item, which may define a name. -/
def macroCallItem (start : Position) (attributes : List Node) : Parser Node := do
  let place ← here
  let p ← plainPath
  mark "!"
  let ts ← trees
  if startsWord "try" ts || startsName ts then
    skip
  let _ ← anyGroup
  -- The call as a whole has the name between its mark and its group, but its path is the same.
  let call ← node place (.macroCall p) []
  unless (← get).afterBrace do
    mark ";"
  node start (.part .item) (attributes ++ [call])

/-! ### All items -/

/-- The words that an item may begin with, in the order in which an error lists them. -/
def itemBeginnings : List String :=
  ["fn", "extern", "use", "static", "const", "unsafe", "mod", "type", "struct", "enum", "union",
    "trait", "auto", "impl", "default", "macro"]

/-- An item after its attributes. -/
def itemRest (g : Grammar) (start : Position) (attributes : List Node) : Parser Node := do
  match ← ahead? visibility with
  | none =>
    let _ ← visibility
    unstructuredItem start
  | some (vis, s) =>
    let ts := s.rest
    let second := ts.drop 1
    if startsWord "fn" ts || signatureAhead false ts then
      set s
      functionItem g start attributes
    else if startsWord "extern" ts then
      if startsWord "crate" second then
        set s
        crateItem start attributes
      else if startsGroup .brace second then
        foreignBlock g start attributes
      else if startsLiteralOf .string second then
        if startsGroup .brace (second.drop 1) then
          foreignBlock g start attributes
        else
          set s
          skipMany 2
          expected ["curly braces"]
      else
        set s
        skip
        expected [quoted "crate", "curly braces", "string literal"]
    else if startsWord "use" ts then
      set s
      importItem g start attributes
    else if startsWord "static" ts then
      set s
      staticItem g start attributes
    else if startsWord "const" ts then
      set s
      constItem g start attributes
    else if startsWord "unsafe" ts then
      if startsWord "trait" second ||
          (startsWord "auto" second && startsWord "trait" (second.drop 1)) then
        set s
        markedTrait g start attributes
      else if startsWord "impl" second then
        implementation g start attributes
      else if startsWord "extern" second then
        foreignBlock g start attributes
      else if startsWord "mod" second then
        set s
        moduleItem g start attributes
      else
        set s
        skip
        expected (missingWords ["trait", "auto", "impl", "extern", "mod"] second)
    else if startsWord "mod" ts then
      set s
      moduleItem g start attributes
    else if startsWord "type" ts then
      aliasItem g start attributes
    else if startsWord "struct" ts then
      set s
      structItem g start attributes
    else if startsWord "enum" ts then
      set s
      enumItem g start attributes
    else if startsWord "union" ts && startsName second then
      set s
      unionItem g start attributes
    else if startsWord "trait" ts then
      set s
      traitItemOrAlias g start attributes
    else if startsWord "auto" ts && startsWord "trait" second then
      set s
      markedTrait g start attributes
    else if startsWord "impl" ts || (startsWord "default" ts && !startsMark "!" second) then
      implementation g start attributes
    else if startsWord "macro" ts then
      set s
      macroDefinition start
    else if vis.isNone && startsMacroItem ts then
      macroCallItem start attributes
    else
      set s
      expected (missingWords itemBeginnings ts ++ if vis.isNone then macroBeginnings else [])

/-- An item with its attributes. -/
def item (g : Grammar) : Parser Node := do
  let start ← here
  let attributes ← outerAttributes g
  itemRest g start attributes

end SourceLint.Syntax.Production
