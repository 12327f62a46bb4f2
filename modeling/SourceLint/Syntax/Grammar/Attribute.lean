import SourceLint.Syntax.Grammar.PlainPath

/-!
# Attributes

An attribute has a path and possibly arguments: tokens in brackets of any kind, or a value after an
equals sign.  The value is an expression and is kept as a part of the attribute's node.

* **`outerAttributes`** — the attributes before what they belong to.
* **`innerAttributes`** — the attributes at the beginning of the body that they belong to.
* **`blockExpression`** — a block that may have attributes inside it.
-/

namespace SourceLint.Syntax.Production

open SourceLint.Syntax.Parser

/-- The value of an attribute after its equals sign: a literal that ends it, or an expression. -/
def attributeValue (g : Grammar) : Parser Node := do
  let ts ← trees
  let n := literalTrees ts
  if n != 0 && (ts.drop n).isEmpty then
    literal
  else if startsMark "#" ts && startsGroup .bracket (ts.drop 1) then
    fail (.refused "unexpected attribute inside of attribute")
  else
    g.expression true

/-- What stands between the brackets of an attribute. -/
def attributeContent (g : Grammar) : Parser (Attribute × List Node) := do
  let path ←
    if startsWord "unsafe" (← trees) then
      pure ⟨false, [⟨← anyWord, .absent⟩]⟩
    else
      plainPath
  match ← trees with
  | .group _ _ _ inner :: _ =>
    skip
    return (⟨path, some inner⟩, [])
  | ts =>
    if startsMark "=" ts && !startsMark "==" ts && !startsMark "=>" ts then
      mark "="
      return (⟨path, none⟩, [← attributeValue g])
    else
      return (⟨path, none⟩, [])

/-- The attribute after its hash mark, and the exclamation mark if it has one. -/
def attributeRest (g : Grammar) (start : Position) : Parser Node := do
  let (content, nodes) ← group .bracket (attributeContent g)
  node start (.part (.attribute content)) nodes

/-- An attribute before what it belongs to. -/
def outerAttribute (g : Grammar) : Parser Node := do
  let start ← here
  mark "#"
  attributeRest g start

/-- The attributes before what they belong to. -/
def outerAttributes (g : Grammar) : Parser (List Node) :=
  repeatWhile (startsMark "#") (outerAttribute g)

/-- An attribute inside what it belongs to. -/
def innerAttribute (g : Grammar) : Parser Node := do
  let start ← here
  mark "#"
  mark "!"
  attributeRest g start

/-- The attributes inside what they belong to. -/
def innerAttributes (g : Grammar) : Parser (List Node) :=
  repeatWhile (fun ts => startsMark "#" ts && startsMark "!" (ts.drop 1)) (innerAttribute g)

/-- A block whose attributes, if it has any, belong to the node around it. -/
def attributedBlock (g : Grammar) : Parser (List Node × Node) := do
  let start ← here
  let (attributes, statements) ← group .brace do
    return (← innerAttributes g, ← g.statements)
  return (attributes, ← node start .block statements)

/-- A block as an expression, after its label. -/
def blockExpression (g : Grammar) (start : Position) : Parser Node := do
  let (attributes, body) ← attributedBlock g
  expressionNode start .blockExpression (attributes ++ [body])

end SourceLint.Syntax.Production
