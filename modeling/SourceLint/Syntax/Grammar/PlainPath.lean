import SourceLint.Syntax.Grammar.Basic

/-!
# Plain paths and what needs no more than them

* **`plainPath`** — a path without arguments, as in attributes, macro calls and visibilities.
* **`visibility`** — the stretch of a visibility, if one is written.
* **`block`**, **`macroRest`**, **`literal`** — a block, a macro call after its path, and a literal.
-/

namespace SourceLint.Syntax.Production

open SourceLint.Syntax.Parser

/-! ### Plain paths -/

/-- A name that may stand in a plain path comes next. -/
def startsPlainSegment (ts : List TokenTree) : Bool :=
  startsName ts || startsOneOf ["super", "self", "Self", "crate"] ts

/-- The names of a plain path, and whether a separator follows the last of them. -/
def plainNames : (fuel : Nat) → Parser (List PathSegment × Bool)
  | 0 => return ([], true)
  | fuel + 1 => do
    if startsPlainSegment (← trees) then
      let n ← anyWord
      if ← mark? "::" then
        let (rest, trailing) ← plainNames fuel
        return (⟨n, .absent⟩ :: rest, trailing)
      else
        return ([⟨n, .absent⟩], false)
    else
      return ([], true)

/-- A path without arguments. -/
def plainPath : Parser Path := do
  let global ← mark? "::"
  let (segments, trailing) ← plainNames ((← trees).length + 1)
  if segments.isEmpty then
    let _ ← name
  if trailing then
    expected ["path segment after `::`"]
  return ⟨global, segments⟩

/-! ### Visibility -/

/-- The inside of a restricted visibility, after which the group has to end. -/
def restriction : Parser Bool := do
  let ts ← trees
  if startsOneOf ["crate", "self", "super"] ts then
    skip
    return (← trees).isEmpty
  else if startsWord "in" ts then
    skip
    let _ ← plainPath
    return true
  else
    return false

/-- The stretch of a visibility; nothing when none is written.  Parentheses that hold no restriction
belong to what follows. -/
def visibility : Parser (Option Span) := do
  let start ← here
  if ← word? "pub" then
    if startsGroup .parenthesis (← trees) then
      -- Only a path after `in` may be malformed; what holds no restriction is left alone.
      let inner := match ← trees with
        | .group _ _ _ inner :: _ => inner
        | _ => []
      if startsWord "in" inner then
        let _ ← group .parenthesis restriction
      else
        match ← ahead? (group .parenthesis restriction) with
        | some (true, s) => set s
        | _ => pure ()
    return some ⟨start, (← get).last⟩
  else
    return none

/-! ### Blocks and macro calls -/

/-- A block. -/
def block (g : Grammar) : Parser Node := do
  let start ← here
  let statements ← group .brace g.statements
  node start .block statements

/-- The rest of a macro call after its path. -/
def macroRest (start : Position) (path : Path) : Parser Node := do
  mark "!"
  let _ ← anyGroup
  node start (.macroCall path) []

/-- The literal that comes next. -/
def literal : Parser Node := do
  let start ← here
  let n := literalTrees (← trees)
  if n = 0 then
    expected ["literal"]
  skipMany n
  expressionNode start .literal []

end SourceLint.Syntax.Production
