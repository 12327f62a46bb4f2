import SourceLint.Syntax.Node

/-!
# Parsers on token trees

A parser reads a list of token trees from the left.  Within a group it sees the trees of that group
only; when it is done with the group, a tree that it left unread is remembered, and the parse as a
whole fails there unless something else fails first.

* **`SyntaxError`** — what keeps a text from being a program, and the place where that shows.
* **`Cursor`** — the trees still to be read and what is known about those already read.
* **`Parser`** — the parsers, with `word`, `mark`, `name`, `group` for single trees and `listTo`,
  `listOf` for lists.
-/

namespace SourceLint.Syntax

/-! ### Errors -/

/-- The causes of syntax errors. -/
inductive SyntaxCause where
  /-- The text is no sequence of tokens. -/
  | notTokens
  /-- Something else was expected; `atEnd` when the input or the group ends there. -/
  | expected (what : List String) (atEnd : Bool)
  /-- This punctuation was expected. -/
  | expectedMark (symbol : String)
  /-- A keyword stands where a name is expected. -/
  | keywordAsName (word : String)
  /-- A group holds more than it may. -/
  | leftover (delimiter : Delimiter)
  /-- A statement is not ended before the next begins. -/
  | unendedStatement
  /-- A rule beyond the grammar is broken. -/
  | refused (reason : String)
deriving DecidableEq, Inhabited

/-- A syntax error at a place. -/
structure SyntaxError where
  position : Position
  cause : SyntaxCause
deriving DecidableEq, Inhabited

/-- The wording of what was expected. -/
def expectation : List String → String
  | [] => "unexpected token"
  | [a] => s!"expected {a}"
  | [a, b] => s!"expected {a} or {b}"
  | what => "expected one of: " ++ String.intercalate ", " what

/-- The wording of a cause. -/
def SyntaxCause.message : SyntaxCause → String
  | notTokens => "cannot parse string into token stream"
  | expected [] true => "unexpected end of input"
  | expected what true => s!"unexpected end of input, {expectation what}"
  | expected what false => expectation what
  | expectedMark symbol => s!"expected `{symbol}`"
  | keywordAsName word => s!"expected identifier, found keyword `{word}`"
  | leftover d => s!"unexpected token, expected `{d.closer}`"
  | unendedStatement => "unexpected token, expected `;`"
  | refused reason => reason

/-- A word or punctuation in the wording of an error. -/
def quoted (text : String) : String :=
  s!"`{text}`"

/-- The name of a kind of group in the wording of an error. -/
def Delimiter.description : Delimiter → String
  | .parenthesis => "parentheses"
  | .bracket => "square brackets"
  | .brace => "curly braces"

/-! ### Questions about the next trees -/

/-- The words that are no names unless they are written raw. -/
def reservedWords : List String :=
  ["_", "abstract", "as", "async", "await", "become", "box", "break", "const", "continue", "crate",
    "do", "dyn", "else", "enum", "extern", "false", "final", "fn", "for", "if", "impl", "in", "let",
    "loop", "macro", "match", "mod", "move", "mut", "override", "priv", "pub", "ref", "return", "Self",
    "self", "static", "struct", "super", "trait", "true", "try", "type", "typeof", "unsafe", "unsized",
    "use", "virtual", "where", "while", "yield"]

/-- A word comes next. -/
def startsAnyWord : List TokenTree → Bool
  | .token (.word _) _ :: _ => true
  | _ => false

/-- The given word comes next. -/
def startsWord (w : String) : List TokenTree → Bool
  | .token (.word n) _ :: _ => n == w
  | _ => false

/-- One of the given words comes next. -/
def startsOneOf (ws : List String) : List TokenTree → Bool
  | .token (.word n) _ :: _ => ws.contains n
  | _ => false

/-- A name comes next. -/
def startsName : List TokenTree → Bool
  | .token (.word n) _ :: _ => !reservedWords.contains n
  | _ => false

/-- A lifetime comes next. -/
def startsLifetime : List TokenTree → Bool
  | .token (.lifetime _) _ :: _ => true
  | _ => false

/-- A group comes next. -/
def startsGroup (d : Delimiter) : List TokenTree → Bool
  | .group d' _ _ _ :: _ => d == d'
  | _ => false

/-- The punctuation with the given characters comes next, each joined to the one after it. -/
def startsSymbols : List Char → List TokenTree → Bool
  | [], _ => true
  | [c], .token (.punct s _) _ :: _ => c == s
  | c :: cs, .token (.punct s joint) _ :: ts => c == s && joint && startsSymbols cs ts
  | _, _ => false

/-- The given punctuation comes next. -/
def startsMark (m : String) (ts : List TokenTree) : Bool :=
  startsSymbols m.toList ts

/-- A number comes next. -/
def startsNumber : List TokenTree → Bool
  | .token (.literal kind _) _ :: _ => kind == .integer || kind == .float
  | _ => false

/-- A literal of the given kind comes next. -/
def startsLiteralOf (k : LiteralKind) : List TokenTree → Bool
  | .token (.literal kind _) _ :: _ => kind == k
  | _ => false

/-- The number of trees of the literal that comes next: one, or two for a negative number; zero when
none comes next. -/
def literalTrees : List TokenTree → Nat
  | .token (.literal _ _) _ :: _ => 1
  | .token (.word n) _ :: _ => if n == "true" || n == "false" then 1 else 0
  | .token (.punct '-' _) _ :: ts => if startsNumber ts then 2 else 0
  | _ => 0

/-- A literal comes next, a negative number included. -/
def startsLiteral (ts : List TokenTree) : Bool :=
  literalTrees ts != 0

/-! ### Parsers -/

/-- What a parser knows. -/
structure Cursor where
  /-- The trees still to be read. -/
  rest : List TokenTree
  /-- Where the enclosing group closes; for a whole text its beginning. -/
  close : Position
  /-- Where the last tree that was read ends. -/
  last : Position
  /-- Whether that tree is a group in braces, or a bound in parentheses that ends in one. -/
  afterBrace : Bool
  /-- The first tree that a group was left with. -/
  leftover : Option SyntaxError
deriving Inhabited

/-- The cursor at the beginning of a text. -/
def Cursor.ofTrees (ts : List TokenTree) : Cursor :=
  ⟨ts, .first, .first, false, none⟩

/-- Parsers: they advance the cursor or fail. -/
abbrev Parser :=
  StateT Cursor (Except SyntaxError)

namespace Parser

/-- The trees still to be read. -/
def trees : Parser (List TokenTree) := do
  return (← get).rest

/-- The place of the next tree, or of the end of the group. -/
def here : Parser Position := do
  let s ← get
  match s.rest with
  | t :: _ => return t.span.start
  | [] => return s.close

/-- Fails at the next tree. -/
def fail {α : Type} (cause : SyntaxCause) : Parser α := do
  throw ⟨← here, cause⟩

/-- Fails at the next tree, where one of several things was expected. -/
def expected {α : Type} (what : List String) : Parser α := do
  fail (.expected what (← trees).isEmpty)

/-- Reads the next tree. -/
def skip : Parser Unit :=
  modify fun s =>
    match s.rest with
    | [] => s
    | t :: ts => { s with rest := ts, last := t.span.stop, afterBrace := startsGroup .brace [t] }

/-- Reads several trees. -/
def skipMany : Nat → Parser Unit
  | 0 => pure ()
  | n + 1 => do skip; skipMany n

/-- Looks ahead: what the parser would return and where it would stop, if it succeeded. -/
def ahead? {α : Type} (p : Parser α) : Parser (Option (α × Cursor)) := fun s =>
  match p.run s with
  | .ok r => .ok (some r, s)
  | .error _ => .ok (none, s)

/-- Reads the word if it comes next. -/
def word? (w : String) : Parser Bool := do
  if startsWord w (← trees) then
    skip
    return true
  else
    return false

/-- Reads the word. -/
def word (w : String) : Parser Unit := do
  unless ← word? w do
    expected [quoted w]

/-- Reads the punctuation if it comes next. -/
def mark? (m : String) : Parser Bool := do
  if startsMark m (← trees) then
    skipMany m.length
    return true
  else
    return false

/-- Reads the punctuation. -/
def mark (m : String) : Parser Unit := do
  unless ← mark? m do
    fail (.expectedMark m)

/-- Reads a word, whatever it is. -/
def anyWord : Parser String := do
  match ← trees with
  | .token (.word n) _ :: _ =>
    skip
    return n
  | _ => expected ["ident"]

/-- Reads a name. -/
def name : Parser String := do
  match ← trees with
  | .token (.word n) _ :: _ =>
    if reservedWords.contains n then
      fail (.keywordAsName n)
    else
      skip
      return n
  | _ => expected ["identifier"]

/-- Reads a lifetime. -/
def lifetime : Parser Unit := do
  if startsLifetime (← trees) then skip else expected ["lifetime"]

/-- Reads a lifetime if one comes next. -/
def lifetime? : Parser Bool := do
  if startsLifetime (← trees) then
    skip
    return true
  else
    return false

/-- Reads a group with the parser for what is inside it, and then what follows the group.  A tree that
the group is left with counts as found after those that what follows it leaves. -/
def groupThen {α β : Type} (d : Delimiter) (p : Parser α) (next : α → Parser β) : Parser β := fun s =>
  match s.rest with
  | .group d' span close inner :: rest =>
    if d = d' then do
      let (a, t) ← p.run
        { rest := inner, close, last := span.start, afterBrace := false, leftover := s.leftover }
      let (b, u) ← (next a).run
        { s with rest, last := span.stop, afterBrace := d == .brace, leftover := t.leftover }
      let leftover :=
        match u.leftover, t.rest with
        | none, extra :: _ => some ⟨extra.span.start, .leftover d⟩
        | found, _ => found
      return (b, { u with leftover })
    else (expected [d.description]).run s
  | _ => (expected [d.description]).run s

/-- Reads a group with the parser for what is inside it. -/
def group {α : Type} (d : Delimiter) (p : Parser α) : Parser α :=
  groupThen d p pure

/-- Reads a group of any kind without looking inside, and returns its trees. -/
def anyGroup : Parser (List TokenTree) := do
  match ← trees with
  | .group _ _ _ inner :: _ =>
    skip
    return inner
  | _ => expected ["delimiter"]

/-- Reads a list until `stop` holds of the next trees, which is asked before and after every element;
the separator stands between the elements and may follow the last. -/
def listToWithin {α : Type} (stop : List TokenTree → Bool) (separator : String) (p : Parser α) :
    (fuel : Nat) → Parser (List α)
  | 0 => return []
  | fuel + 1 => do
    if stop (← trees) then
      return []
    let a ← p
    if stop (← trees) then
      return [a]
    mark separator
    return a :: (← listToWithin stop separator p fuel)

/-- Reads a list until `stop` holds of the next trees. -/
def listTo {α : Type} (stop : List TokenTree → Bool) (separator : String) (p : Parser α) :
    Parser (List α) := do
  listToWithin stop separator p ((← trees).length + 1)

/-- Reads a list separated by commas up to the end of the group. -/
def commaList {α : Type} (p : Parser α) : Parser (List α) :=
  listTo List.isEmpty "," p

/-- Reads a list that ends where no separator follows an element, or where `stop` holds before one. -/
def listOfWithin {α : Type} (stop : List TokenTree → Bool) (separator : String) (p : Parser α) :
    (fuel : Nat) → Parser (List α)
  | 0 => return []
  | fuel + 1 => do
    if stop (← trees) then
      return []
    let a ← p
    if ← mark? separator then
      return a :: (← listOfWithin stop separator p fuel)
    else
      return [a]

/-- Reads a list that ends where no separator follows an element, or where `stop` holds before one. -/
def listOf {α : Type} (stop : List TokenTree → Bool) (separator : String) (p : Parser α) :
    Parser (List α) := do
  listOfWithin stop separator p ((← trees).length + 1)

/-- Repeats the parser while `more` holds of the next trees. -/
def whileWithin {α : Type} (more : List TokenTree → Bool) (p : Parser α) :
    (fuel : Nat) → Parser (List α)
  | 0 => return []
  | fuel + 1 => do
    if more (← trees) then
      let a ← p
      return a :: (← whileWithin more p fuel)
    else
      return []

/-- Repeats the parser while `more` holds of the next trees. -/
def repeatWhile {α : Type} (more : List TokenTree → Bool) (p : Parser α) : Parser (List α) := do
  whileWithin more p ((← trees).length + 1)

/-- Repeats the parser up to the end of the group. -/
def repeatToEnd {α : Type} (p : Parser α) : Parser (List α) :=
  repeatWhile (fun ts => !ts.isEmpty) p

/-- The node that begins at a place and ends with the last tree that was read. -/
def node (start : Position) (label : Label) (children : List Node) : Parser Node := do
  return .mk label ⟨start, (← get).last⟩ children

/-- The expression that begins at a place and ends with the last tree that was read. -/
def expressionNode (start : Position) (form : ExpressionForm) (children : List Node) : Parser Node :=
  node start (.part (.expression form)) children

/-- The type that begins at a place and ends with the last tree that was read. -/
def typeNode (start : Position) (form : TypeForm) (children : List Node) : Parser Node :=
  node start (.part (.type form)) children

/-- The pattern that begins at a place and ends with the last tree that was read. -/
def patternNode (start : Position) (form : PatternForm) (children : List Node) : Parser Node :=
  node start (.part (.pattern form)) children

/-- A part that has no place of its own. -/
def partOf (part : Part) (children : List Node) : Node :=
  .mk (.part part) (.at .first) children

end Parser

end SourceLint.Syntax
