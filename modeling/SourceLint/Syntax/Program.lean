import SourceLint.Text.ByteOrderMark
import SourceLint.Syntax.Grammar.Knot
import SourceLint.Syntax.Token.Lexer

/-!
# Programs

A text is read as a file of items if it is one, and as a list of statements otherwise.

* **`parseFile`** — a file: attributes and items, after a line for the shell if there is one.
* **`parseStatements`** — a list of statements.
* **`parseProgram`** — the one or the other; the error is that of reading a file.

Both drop a byte order mark at the beginning of the text.  A second mark is dropped as well, but it
takes up a column of the first line.
-/

namespace SourceLint.Syntax

open SourceLint.Text

/-! ### Trees of a text -/

/-- The trees of a text in which a byte order mark takes up a column. -/
def markedTrees (cs : List Char) : Except SyntaxError (List TokenTree) :=
  match tokenTrees (if hasMark cs then Position.first.next byteOrderMark else .first) (dropMark cs) with
  | .ok ts => .ok ts
  | .error place => .error ⟨place, .notTokens⟩

/-- The text after blanks and ordinary comments. -/
def afterBlanks : (fuel : Nat) → List Char → List Char
  | 0, cs => cs
  | fuel + 1, cs =>
    match piece cs with
    | some (.blank, n) => afterBlanks fuel (cs.drop n)
    | _ => cs

/-- The text without a first line that is addressed to the shell: it begins with a hash mark and an
exclamation mark, but not as an attribute does.  The end of the line is kept. -/
def dropShellLine (cs : List Char) : List Char :=
  match cs with
  | '#' :: '!' :: rest =>
    match afterBlanks rest.length rest with
    | '[' :: _ => cs
    | _ => cs.dropWhile (· != '\n')
  | _ => cs

/-! ### Files and lists of statements -/

/-- The attributes and the items of a file. -/
def Production.file (g : Grammar) : Parser (List Node) := do
  let attributes ← Production.innerAttributes g
  return attributes ++ (← Parser.repeatToEnd g.item)

/-- A node of no kind around all nodes of a text. -/
def wholeText (part : Part) (nodes : List Node) : Node :=
  let start := match nodes with
    | first :: _ => first.span.start
    | [] => .first
  let stop := match nodes.getLast? with
    | some last => last.span.stop
    | none => .first
  .mk (.part part) ⟨start, stop⟩ nodes

/-- The file that the text is. -/
def parseFile (cs : List Char) : Except SyntaxError Node := do
  let ts ← markedTrees (dropShellLine (dropMark cs))
  return wholeText .file (← Production.run Production.file ts)

/-- The statements that the text is. -/
def parseStatements (cs : List Char) : Except SyntaxError Node := do
  let ts ← markedTrees (dropMark cs)
  return wholeText .statements (← Production.run Grammar.statements ts)

/-- The tree of the text. -/
def parseProgram (cs : List Char) : Except SyntaxError Node :=
  match parseFile cs with
  | .ok tree => .ok tree
  | .error e =>
    match parseStatements cs with
    | .ok tree => .ok tree
    | .error _ => .error e

/-- A byte order mark does not change the tree of a text that has none. -/
theorem parseProgram_mark {cs : List Char} (h : hasMark cs = false) :
    parseProgram (byteOrderMark :: cs) = parseProgram cs := by
  simp [parseProgram, parseFile, parseStatements, dropMark_mark, dropMark_of_not_hasMark h]

end SourceLint.Syntax
