import SourceLint.Source.LineIndex
import SourceLint.Source.Location
import SourceLint.Syntax.Program

/-!
# Source files

A source file is a text together with its syntax tree.

* **`SourceError`** — why there is none: the file cannot be read, or its text cannot be parsed.
* **`SourceFile.parse`** — the source file with a given text.
* **`SourceFile.location`** — where a stretch between two positions is in the file.
-/

namespace SourceLint

open SourceLint.Syntax

/-- Why there is no source file. -/
inductive SourceError where
  /-- The file cannot be read. -/
  | unreadable (file reason : String)
  /-- The text of the file cannot be parsed. -/
  | unparsable (file : String) (error : SyntaxError)
deriving DecidableEq, Inhabited

/-- The wording of the error; columns are counted from one. -/
def SourceError.message : SourceError → String
  | unreadable file reason => s!"Failed to read {file}: {reason}"
  | unparsable file ⟨⟨line, column⟩, cause⟩ =>
    s!"Parse error in {file} at {line}:{column + 1}: {cause.message}"

/-- A parsed text. -/
structure SourceFile where
  /-- The name of the file. -/
  path : String
  text : List Char
  tree : Node
  /-- The tree is that of the text. -/
  parsed : parseProgram text = .ok tree

namespace SourceFile

/-- The name of a text that is not in a file. -/
def snippetPath : String := "<snippet>"

/-- The source file with the given name and text. -/
def parse (path : String) (text : List Char) : Except SourceError SourceFile :=
  match h : parseProgram text with
  | .ok tree => .ok ⟨path, text, tree, h⟩
  | .error e => .error (.unparsable path e)

/-- The number of bytes before a position. -/
def offset (source : SourceFile) (p : Position) : Nat :=
  byteOffset source.text p

/-- Where the stretch is in the file. -/
def location (source : SourceFile) (s : Span) : Location :=
  let start := source.offset s.start
  let stop := max (source.offset s.stop) start
  ⟨source.path, s.start.line, s.start.column + 1, start, stop - start⟩

/-- The text is a file of items, not a list of statements. -/
def isFile (source : SourceFile) : Bool :=
  match source.tree.label with
  | .part .file => true
  | _ => false

/-- The items of the file, or the statements. -/
def members (source : SourceFile) : List Node :=
  source.tree.children.filter fun n => n.attribute?.isNone

end SourceFile

end SourceLint
