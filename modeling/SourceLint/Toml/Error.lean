import SourceLint.Toml.Reader

/-!
# Errors and their places

* **`TomlError`** — what is wrong with a text or with a value in it, and where.
* **`TomlError.render`** — its wording, which shows the line and marks the part of it.
-/

namespace SourceLint.Toml

open SourceLint.Text

/-- What is wrong with a text, and where. -/
structure TomlError where
  message : String
  /-- The part of the text that is wrong. -/
  stretch : Option Stretch
  /-- The keys that lead to it, for errors without a place. -/
  keys : List String
deriving DecidableEq, Repr, Inhabited

/-- The line of an offset, the characters on it before the offset, and the line itself.  The end of the
text counts as the place after its last character. -/
def lineAndColumn (text : List Char) (offset : Nat) : Nat × Nat × List Char :=
  let size := byteLength text
  let safe := min offset (size - 1)
  let before := takeBytes safe text
  let line := before.count '\n'
  let onLine := (before.reverse.takeWhile (· != '\n')).reverse
  let isWhole := match dropBytes safe text with
    | c :: _ => c.toNat < 0x80 || offset ≥ size
    | [] => true
  let column := (if isWhole then onLine.length else byteLength onLine) + (offset - safe)
  (line, column, ((splitLines text).drop line).head?.getD [])
where
  /-- The pieces between line feeds. -/
  splitLines (text : List Char) : List (List Char) :=
    Text.splitOn '\n' text

/-- Copies of a character. -/
def copies (n : Nat) (c : Char) : String :=
  String.ofList (List.replicate n c)

/-- The wording of an error in a text: the line, the part that is wrong, and what is wrong with it.  The
marks under the part do not go on behind its line. -/
def TomlError.render (e : TomlError) (text : List Char) : String :=
  match e.stretch with
  | some s =>
    let (line, column, content) := lineAndColumn text s.start
    let number := toString (line + 1)
    let gutter := copies (number.length + 1) ' '
    let marks := max 1 (min (s.stop - s.start) (byteLength content - column))
    let pad := copies (column + 1) ' '
    let shown := String.ofList content
    let arrows := copies marks '^'
    s!"TOML parse error at line {number}, column {column + 1}\n{gutter}|\n{number} | {shown}\n" ++
      s!"{gutter}|{pad}{arrows}\n{e.message}\n"
  | none =>
    let path := String.intercalate "." e.keys
    if e.keys.isEmpty then s!"{e.message}\n" else s!"{e.message}\nin `{path}`\n"

end SourceLint.Toml
