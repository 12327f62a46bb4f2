import SourceLint.Source.Position
import SourceLint.Text.ByteOrderMark

/-!
# From positions to byte offsets

The lines of a text begin after its byte order mark, if it has one, and after every line feed.  A
position that no character has is moved to the nearest that one has: past the end of a line to its
end, past the last line to the end of the text, and before the first line to its beginning.

* **`fromLine?`** — the text from the beginning of a line, if there are that many lines.
* **`byteOffset`** — the number of bytes before a position.
-/

namespace SourceLint

open SourceLint.Text

/-- The text after the given number of line feeds. -/
def fromLine? : Nat → List Char → Option (List Char)
  | 0, cs => some cs
  | _ + 1, [] => none
  | n + 1, c :: cs => if c = '\n' then fromLine? n cs else fromLine? (n + 1) cs

/-- The characters of a line up to a column. -/
def linePart (column : Nat) (cs : List Char) : List Char :=
  (cs.takeWhile (· != '\n')).take column

/-- The number of bytes of the text before the position. -/
def byteOffset (text : List Char) : Position → Nat
  | ⟨0, _⟩ => markLength text
  | ⟨line + 1, column⟩ =>
    match fromLine? line (dropMark text) with
    | none => byteLength text
    | some rest => byteLength text - byteLength rest + byteLength (linePart column rest)

end SourceLint
