import SourceLint.Text.Blank

/-!
# Splitting texts

* **`splitOn`** — the pieces of a text between the occurrences of a character, one more than there are
  occurrences.
* **`lines`** — the lines of a text without their ends, where a line ends with a line feed or with a
  carriage return and a line feed; a text that ends with a line feed has no line after it.
* **`ofLines`** — the text of some lines, all of them ended.
* **`afterStart?`** — the rest of a text that begins in a given way.
* **`breakAt?`** — the parts of a text before and after the first occurrence of a character.
* **`beginsWith`**, **`endsIn`** — how a text begins and ends.
-/

namespace SourceLint.Text

/-- The pieces between the occurrences of a character. -/
def splitOn (mark : Char) : List Char → List (List Char)
  | [] => [[]]
  | c :: cs =>
    match splitOn mark cs with
    | [] => [[c]]
    | piece :: pieces => if c = mark then [] :: piece :: pieces else (c :: piece) :: pieces

/-- The line without the carriage return at its end. -/
def dropReturn (line : List Char) : List Char :=
  if line.getLast? = some '\r' then line.dropLast else line

/-- The lines among the pieces between line feeds: the last piece is one unless it is empty. -/
def linesOfPieces : List (List Char) → List (List Char)
  | [] => []
  | [last] => if last.isEmpty then [] else [last]
  | piece :: pieces => dropReturn piece :: linesOfPieces pieces

/-- The lines of a text. -/
def lines (cs : List Char) : List (List Char) :=
  linesOfPieces (splitOn '\n' cs)

/-- The text of some lines; each one is ended. -/
def ofLines (ls : List String) : String :=
  String.join (ls.map fun line => line ++ "\n")

/-- The rest of a text after the given beginning, if it has this beginning. -/
def afterStart? : (start cs : List Char) → Option (List Char)
  | [], cs => some cs
  | _ :: _, [] => none
  | s :: start, c :: cs => if s = c then afterStart? start cs else none

/-- What stands before and after the first occurrence of a character. -/
def breakAt? (mark : Char) : List Char → Option (List Char × List Char)
  | [] => none
  | c :: cs =>
    if c = mark then some ([], cs)
    else (breakAt? mark cs).map fun parts => (c :: parts.1, parts.2)

/-- Whether a text begins with another one. -/
def beginsWith (text start : String) : Bool :=
  start.toList.isPrefixOf text.toList

/-- Whether a text ends with another one. -/
def endsIn (text finish : String) : Bool :=
  finish.toList.isSuffixOf text.toList

theorem splitOn_ne_nil (mark : Char) (cs : List Char) : splitOn mark cs ≠ [] := by
  cases cs with
  | nil => simp [splitOn]
  | cons c cs =>
    simp only [splitOn]
    split
    · simp
    · split <;> simp

@[simp] theorem afterStart?_append (start cs : List Char) :
    afterStart? start (start ++ cs) = some cs := by
  induction start with
  | nil => rfl
  | cons s start ih => simp [afterStart?, ih]

end SourceLint.Text
