import SourceLint.Number.Notation
import SourceLint.Text.Quoted

/-!
# JSON values

* **`Json`** — the values.
* **`Json.print`** — a value as text, with every element and every key on a line of its own.
-/

namespace SourceLint

/-- A JSON value. -/
inductive Json where
  | null
  | boolean (value : Bool)
  | integer (value : Int)
  | float (value : Binary64)
  | string (value : String)
  | array (elements : List Json)
  /-- Keys and values in the order in which they are written. -/
  | object (entries : List (String × Json))
deriving Inhabited

namespace Json

/-- A number that is not negative. -/
def natural (n : Nat) : Json :=
  .integer n

/-! ### Printing -/

/-- A character between quotation marks. -/
def escapedChar (c : Char) : List Char :=
  match c with
  | '"' => ['\\', '"']
  | '\\' => ['\\', '\\']
  | '\n' => ['\\', 'n']
  | '\r' => ['\\', 'r']
  | '\t' => ['\\', 't']
  | '\x08' => ['\\', 'b']
  | '\x0c' => ['\\', 'f']
  | c => if c.toNat < 32 then ['\\', 'u'] ++ Text.hexDigits 4 c.toNat else [c]

/-- A text between quotation marks. -/
def escaped (text : String) : String :=
  String.ofList ('"' :: text.toList.flatMap escapedChar ++ ['"'])

/-- The blanks before a line. -/
def indentation (level : Nat) : String :=
  String.ofList (List.replicate (2 * level) ' ')

/-- Lines between brackets, one level further in than the brackets. -/
def bracketed (opening closing : String) (level : Nat) : List String → String
  | [] => opening ++ closing
  | lines =>
    let inner := lines.map fun l => s!"\n{indentation (level + 1)}{l}"
    let joined := String.intercalate "," inner
    s!"{opening}{joined}\n{indentation level}{closing}"

mutual

/-- The text of a value that begins on a line with the given indentation. -/
def printAt (level : Nat) : Json → String
  | null => "null"
  | boolean value => if value then "true" else "false"
  | integer value => toString value
  | float value => value.compact
  | string value => escaped value
  | array elements => bracketed "[" "]" level (printElements (level + 1) elements)
  | object entries => bracketed "\x7b" "\x7d" level (printEntries (level + 1) entries)

/-- The texts of the elements of a list. -/
def printElements (level : Nat) : List Json → List String
  | [] => []
  | e :: es => printAt level e :: printElements level es

/-- The texts of keys and values. -/
def printEntries (level : Nat) : List (String × Json) → List String
  | [] => []
  | (k, e) :: es => s!"{escaped k}: {printAt level e}" :: printEntries level es

end

/-- A value as text. -/
def print (j : Json) : String :=
  j.printAt 0

end Json

end SourceLint
