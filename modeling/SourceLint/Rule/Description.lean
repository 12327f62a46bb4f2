import SourceLint.Text.Split
import SourceLint.Text.Utf8

/-!
# Descriptions of rules

* **`Example`** — a piece of code in which marks may say where violations are expected.
* **`Example.text`**, **`Example.markers`** — the code without its marks, and where they stood.
* **`RuleDescription`** — what is known of a rule before it is run.
* **`isValidIdentifier`**, **`duplicates`** — the form of identifiers, and those that occur twice.
-/

namespace SourceLint

open SourceLint.Text

/-! ### Examples -/

/-- A piece of code with marks. -/
structure Example where
  code : String
deriving DecidableEq, Repr, Inhabited

namespace Example

/-- The code with the given lines. -/
def ofLines (lines : List String) : Example :=
  ⟨Text.ofLines lines⟩

/-- The character that marks where a violation is expected. -/
def marker : Char := '↓'

/-- The code without its marks. -/
def text (e : Example) : List Char :=
  e.code.toList.filter (· != marker)

/-- The offsets of the marks in a text that begins at the given offset. -/
def markOffsetsFrom (offset : Nat) : List Char → List Nat
  | [] => []
  | c :: cs =>
    let later := markOffsetsFrom (offset + c.utf8Size) cs
    if c = marker then offset :: later else later

/-- The offsets of the marks in the code. -/
def markOffsets (e : Example) : List Nat :=
  markOffsetsFrom 0 e.code.toList

/-- The offsets of the marks in the text without them: what the marks before one take up does not count. -/
def markers (e : Example) : List Nat :=
  e.markOffsets.zipIdx.map fun (offset, seen) => offset - seen * marker.utf8Size

end Example

/-! ### Descriptions -/

/-- What a rule is about. -/
inductive Category where
  /-- Likely errors. -/
  | lint
  /-- Code that works but is written in an unusual way. -/
  | idiomatic
  /-- Layout and names. -/
  | style
  | performance
  /-- Size and complexity. -/
  | metrics
deriving DecidableEq, Repr, Inhabited

/-- All categories. -/
def Category.all : List Category :=
  [lint, idiomatic, style, performance, metrics]

/-- The name of a category. -/
def Category.name : Category → String
  | lint => "lint"
  | idiomatic => "idiomatic"
  | style => "style"
  | performance => "performance"
  | metrics => "metrics"

/-- What becomes of settings that a rule does not know. -/
inductive UnknownKeys where
  | reject
  | ignore
deriving DecidableEq, Repr, Inhabited

/-- What is known of a rule before it is run. -/
structure RuleDescription where
  /-- The name under which the rule is configured. -/
  identifier : String
  name : String
  explanation : String
  category : Category
  unknownKeys : UnknownKeys
  /-- Code that the rule accepts. -/
  nonTriggering : List Example
  /-- Code that the rule reports at the marks. -/
  triggering : List Example
  /-- Code that the rule reports, and the same code corrected. -/
  corrections : List (Example × Example)
deriving DecidableEq, Repr, Inhabited

/-! ### Identifiers -/

/-- The characters of identifiers. -/
def isIdentifierChar (c : Char) : Bool :=
  c.isLower || c.isDigit || c == '-' || c == '_'

/-- The text consists of small letters, digits and dashes, and does not begin with a dash. -/
def isValidIdentifier (text : String) : Bool :=
  match text.toList with
  | [] => false
  | c :: cs => (c :: cs).all isIdentifierChar && c != '-' && c != '_'

/-- The texts that occur more than once, each time but the first. -/
def laterCopies (seen : List String) : List String → List String
  | [] => []
  | t :: ts => if seen.contains t then t :: laterCopies seen ts else laterCopies (t :: seen) ts

/-- The texts in ascending order, each once. -/
def sortedSet (texts : List String) : List String :=
  (texts.mergeSort fun a b => a ≤ b).eraseDups

/-- The texts that occur more than once, in ascending order. -/
def duplicates (texts : List String) : List String :=
  sortedSet (laterCopies [] texts)

end SourceLint
