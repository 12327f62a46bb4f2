/-!
# Positions and spans

A place in a source text, named by line and column, and a stretch between two places.

* **`Position`** — a line, counted from one, and the number of characters before the place on it.
* **`Span`** — where a piece of the text starts and where it stops.
* **`Position.advance`** — the place after some characters: a line feed opens a new line.
-/

namespace SourceLint

/-- A place in a text. -/
structure Position where
  /-- The line, counted from one. -/
  line : Nat
  /-- The number of characters between the start of the line and the place. -/
  column : Nat
deriving DecidableEq, Repr, Inhabited

/-- A stretch of a text. -/
structure Span where
  /-- Where the stretch begins. -/
  start : Position
  /-- The place after its last character. -/
  stop : Position
deriving DecidableEq, Repr, Inhabited

namespace Position

/-- The beginning of every text. -/
def first : Position := ⟨1, 0⟩

/-- The place after one character. -/
def next (p : Position) (c : Char) : Position :=
  if c = '\n' then ⟨p.line + 1, 0⟩ else ⟨p.line, p.column + 1⟩

/-- The place after a list of characters. -/
def advance (p : Position) (cs : List Char) : Position :=
  cs.foldl next p

theorem advance_append (p : Position) (as bs : List Char) :
    p.advance (as ++ bs) = (p.advance as).advance bs := by
  simp [advance]

end Position

/-- The empty stretch at a place. -/
def Span.at (p : Position) : Span := ⟨p, p⟩

end SourceLint
