import SourceLint.Text.Utf8

/-!
# Substitutions

A substitution replaces a stretch of a text, given by byte offsets, with another text.

* **`Substitution.validate`** — the stretch lies in the text and does not cut a character.
* **`Substitution.overlaps`** — two substitutions get in each other's way: they share a byte or they
  begin at the same offset.
* **`acceptNonOverlapping`** — of a list of substitutions those that no earlier accepted one overlaps.
* **`inTextOrder`**, **`applySubstitutions`** — substitutions in the order of the text, and the text after
  all of them.
-/

namespace SourceLint

open SourceLint.Text

/-- The replacement of the bytes from `start` to `stop`. -/
structure Substitution where
  start : Nat
  stop : Nat
  replacement : String
deriving DecidableEq, Repr, Inhabited

/-- Why substitutions cannot be applied. -/
inductive SubstitutionError where
  /-- The stretch is reversed or reaches past the end of the text, which has `length` bytes. -/
  | outOfBounds (start stop length : Nat)
  /-- An end of the stretch lies within a character. -/
  | notCharBoundary (start stop : Nat)
  /-- Two substitutions that begin at these offsets overlap. -/
  | overlap (first second : Nat)
deriving DecidableEq, Repr, Inhabited

/-- The wording of the error. -/
def SubstitutionError.message : SubstitutionError → String
  | outOfBounds start stop length =>
    s!"Substitution range {start}..{stop} is invalid for text of {length} bytes"
  | notCharBoundary start stop =>
    s!"Substitution range {start}..{stop} is not on character boundaries"
  | overlap first second => s!"Substitutions at {first} and {second} overlap"

namespace Substitution

/-- The substitution that puts a text between two bytes. -/
def insertion (offset : Nat) (text : String) : Substitution :=
  ⟨offset, offset, text⟩

/-- The substitution that takes a stretch away. -/
def deletion (start stop : Nat) : Substitution :=
  ⟨start, stop, ""⟩

/-- Whether two substitutions begin together or share a byte. -/
def overlaps (a b : Substitution) : Bool :=
  a.start == b.start || (a.start < b.stop && b.start < a.stop)

/-- Checks that the stretch lies in the text and does not cut a character. -/
def validate (s : Substitution) (text : List Char) : Except SubstitutionError Unit :=
  if s.start > s.stop || s.stop > byteLength text then
    .error (.outOfBounds s.start s.stop (byteLength text))
  else if !(isBoundary text s.start && isBoundary text s.stop) then
    .error (.notCharBoundary s.start s.stop)
  else .ok ()

/-- The stretch lies in the text and does not cut a character. -/
def isValid (s : Substitution) (text : List Char) : Bool :=
  (s.validate text).toBool

/-- Whether a substitution begins before another, or together with it and ends no later. -/
def notAfter (a b : Substitution) : Bool :=
  a.start < b.start || (a.start == b.start && a.stop ≤ b.stop)

end Substitution

/-! ### Choosing -/

/-- The substitutions that are accepted and the labels of those that are not, given those that were
accepted before. -/
def acceptAfter {α : Type} (accepted : List Substitution) :
    List (α × Substitution) → List (α × Substitution) × List α
  | [] => ([], [])
  | (label, s) :: rest =>
    if accepted.any fun a => a.overlaps s then
      let (kept, dropped) := acceptAfter accepted rest
      (kept, label :: dropped)
    else
      let (kept, dropped) := acceptAfter (accepted ++ [s]) rest
      ((label, s) :: kept, dropped)

/-- The labelled substitutions that no earlier accepted one overlaps, and the labels of the others. -/
def acceptNonOverlapping {α : Type} (candidates : List (α × Substitution)) :
    List (α × Substitution) × List α :=
  acceptAfter [] candidates

/-! ### Applying -/

/-- Checks each substitution. -/
def validateAll (text : List Char) : List Substitution → Except SubstitutionError Unit
  | [] => .ok ()
  | s :: rest => do s.validate text; validateAll text rest

/-- Checks that no substitution overlaps the next. -/
def checkNeighbours : List Substitution → Except SubstitutionError Unit
  | a :: b :: rest =>
    if a.overlaps b then .error (.overlap a.start b.start) else checkNeighbours (b :: rest)
  | _ => .ok ()

/-- The text from the offset `done` on, with the substitutions applied to it in one pass. -/
def splice (text : List Char) (done : Nat) : List Substitution → List Char
  | [] => dropBytes done text
  | s :: rest =>
    slice done s.start text ++ s.replacement.toList ++ splice text s.stop rest

/-- The substitutions in the order of the text. -/
def inTextOrder (subs : List Substitution) : List Substitution :=
  subs.mergeSort Substitution.notAfter

/-- The text after all the substitutions, which are given in any order. -/
def applySubstitutions (text : List Char) (subs : List Substitution) :
    Except SubstitutionError (List Char) := do
  let ordered := inTextOrder subs
  validateAll text ordered
  checkNeighbours ordered
  return splice text 0 ordered

end SourceLint
