/-!
# Locations

Where something is in a file: for a reader by line and column, both counted from one, and for an
editor by bytes.  The numbers have no bound; nothing is said of a program that keeps them in 64 bits and is
given the last of these as a line.
-/

namespace SourceLint

/-- A stretch of a file. -/
structure Location where
  /-- The name of the file. -/
  file : String
  /-- The line on which the stretch begins, counted from one. -/
  line : Nat
  /-- The column at which it begins, counted in characters from one. -/
  column : Nat
  /-- The number of bytes before it. -/
  offset : Nat
  /-- The number of its bytes. -/
  length : Nat
deriving DecidableEq, Repr, Inhabited

/-- The number of bytes before the end of the stretch. -/
def Location.stop (l : Location) : Nat :=
  l.offset + l.length

end SourceLint
