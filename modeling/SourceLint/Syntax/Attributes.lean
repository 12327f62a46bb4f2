import SourceLint.Syntax.Grammar.Knot

/-!
# What attributes say

* **`marksTest`** — attributes mark a test.
* **`derivedNames`** — the last names of the traits that attributes derive; a list of traits that is
  malformed derives nothing.
-/

namespace SourceLint.Syntax

/-- One of the attributes marks a test. -/
def marksTest (attributes : List Attribute) : Bool :=
  attributes.any fun a => a.path.isName "test"

/-- The paths in a list that commas separate, if the trees are one. -/
def pathList? (ts : List TokenTree) : Option (List Path) :=
  let paths (g : Grammar) : Parser (List Path) :=
    Parser.commaList (do return (← Production.path g false).1)
  (Production.run paths ts).toOption

/-- The last names of what one attribute derives. -/
def Attribute.derives (a : Attribute) : List String :=
  if a.path.isName "derive" then
    match a.arguments.bind pathList? with
    | some paths => paths.filterMap Path.lastName?
    | none => []
  else []

/-- The last names of what attributes derive. -/
def derivedNames (attributes : List Attribute) : List String :=
  attributes.flatMap Attribute.derives

end SourceLint.Syntax
