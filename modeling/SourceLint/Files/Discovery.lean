import SourceLint.Files.IgnoreList
import SourceLint.Files.Tree

/-!
# Finding files

The files below a directory are all those on the way to which nothing is left out.  Directories say in
lists what is left out below them; the lists of version control count inside a repository only, and the
patterns given by the user come before all lists.  A list that a user keeps for all repositories
(`core.excludesFile`) is not in the tree; it is taken to be empty.

* **`excludeList`** — the list that the patterns of the user make.
* **`isLeftOut`** — an entry of a directory is left out.
* **`filesBelow`** — the files below a directory, by their names.
-/

namespace SourceLint.Files

/-! ### Patterns of the user -/

/-- The list that some patterns make: what one of them describes is left out.  Fails with the first text
that is no pattern. -/
def excludeRules : List String → Except (String × PatternError) (List IgnoreRule)
  | [] => .ok []
  | text :: texts =>
    match ruleOf false ('!' :: text.toList) with
    | .error e => .error (text, e)
    | .ok rule? => do
      let rules ← excludeRules texts
      return rule?.toList.map (fun r => { r with isException := !r.isException }) ++ rules

/-- The list that some patterns of the user make for a directory. -/
def excludeList (directory : String) (patterns : List String) :
    Except (String × PatternError) IgnoreList := do
  return ⟨withoutHere directory, ← excludeRules patterns⟩

/-! ### Lists of directories -/

/-- A directory as those see it that are below it. -/
structure Level where
  /-- The directory is that of a repository. -/
  isRepository : Bool
  /-- The name of the entry in question, for the lists of the directory. -/
  name : String
  /-- The list for every search. -/
  searchList : IgnoreList
  /-- The list that is part of the repository. -/
  sharedList : IgnoreList
  /-- The list that is kept beside the repository. -/
  privateList : IgnoreList

/-- The list in a file of a directory. -/
def Tree.listIn (t : Tree) (directory : String) (file : Place) : IgnoreList :=
  .ofLines directory (((t.content? file).map Content.lines).getD [])

/-- Where the settings of a repository are: beside its files, unless a file says that they are elsewhere. -/
def Tree.repositoryPlace (t : Tree) (place : Place) : Place :=
  let standard := place ++ [".git"]
  let pointed? : Option Place := do
    let content ← t.content? standard
    let line ← content.lines.head?
    let target ← Text.afterStart? "gitdir: ".toList line
    let directory := String.ofList target
    let commonFile ← (t.locate (PathName.join directory "commondir")).toOption
    let commonLine ← (← t.content? commonFile).lines.head?
    let common := String.ofList commonLine
    let shared := if Text.beginsWith common "." then PathName.join directory common else common
    (t.locate shared).toOption
  if t.isFileAt standard then pointed?.getD standard else standard

/-- The level of the directory at a place, which has the given name. -/
def Tree.level (t : Tree) (respectsShared isRepository : Bool) (place : Place) (directory name : String) :
    Level where
  isRepository := isRepository
  name := name
  searchList := t.listIn directory (place ++ [".ignore"])
  sharedList :=
    if respectsShared then t.listIn directory (place ++ [".gitignore"]) else ⟨withoutHere directory, []⟩
  privateList := t.listIn directory (t.repositoryPlace place ++ ["info", "exclude"])

/-- The directory at a place is that of a repository. -/
def Tree.isRepository (t : Tree) (place : Place) : Bool :=
  t.existsAt (place ++ [".git"]) || t.existsAt (place ++ [".jj"])

/-- What the first list says that says anything. -/
def firstVerdict? (list : Level → IgnoreList) (isDirectory : Bool) (levels : List Level) :
    Option Verdict :=
  levels.findSome? fun l => (list l).verdict? l.name isDirectory

/-- The levels up to the innermost directory of a repository; none if there is no such directory. -/
def repositoryLevels (levels : List Level) : List Level :=
  if levels.any (·.isRepository) then
    levels.take ((levels.takeWhile fun l => !l.isRepository).length + 1)
  else []

/-- What the lists of directories say about an entry, the innermost directory first. -/
def levelsVerdict? (levels : List Level) (isDirectory : Bool) : Option Verdict :=
  let inside := repositoryLevels levels
  firstVerdict? Level.searchList isDirectory levels <|>
    firstVerdict? Level.sharedList isDirectory inside <|>
    firstVerdict? Level.privateList isDirectory inside

/-! ### Searching -/

/-- What is searched, and how. -/
structure Search where
  tree : Tree
  /-- The name of the directory in which the search begins. -/
  root : String
  /-- Where this directory is. -/
  place : Place
  /-- The patterns of the user. -/
  excluded : IgnoreList
  /-- Whether lists that are part of repositories count. -/
  respectsShared : Bool

namespace Search

/-- The name of what some steps lead to. -/
def nameOf (s : Search) (steps : List String) : String :=
  steps.foldl PathName.join s.root

/-- The name of a place from the root of the tree. -/
def absoluteName (place : Place) : String :=
  "/" ++ String.intercalate "/" place

/-- The prefixes of a list without the list itself, the longest first. -/
def properPrefixes {α : Type} : List α → List (List α)
  | [] => []
  | a :: as => (properPrefixes as).map (a :: ·) ++ [[]]

/-- The directories between the root of the search and an entry, the innermost first. -/
def innerLevels (s : Search) (steps : List String) : List Level :=
  let name := withoutHere (s.nameOf steps)
  (properPrefixes steps).map fun above =>
    let place := s.place ++ above
    s.tree.level s.respectsShared (s.tree.isRepository place) place (s.nameOf above) name

/-- The directories above the root of the search, the innermost first. -/
def outerLevels (s : Search) (steps : List String) : List Level :=
  let name := absoluteName (s.place ++ steps)
  (properPrefixes s.place).map fun place =>
    let isRepository := s.respectsShared && s.tree.isRepository place
    s.tree.level s.respectsShared isRepository place (absoluteName place) name

/-- The entry to which some steps lead is left out. -/
def isLeftOut (s : Search) (steps : List String) (isDirectory : Bool) : Bool :=
  let verdict? :=
    s.excluded.verdict? (withoutHere (s.nameOf steps)) isDirectory <|>
      levelsVerdict? (s.innerLevels steps ++ s.outerLevels steps) isDirectory
  verdict? == some .leftOut

/-- The steps from the root of the search to a place below it. -/
def stepsTo? (s : Search) (place : Place) : Option (List String) :=
  if s.place.isPrefixOf place then some (place.drop s.place.length) else none

/-- Nothing is left out on the way to a file. -/
def isReached (s : Search) (steps : List String) : Bool :=
  !s.isLeftOut steps false &&
    (properPrefixes steps).all fun above => above.isEmpty || !s.isLeftOut above true

/-- The names of the files below the root of the search that have the extension, in order. -/
def found (s : Search) (extension : String) : List String :=
  let file? (f : Place × Content) : Option String := do
    let steps ← s.stepsTo? f.1
    let name := s.nameOf steps
    if PathName.hasExtension name extension && s.isReached steps then some name else none
  (s.tree.files.filterMap file?).mergeSort fun a b => PathName.order a b != .gt

end Search

/-- The names of the files below a directory that have an extension and are not left out. -/
def filesBelow (t : Tree) (root : String) (place : Place) (excluded : IgnoreList)
    (respectsShared : Bool) (extension : String) : List String :=
  Search.found ⟨t, root, place, excluded, respectsShared⟩ extension

end SourceLint.Files
