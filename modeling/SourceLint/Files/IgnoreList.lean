import SourceLint.Files.Pattern
import SourceLint.Text.Blank
import SourceLint.Text.Split

/-!
# Lists of files to leave out

A list has one pattern on a line.  A pattern without a slash describes a file by its last name, another
one by its whole name below the directory of the list; one that ends with a slash describes directories
only, and one that begins with an exclamation mark describes what is not left out after all.  The last
pattern that describes a file counts.

* **`ruleOf`** — the rule on a line.
* **`IgnoreList`**, **`IgnoreList.verdict?`** — the rules of a directory, and what they say about a file.
-/

namespace SourceLint.Files

/-- A rule of a list. -/
structure IgnoreRule where
  pattern : List Part
  /-- What the pattern describes is not left out. -/
  isException : Bool
  /-- The pattern describes directories only. -/
  directoriesOnly : Bool
deriving Inhabited

/-- The line without the blanks at its end, unless the last one is escaped. -/
def trimmedLine (line : List Char) : List Char :=
  if ['\\', ' '].isSuffixOf line then line else Text.trimEnd line

/-- A line without its marks: whether it is an exception, whether its pattern begins at the directory of
the list, and the pattern. -/
def unmarked (line : List Char) : Bool × Bool × List Char :=
  match line with
  | '\\' :: '!' :: _ | '\\' :: '#' :: _ => (false, false, line.drop 1)
  | '!' :: '/' :: rest => (true, true, rest)
  | '!' :: rest => (true, false, rest)
  | '/' :: rest => (false, true, rest)
  | _ => (false, false, line)

/-- The pattern without the slash at its end and without a backslash before it, and whether there was a
slash. -/
def withoutSlash (pattern : List Char) : List Char × Bool :=
  if pattern.getLast? = some '/' then
    let rest := pattern.dropLast
    (if rest.getLast? = some '\\' then rest.dropLast else rest, true)
  else (pattern, false)

/-- The pattern for names below the directory of the list: a file is described in any directory if the
pattern says nothing about directories, and what is below a directory is not this directory. -/
def pathPattern (isAnchored : Bool) (pattern : List Char) : List Char :=
  let anywhere := ['*', '*', '/']
  let isFree := !isAnchored && !pattern.contains '/' && pattern != ['*', '*']
  let whole := if isFree then anywhere ++ pattern else pattern
  if ['/', '*', '*'].isSuffixOf whole then whole ++ ['/', '*'] else whole

/-- The rule on a line, if the line is not empty and no comment. -/
def ruleOf (isLenient : Bool) (line : List Char) : Except PatternError (Option IgnoreRule) :=
  let line := trimmedLine line
  if line.isEmpty || line.head? = some '#' then .ok none
  else
    let (isException, isAnchored, marked) := unmarked line
    let (pattern, directoriesOnly) := withoutSlash marked
    match patternOf isLenient (pathPattern isAnchored pattern) with
    | .ok parts => .ok (some ⟨parts, isException, directoriesOnly⟩)
    | .error e => .error e

/-- Whether a file is left out. -/
inductive Verdict where
  | leftOut
  | kept
deriving DecidableEq, Repr, Inhabited

/-- The name without a step into the same directory at its beginning. -/
def withoutHere (name : String) : String :=
  match name.toList with
  | '.' :: '/' :: rest => String.ofList rest
  | _ => name

/-- The rules of a directory. -/
structure IgnoreList where
  /-- The directory. -/
  directory : String
  rules : List IgnoreRule

namespace IgnoreList

/-- The list of a directory with the given lines; lines with broken patterns are left out. -/
def ofLines (directory : String) (lines : List (List Char)) : IgnoreList :=
  let text :=
    match lines with
    | first :: rest => first.dropWhile (· == '\uFEFF') :: rest
    | [] => []
  let rule? (line : List Char) : Option IgnoreRule :=
    match ruleOf true line with
    | .ok r => r
    | .error _ => none
  ⟨withoutHere directory, text.filterMap rule?⟩

/-- The name of a file as the rules see it, which is the part below the directory of the list. -/
def localName (l : IgnoreList) (name : String) : String :=
  let name := withoutHere name
  if l.directory == "." || !name.contains '/' then name
  else
    match Text.afterStart? l.directory.toList name.toList with
    | some ('/' :: rest) => String.ofList rest
    | some rest => String.ofList rest
    | none => name

/-- A rule is about a file or a directory. -/
def isAbout (name : String) (isDirectory : Bool) (r : IgnoreRule) : Bool :=
  (isDirectory || !r.directoriesOnly) && isMatch r.pattern name

/-- What the list says about a file or a directory, if it says anything. -/
def verdict? (l : IgnoreList) (name : String) (isDirectory : Bool) : Option Verdict :=
  (l.rules.reverse.find? (isAbout (l.localName name) isDirectory)).map fun r =>
    if r.isException then .kept else .leftOut

end IgnoreList

end SourceLint.Files
