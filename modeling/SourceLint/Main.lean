import SourceLint.Command.Program

/-!
# The command line program

Loads the files that a run can look at, runs the program on them, writes the files that it changed and
tells the user what it says.

A link to a file is loaded as a file of its own and a link to a directory is passed over, as a tree has no
links; if two names lead to one file, what is written under one of them is not seen under the other.  The
operating system is asked for names as texts, so a name that is none does not come up here.
-/

namespace SourceLint.CommandLine

open SourceLint.Files

/-- The names of files whose contents count besides those of source files. -/
def specialNames : List String :=
  ConfigFile.standardNames ++ [".ignore", ".gitignore", ".git", "exclude", "commondir"]

/-- Whether the content of a file counts. -/
def isReadable (name : String) : Bool :=
  PathName.hasExtension name "rs" || specialNames.contains name

/-- The content of a file. -/
def loadContent (name : String) : IO Content := do
  let bytes ← IO.FS.readBinFile name
  match String.fromUTF8? bytes with
  | some text => return .text text.toList
  | none => return .bytes bytes.toList

/-- The tree with the file at a place, if there is one that can be read. -/
def loadFile (t : Tree) (place : Place) : IO Tree := do
  try
    let content ← loadContent (Search.absoluteName place)
    return t.put place content
  catch _ =>
    return t

/-- The tree with everything below a place. -/
partial def loadBelow (t : Tree) (place : Place) : IO Tree := do
  let here ← IO.currentDir
  let mut t := { t with directories := place :: t.directories }
  for entry in ← (here / Search.absoluteName place).readDir do
    let below := place ++ [entry.fileName]
    match (← entry.path.symlinkMetadata).type with
    | .dir => t ← loadBelow t below
    | _ =>
      if !(← entry.path.isDir) then
        let content ←
          if isReadable entry.fileName then loadContent (Search.absoluteName below)
          else pure (.text [])
        t := { t with files := (below, content) :: t.files }
  return t

/-- The tree with what counts of the directories above a place. -/
def loadAbove (t : Tree) (place : Place) : IO Tree := do
  let here ← IO.currentDir
  let mut t := t
  for above in Search.properPrefixes place do
    for name in specialNames do
      t ← loadFile t (above ++ [name])
    t ← loadFile t (above ++ [".git", "info", "exclude"])
    for name in [".git", ".jj"] do
      let below := above ++ [name]
      if ← (here / Search.absoluteName below).isDir then
        t := { t with directories := below :: t.directories }
  return t

/-- The place after one more step. -/
def stepFrom (place : Place) : Component → Place
  | .root => []
  | .here => place
  | .up => place.dropLast
  | .entry name => place ++ [name]

/-- The place that a name leads to, going by its steps alone. -/
def placeOf (start : Place) (name : String) : Place :=
  (PathName.components name).foldl stepFrom start

/-- The tree with what a check of a place can look at. -/
def loadTarget (t : Tree) (place : Place) : IO Tree := do
  let here ← IO.currentDir
  let t ← loadAbove t place
  if ← (here / Search.absoluteName place).isDir then
    loadBelow t place
  else
    loadFile t place

/-- The tree with what a command can look at. -/
def loadFor (t : Tree) (invocation : Invocation) : IO Tree := do
  let start := t.workingDirectory
  let t ←
    match invocation.command with
    | .check options _ => loadTarget t (placeOf start options.path)
    | .listRules _ => pure t
    | .newConfig _ => loadFile t (start ++ [newConfigName])
  match invocation.config with
  | some name => loadFile t (placeOf start name)
  | none => return t

/-- Writes the files that a run changed. -/
def saveChanges (before after : Tree) : IO Unit := do
  let added := after.files.drop before.files.length
  let changed := (after.files.zip before.files).filter fun p => p.1 != p.2
  for (place, content) in changed.map (·.1) ++ added do
    match content with
    | .text characters => IO.FS.writeFile (Search.absoluteName place) (String.ofList characters)
    | .bytes _ => pure ()

end SourceLint.CommandLine

section

open SourceLint SourceLint.Files SourceLint.CommandLine

/-- Runs the program. -/
def main (arguments : List String) : IO UInt32 := do
  let start := placeOf [] (toString (← IO.currentDir))
  let empty : Tree := ⟨[start], [], start⟩
  let before ←
    match Request.ofArguments arguments with
    | .run invocation => loadFor empty invocation
    | _ => pure empty
  let outcome := runProgram before arguments
  saveChanges before outcome.tree
  for warning in outcome.warnings do
    IO.eprintln s!"warning: {warning}"
  IO.print outcome.output
  if let some failure := outcome.failure then
    IO.eprintln failure
  return UInt32.ofNat outcome.exitCode

end
