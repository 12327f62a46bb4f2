import SourceLint.Files.PathName
import SourceLint.Text.Split

/-!
# Trees of files

* **`Tree`** — directories and files with their contents, and the directory where names begin.
* **`Tree.locate`** — the place that a name leads to.
* **`Tree.read`**, **`Tree.write`** — the text of a file, and the tree after a file was written.
* **`Fault`** — why a file cannot be read or written.

`content?_put_self` and `content?_put_of_ne` say that writing changes one file and no other.

A tree has no links: no file is at two places, so what is written under one name is not read under another
one that leads elsewhere.  All files and directories can be read and written as far as their contents go.
Names of entries are written as in `PathName`: they may be bytes that encode no text.
-/

namespace SourceLint.Files

/-- Where a file or a directory is: the names that lead to it from the root. -/
abbrev Place := List String

/-- What is in a file. -/
inductive Content where
  | text (characters : List Char)
  /-- Bytes that do not encode a text. -/
  | bytes (values : List UInt8)
deriving DecidableEq, Repr, Inhabited

/-- Why a file cannot be read or written. -/
inductive Fault where
  | missing
  /-- A name leads through a file. -/
  | notDirectory
  | isDirectory
  /-- The bytes of the file do not encode a text. -/
  | notText
deriving DecidableEq, Repr, Inhabited

/-- The wording of the fault. -/
def Fault.message : Fault → String
  | missing => "No such file or directory (os error 2)"
  | notDirectory => "Not a directory (os error 20)"
  | isDirectory => "Is a directory (os error 21)"
  | notText => "stream did not contain valid UTF-8"

/-- The lines before the first line whose bytes encode no text. -/
def Content.linesOfBytes (values : List UInt8) : List (List Char) :=
  let texts := (values.splitOn 10).map fun p => String.fromUTF8? ⟨p.toArray⟩
  let readable := (texts.takeWhile Option.isSome).filterMap id
  Text.lines (String.join (readable.map fun line => line ++ "\n")).toList

/-- The lines of a file, up to the first that is no text. -/
def Content.lines : Content → List (List Char)
  | text characters => Text.lines characters
  | bytes values => linesOfBytes values

/-- Directories and files. -/
structure Tree where
  /-- Directories; those on the way to another directory or to a file need not be listed. -/
  directories : List Place
  files : List (Place × Content)
  /-- Where names begin that do not begin at the root. -/
  workingDirectory : Place
deriving Inhabited

namespace Tree

/-- What is in the file at a place. -/
def content? (t : Tree) (place : Place) : Option Content :=
  t.files.lookup place

/-- Whether there is a file at a place. -/
def isFileAt (t : Tree) (place : Place) : Bool :=
  (t.content? place).isSome

/-- Whether there is a directory at a place. -/
def isDirectoryAt (t : Tree) (place : Place) : Bool :=
  !t.isFileAt place &&
    (place.isPrefixOf t.workingDirectory || t.directories.any place.isPrefixOf ||
      t.files.any fun f => place.isPrefixOf f.1)

/-- Whether there is anything at a place. -/
def existsAt (t : Tree) (place : Place) : Bool :=
  t.isFileAt place || t.isDirectoryAt place

/-! ### Names -/

/-- A step can be made from a directory only. -/
def checkDirectory (t : Tree) (place : Place) : Except Fault Unit :=
  if t.isDirectoryAt place then .ok ()
  else .error (if t.isFileAt place then .notDirectory else .missing)

/-- The place after one more piece of a name. -/
def step (t : Tree) (place : Place) (piece : String) : Except Fault Place := do
  t.checkDirectory place
  match PathName.component? piece with
  | some (.entry name) => return place ++ [name]
  | some .up => return place.dropLast
  | _ => return place

/-- The place after more pieces of a name. -/
def steps (t : Tree) (place : Place) : List String → Except Fault Place
  | [] => .ok place
  | piece :: pieces => do t.steps (← t.step place piece) pieces

/-- The place that a name leads to, whether or not there is anything. -/
def locate (t : Tree) (name : String) : Except Fault Place :=
  if name == "" then .error .missing
  else
    let start := if Text.beginsWith name "/" then [] else t.workingDirectory
    t.steps start (PathName.pieces name)

/-- What a name leads to has a property. -/
def leadsTo (t : Tree) (name : String) (p : Place → Bool) : Bool :=
  match t.locate name with
  | .ok place => p place
  | .error _ => false

/-- Whether a name is that of a file. -/
def isFile (t : Tree) (name : String) : Bool :=
  t.leadsTo name t.isFileAt

/-- Whether a name is that of a file or a directory. -/
def hasEntry (t : Tree) (name : String) : Bool :=
  t.leadsTo name t.existsAt

/-! ### Contents -/

/-- The text of a file. -/
def read (t : Tree) (name : String) : Except Fault (List Char) := do
  let place ← t.locate name
  match t.content? place with
  | some (.text characters) => return characters
  | some (.bytes _) => throw .notText
  | none => throw (if t.isDirectoryAt place then .isDirectory else .missing)

/-- The files with another content of one of them, which is added if it was not there. -/
def putFile (place : Place) (content : Content) : List (Place × Content) → List (Place × Content)
  | [] => [(place, content)]
  | (p, c) :: rest =>
    if p = place then (place, content) :: rest else (p, c) :: putFile place content rest

/-- The tree with a content for the file at a place. -/
def put (t : Tree) (place : Place) (content : Content) : Tree :=
  { t with files := putFile place content t.files }

/-- The tree after a text was written to a file. -/
def write (t : Tree) (name : String) (text : List Char) : Except Fault Tree := do
  let place ← t.locate name
  if t.isDirectoryAt place then
    throw .isDirectory
  return t.put place (.text text)

/-- The tree without the file at a place; its directory stays. -/
def remove (t : Tree) (place : Place) : Tree :=
  { t with
    directories := place.dropLast :: t.directories
    files := t.files.filter fun f => f.1 != place }

theorem lookup_putFile_self (place : Place) (content : Content) (files : List (Place × Content)) :
    (putFile place content files).lookup place = some content := by
  induction files with
  | nil => simp [putFile]
  | cons f rest ih =>
    obtain ⟨p, c⟩ := f
    by_cases h : p = place
    · simp [putFile, h]
    · simp [putFile, h, List.lookup_cons, beq_eq_false_iff_ne.2 (Ne.symm h), ih]

theorem lookup_putFile_of_ne {place other : Place} (h : other ≠ place) (content : Content)
    (files : List (Place × Content)) :
    (putFile place content files).lookup other = files.lookup other := by
  induction files with
  | nil => simp [putFile, List.lookup_cons, beq_eq_false_iff_ne.2 h]
  | cons f rest ih =>
    obtain ⟨p, c⟩ := f
    by_cases hp : p = place
    · subst hp
      simp [putFile, List.lookup_cons, beq_eq_false_iff_ne.2 h]
    · simp [putFile, hp, List.lookup_cons, ih]

/-- What was written is there. -/
@[simp] theorem content?_put_self (t : Tree) (place : Place) (content : Content) :
    (t.put place content).content? place = some content :=
  lookup_putFile_self place content t.files

/-- What was not written has not changed. -/
theorem content?_put_of_ne {place other : Place} (h : other ≠ place) (t : Tree) (content : Content) :
    (t.put place content).content? other = t.content? other :=
  lookup_putFile_of_ne h content t.files

end Tree

end SourceLint.Files
