import SourceLint.Text.Split

/-!
# Names of files

A file is named by a text in which slashes separate the names of directories.  Different texts may
name the same file; what counts are the components.

The name of an entry is a list of bytes, which need not encode a text.  A byte that is part of no character
is written as one of the last 128 code points, and these stand for nothing else in a name; all that is shown
to the user shows them as they are.

* **`PathName.bytes`**, **`PathName.isText`** — the bytes of a name, and whether they encode a text.
* **`Component`** — one step of a name: the root, this directory, the one above, or an entry.
* **`components`** — the steps of a name: empty steps are left out, and so are steps into the same
  directory unless the name begins with one.
* **`join`**, **`parent?`**, **`hasExtension`** — names made from names, and the ending of a name.

Names are compared by their components, one after the other, and entries by their bytes.
-/

namespace SourceLint.Files

namespace PathName

/-! ### Bytes -/

/-- The character that stands for a byte that is part of no character. -/
def standIn (byte : UInt8) : Char :=
  Char.ofNat (0x10FF00 + byte.toNat)

/-- A character stands for a byte that is part of no character. -/
def isStandIn (c : Char) : Bool :=
  0x10FF80 ≤ c.toNat

/-- The bytes that a character of a name stands for. -/
def bytesOf (c : Char) : List UInt8 :=
  if isStandIn c then [UInt8.ofNat (c.toNat - 0x10FF00)] else String.utf8EncodeChar c

/-- The bytes of a name. -/
def bytes (name : String) : List UInt8 :=
  name.toList.flatMap bytesOf

/-- The bytes of a name encode a text. -/
def isText (name : String) : Bool :=
  !name.toList.any isStandIn

end PathName

/-! ### Steps -/

/-- One step of the name of a file. -/
inductive Component where
  | root
  | here
  | up
  | entry (name : String)
deriving DecidableEq, Repr, Inhabited

namespace Component

/-- The key by which steps are ordered: entries come last. -/
def key : Component → Nat × String
  | root => (0, "")
  | here => (1, "")
  | up => (2, "")
  | entry name => (3, name)

/-- Steps in order: entries go by the bytes of their names. -/
instance : Ord Component where
  compare a b :=
    ((compare a.key.1 b.key.1).then (compare (PathName.bytes a.key.2) (PathName.bytes b.key.2))).then
      (compare a.key.2 b.key.2)

theorem key_injective {a b : Component} (h : a.key = b.key) : a = b := by
  cases a <;> cases b <;> simp_all [key]

end Component

namespace PathName

/-- The texts between the slashes of a name. -/
def pieces (name : String) : List String :=
  (Text.splitOn '/' name.toList).map String.ofList

/-- The step that a text between slashes stands for, if it is one. -/
def component? (piece : String) : Option Component :=
  if piece == "" || piece == "." then none
  else if piece == ".." then some .up
  else some (.entry piece)

/-- The steps of a name. -/
def components (name : String) : List Component :=
  let steps := (pieces name).filterMap component?
  if Text.beginsWith name "/" then .root :: steps
  else if (pieces name).head? = some "." then .here :: steps
  else steps

/-- Names in the order of their steps. -/
def order (a b : String) : Ordering :=
  compare (components a) (components b)

/-- The name of a file below a directory; a name from the root stands for itself. -/
def join (directory name : String) : String :=
  if Text.beginsWith name "/" || directory == "" then name
  else if Text.endsIn directory "/" then directory ++ name
  else directory ++ "/" ++ name

/-- The texts between the slashes without those at the end that are no steps; the first one stays. -/
def withoutIdleEnd : List String → List String
  | [] => []
  | first :: rest => first :: (rest.reverse.dropWhile fun p => (component? p).isNone).reverse

/-- The name of the directory in which a file is, if the name has a step to go back. -/
def parent? (name : String) : Option String :=
  let steps := withoutIdleEnd (pieces name)
  if steps == [""] then none
  else
    let above := withoutIdleEnd steps.dropLast
    some (if above == [""] then "/" else String.intercalate "/" above)

/-- Whether the last step of a name is an entry with the given ending, and more than this ending. -/
def hasExtension (name extension : String) : Bool :=
  match (components name).getLast? with
  | some (.entry last) => Text.endsIn last ("." ++ extension) && last != "." ++ extension
  | _ => false

end PathName

end SourceLint.Files
