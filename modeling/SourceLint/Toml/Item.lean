import SourceLint.Toml.Key
import SourceLint.Toml.Value

/-!
# Documents

A document is a table whose parts know where they stand in the text, so that errors can point at them.

* **`TableForm`** — how a table came about, which decides what may be added to it.
* **`Item`** — the parts of a document.
* **`Item.descend`** — a table changed at the end of a path of keys.
-/

namespace SourceLint.Toml

/-- How a table came about. -/
inductive TableForm where
  /-- By braces. -/
  | braces
  /-- By a header, or as the document itself. -/
  | header
  /-- By the header of a table inside it. -/
  | implied
  /-- By a key with dots. -/
  | dotted
deriving DecidableEq, Repr, Inhabited

/-- A part of a document. -/
inductive Item where
  | scalar (value : Scalar) (stretch : Stretch)
  | array (elements : List Item) (stretch : Stretch)
  /-- A table with its entries in the order in which they were completed. -/
  | table (form : TableForm) (entries : List (Key × Item)) (stretch : Option Stretch)
  /-- Tables with headers of their own. -/
  | tables (elements : List Item) (stretch : Option Stretch)
deriving Inhabited

mutual

/-- Equality of parts, which is decided along with that of the parts inside them. -/
def Item.decEq : (i j : Item) → Decidable (i = j)
  | .scalar a s, .scalar b r => decidable_of_iff (a = b ∧ s = r) (by simp)
  | .array is s, .array js r =>
    have := Item.decEqElements is js
    decidable_of_iff (is = js ∧ s = r) (by simp)
  | .table form is s, .table other js r =>
    have := Item.decEqEntries is js
    decidable_of_iff (form = other ∧ is = js ∧ s = r) (by simp)
  | .tables is s, .tables js r =>
    have := Item.decEqElements is js
    decidable_of_iff (is = js ∧ s = r) (by simp)
  | .scalar .., .array .. | .scalar .., .table .. | .scalar .., .tables .. | .array .., .scalar ..
  | .array .., .table .. | .array .., .tables .. | .table .., .scalar .. | .table .., .array ..
  | .table .., .tables .. | .tables .., .scalar .. | .tables .., .array .. | .tables .., .table .. =>
    isFalse nofun

/-- Equality of lists of parts. -/
def Item.decEqElements : (is js : List Item) → Decidable (is = js)
  | [], [] => isTrue rfl
  | [], _ :: _ | _ :: _, [] => isFalse nofun
  | i :: is, j :: js =>
    have := Item.decEq i j
    have := Item.decEqElements is js
    decidable_of_iff (i = j ∧ is = js) (by simp)

/-- Equality of keys and parts. -/
def Item.decEqEntries : (is js : List (Key × Item)) → Decidable (is = js)
  | [], [] => isTrue rfl
  | [], _ :: _ | _ :: _, [] => isFalse nofun
  | (k, i) :: is, (l, j) :: js =>
    have := Item.decEq i j
    have := Item.decEqEntries is js
    decidable_of_iff ((k = l ∧ i = j) ∧ is = js) (by simp)

end

instance : DecidableEq Item :=
  Item.decEq

namespace Item

/-- Where the part stands, if that is a single place. -/
def stretch? : Item → Option Stretch
  | scalar _ s => some s
  | array _ s => some s
  | table _ _ s => s
  | tables _ s => s

/-- The name of the type of a part. -/
def typeName : Item → String
  | scalar s _ => (Value.scalar s).typeName
  | array _ _ => "array"
  | table .braces _ _ => "inline table"
  | table _ _ _ => "table"
  | tables _ _ => "array of tables"

/-- The entries of a table. -/
def entries : Item → List (Key × Item)
  | table _ es _ => es
  | _ => []

end Item

/-! ### Errors of assembly -/

/-- Why a table or a value cannot be added to a document. -/
inductive AssemblyError where
  /-- The name is there already; the path of its table is given where it is known. -/
  | duplicateKey (key : String) (path : Option (List String))
  /-- A key with dots leads into something that is no table. -/
  | notExtensible (path : List String) (typeName : String)
deriving DecidableEq, Repr

/-- The wording of the error. -/
def AssemblyError.message : AssemblyError → String
  | duplicateKey key none => s!"duplicate key `{key}`"
  | duplicateKey key (some []) => s!"duplicate key `{key}` in document root"
  | duplicateKey key (some path) =>
    let joined := String.intercalate "." path
    s!"duplicate key `{key}` in table `{joined}`"
  | notExtensible path typeName =>
    let joined := String.intercalate "." path
    s!"dotted key `{joined}` attempted to extend non-table type ({typeName})"

/-! ### Changing entries -/

/-- The part with the given name. -/
def entryNamed? (name : String) (entries : List (Key × Item)) : Option Item :=
  (entries.find? fun e => e.1.name == name).map (·.2)

/-- The entries with another part at a name that is there. -/
def replaceEntry (name : String) (item : Item) (entries : List (Key × Item)) : List (Key × Item) :=
  entries.map fun e => if e.1.name == name then (e.1, item) else e

/-- The entries without a name. -/
def removeEntry (name : String) (entries : List (Key × Item)) : List (Key × Item) :=
  entries.filter fun e => e.1.name != name

/-- What changes a table: its form and its entries are given, and its new entries are the result. -/
abbrev TableChange := TableForm → List (Key × Item) → Except AssemblyError (List (Key × Item))

/-- Changes the last of some elements. -/
def changeLast (change : Item → Except AssemblyError Item) (elements : List Item) :
    Except AssemblyError (List Item) :=
  match elements.reverse with
  | [] => .ok []
  | last :: before => do return (before.reverse ++ [← change last])

/-- Changes the table at the end of a path of keys, from a table of the given form with the given
entries.  Tables that are missing on the way get the form `form`.  A path of a dotted key must not lead
into tables with headers or braces of their own; `braced` says that all this is inside of braces, and
`walked` is the part of the path behind it. -/
def descend (braced : Bool) (form : TableForm) (change : TableChange) :
    (walked : List String) → List Key → TableChange
  | _, [], here, entries => change here entries
  | walked, key :: path, _, entries =>
    let walked := walked ++ [key.name]
    let inside := descend braced form change walked path
    match entryNamed? key.name entries with
    | none => do
      let inner ← inside form []
      return entries ++ [(key, .table form inner none)]
    | some (.table found inner stretch) =>
      if found = .braces && !braced then
        .error (.notExtensible walked "inline table")
      else if form = .dotted && (found = .header || found = .braces) then
        .error (.duplicateKey key.name none)
      else do
        let inner ← inside found inner
        return replaceEntry key.name (.table found inner stretch) entries
    | some (.tables elements stretch) => do
      let changeTable : Item → Except AssemblyError Item
        | .table found inner s => do return .table found (← inside found inner) s
        | other => .ok other
      let elements ← changeLast changeTable elements
      return replaceEntry key.name (.tables elements stretch) entries
    | some other => .error (.notExtensible walked other.typeName)

/-- Adds a part under a key whose dots lead to a table; `path` is where the table is to which the first
of its names belongs, if an error should tell it. -/
def addEntry (braced : Bool) (path : Option (List String)) (dots : List Key) (key : Key) (item : Item) :
    TableChange :=
  descend braced .dotted
    (fun here entries =>
      if (here == .dotted) == dots.isEmpty then .error (.duplicateKey key.name none)
      else if (entryNamed? key.name entries).isSome then .error (.duplicateKey key.name path)
      else .ok (entries ++ [(key, item)]))
    [] dots

end SourceLint.Toml
