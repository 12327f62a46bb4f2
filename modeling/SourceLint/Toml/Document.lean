import SourceLint.Toml.Error
import SourceLint.Toml.Item
import SourceLint.Toml.Scalars

/-!
# Reading documents

* **`value`** — a value with lists and tables in braces, down to a depth of nesting.
* **`Draft`** — a document in the making, to which lines and headers are added one after the other.
* **`documentOf`** — the document that a text is.
-/

namespace SourceLint.Toml

open Reader SourceLint.Text

/-! ### Keys -/

/-- A name in a table. -/
def simpleKey : Reader Key := do
  let (name, stretch) ← stretched do
    match ← ahead any with
    | '"' => basicString
    | '\'' => literalString
    | _ => takeSome isBareChar
  return ⟨String.ofList name, stretch⟩

/-- How many names a key may have. -/
def greatestDepth : Nat := 80

/-- Names with dots between them. -/
def dottedKey : Reader (List Key) :=
  checked (labelled "key" (separatedSome '.' do blanks; let k ← simpleKey; blanks; return k)) fun ks =>
    if ks.length < greatestDepth then .ok ks else .error (some "recursion limit exceeded")

/-- A key whose dots lead to a table, and its last name. -/
def splitKey (ks : List Key) : List Key × Key :=
  (ks.dropLast, ks.getLast?.getD default)

/-! ### Values -/

/-- Fails for good because values are nested too deeply. -/
def tooDeep {α : Type} : Reader α := do
  throw ⟨true, ← offset, none, [], some "recursion limit exceeded"⟩

/-- A list. -/
def listOf (element : Reader Item) : Reader Item := do
  let (elements, stretch) ← stretched do
    char '['
    let elements ← commit do
      if (← remaining).head? == some ']' then
        return []
      let elements ← separated ',' do gap; let e ← element; gap; return e
      if !elements.isEmpty then
        let _ ← optional (char ',')
      gap
      return elements
    expecting ["`]`"] (labelled "array" (commit (char ']')))
    return elements
  return .array elements stretch

/-- The equals sign between a key and its value. -/
def keySeparator : Reader Unit :=
  expecting ["`.`", "`=`"] (char '=')

/-- A key and its value in braces. -/
def bracedEntry (element : Reader Item) : Reader (List Key × Item) := do
  let key ← dottedKey
  commit do
    keySeparator
    blanks
    let v ← element
    blanks
    return (key, v)

/-- The entries of a table in braces. -/
def assembleBraced : List (List Key × Item) → List (Key × Item) →
    Except AssemblyError (List (Key × Item))
  | [], done => .ok done
  | (ks, item) :: rest, done => do
    let (dots, key) := splitKey ks
    assembleBraced rest (← addEntry true none dots key item .braces done)

/-- A table in braces. -/
def bracedOf (element : Reader Item) : Reader Item := do
  let (entries, stretch) ← stretched do
    char '\x7b'
    let pairs : Reader (List (List Key × Item)) := do
      let pairs ← separated ',' (bracedEntry element)
      blanks
      return pairs
    let assembled := checked pairs fun pairs =>
      match assembleBraced pairs [] with
      | .ok entries => .ok entries
      | .error e => .error (some e.message)
    let entries ← commit assembled
    expecting ["`\x7d`"] (labelled "inline table" (commit (char '\x7d')))
    return entries
  return .table .braces entries (some stretch)

/-- A value in which lists and tables are nested at most to a depth. -/
def value : (depth : Nat) → Reader Item
  | 0 => do
    match ← ahead any with
    | '[' | '\x7b' => tooDeep
    | _ =>
      let (s, stretch) ← stretched scalar
      return .scalar s stretch
  | depth + 1 => do
    match ← ahead any with
    | '[' => listOf (value depth)
    | '\x7b' => bracedOf (value depth)
    | _ =>
      let (s, stretch) ← stretched scalar
      return .scalar s stretch

/-! ### Documents in the making -/

/-- A document in the making. -/
structure Draft where
  /-- The entries of the document without the table that is being read. -/
  root : List (Key × Item)
  /-- The entries of the table that is being read. -/
  current : List (Key × Item)
  stretch : Option Stretch
  /-- Where the table that is being read belongs; nothing for the document itself. -/
  path : List Key
  /-- The table that is being read is one of several with the same header. -/
  isElement : Bool
deriving Inhabited

namespace Draft

/-- The draft of the empty document. -/
def empty : Draft := ⟨[], [], none, [], false⟩

/-- The stretch from the beginning of the first to the end of the last of some tables. -/
def around (elements : List Item) : Option Stretch := do
  let first ← (← elements.head?).stretch?
  let last ← (← elements.getLast?).stretch?
  return ⟨first.start, last.stop⟩

/-- The entries of the document with the table that was being read. -/
def close (d : Draft) : Except AssemblyError (List (Key × Item)) :=
  if d.path.isEmpty then .ok d.current
  else
    let (parent, key) := splitKey d.path
    let finished := Item.table .header d.current d.stretch
    let store : TableChange := fun _ entries =>
      if d.isElement then
        match entryNamed? key.name entries with
        | some (.tables elements _) =>
          let elements := elements ++ [finished]
          .ok (replaceEntry key.name (.tables elements (around elements)) entries)
        | _ => .ok entries
      else .ok (entries ++ [(key, finished)])
    descend false .implied store [] parent .header d.root

/-- The error that the last name of a header is there already. -/
def duplicateHeader (parent : List Key) (key : Key) : AssemblyError :=
  .duplicateKey key.shown (some (parent.map (·.name)))

/-- The entries of the table at the end of a path. -/
def entriesAt (entries : List (Key × Item)) : List Key → List (Key × Item)
  | [] => entries
  | k :: path =>
    match entryNamed? k.name entries with
    | some (.table _ inner _) => entriesAt inner path
    | some (.tables elements _) =>
      match elements.getLast? with
      | some (.table _ inner _) => entriesAt inner path
      | _ => []
    | _ => []

/-- Begins a table with a header.  A table that was only implied so far keeps its entries. -/
def openTable (d : Draft) (path : List Key) (stretch : Stretch) : Except AssemblyError Draft := do
  let (parent, key) := splitKey path
  let root ← descend false .implied (fun _ entries => .ok entries) [] parent .header (← d.close)
  let current ←
    match entryNamed? key.name (entriesAt root parent) with
    | none => pure []
    | some (.table .implied entries _) => pure entries
    | some _ => throw (duplicateHeader parent key)
  let remove : TableChange := fun _ entries => .ok (removeEntry key.name entries)
  let root ← descend false .implied remove [] parent .header root
  return ⟨root, current, some stretch, path, false⟩

/-- Begins one of several tables with the same header. -/
def openElement (d : Draft) (path : List Key) (stretch : Stretch) : Except AssemblyError Draft := do
  let root ← d.close
  let (parent, key) := splitKey path
  let reserve : TableChange := fun _ entries =>
    match entryNamed? key.name entries with
    | none => .ok (entries ++ [(key, .tables [] none)])
    | some (.tables _ _) => .ok entries
    | some _ => .error (duplicateHeader parent key)
  let root ← descend false .implied reserve [] parent .header root
  return ⟨root, [], some stretch, path, true⟩

/-- The stretch of a table that goes on to the end of a value. -/
def extend (table value : Option Stretch) : Option Stretch :=
  match table, value with
  | some t, some v => some ⟨t.start, v.stop⟩
  | _, _ => table

/-- Adds a value to the table that is being read. -/
def add (d : Draft) (ks : List Key) (item : Item) : Except AssemblyError Draft := do
  let (dots, key) := splitKey ks
  let current ← addEntry false (some (d.path.map (·.name))) dots key item .header d.current
  return { d with current, stretch := extend d.stretch item.stretch? }

end Draft

/-! ### Lines -/

/-- The draft after a change, which is refused at the place where its text begins. -/
def changing {α : Type} (p : Reader α) (change : α → Except AssemblyError Draft) : Reader Draft :=
  checked p fun a =>
    match change a with
    | .ok d => .ok d
    | .error e => .error (some e.message)

/-- A key and its value on a line. -/
def entryLine (d : Draft) : Reader Draft :=
  let line : Reader (List Key × Item) := do
    let key ← dottedKey
    commit do
      keySeparator
      blanks
      let v ← value (greatestDepth - 1)
      expecting ["newline", "`#`"] lineRest
      return (key, v)
  changing line fun (key, v) => d.add key v

/-- The path in a header between brackets, and where the header stands. -/
def header (opening closing expected : String) : Reader (List Key × Stretch) := do
  let h ← stretched do
    text opening
    let path ← commit dottedKey
    expecting ["`.`", expected] (commit (text closing))
    return path
  expecting ["newline", "`#`"] (commit lineRest)
  return h

/-- The header of a table on a line. -/
def headerLine (d : Draft) : Reader Draft :=
  labelled "table header" do
    match ← remaining with
    | '[' :: '[' :: _ =>
      changing (header "[[" "]]" "`]]`") fun (path, stretch) => d.openElement path stretch
    | '[' :: _ :: _ =>
      changing (header "[" "]" "`]`") fun (path, stretch) => d.openTable path stretch
    | _ => fail

/-- The lines of a document, each of which takes at least one character. -/
def linesWithin (d : Draft) : (fuel : Nat) → Reader Draft
  | 0 => return d
  | fuel + 1 => do
    blanks
    match ← remaining with
    | [] => return d
    | '#' :: _ => do
      commit (do comment; lineEnd)
      linesWithin d fuel
    | '[' :: _ => do linesWithin (← commit (headerLine d)) fuel
    | '\n' :: _ => do newline; linesWithin d fuel
    | '\r' :: '\n' :: _ => do newline; linesWithin d fuel
    | '\r' :: _ => fail
    | _ => do linesWithin (← commit (entryLine d)) fuel

/-- The lines of a document. -/
def documentLines : Reader Draft := do
  let _ ← optional (char '\ufeff')
  linesWithin .empty ((← remaining).length + 1)

/-! ### Texts -/

/-- The character at an offset. -/
def characterAt (text : List Char) (offset : Nat) : Stretch :=
  match dropBytes offset text with
  | c :: _ => ⟨offset, offset + c.utf8Size⟩
  | [] => ⟨offset, offset⟩

/-- The document that a text is: its entries in the order in which they were completed. -/
def documentOf (text : List Char) : Except TomlError (List (Key × Item)) :=
  match documentLines.run ⟨0, text⟩ with
  | .ok (d, _) =>
    match d.close with
    | .ok entries => .ok entries
    | .error e => .error ⟨e.message, none, []⟩
  | .error f => .error ⟨f.message, some (characterAt text f.place), []⟩

end SourceLint.Toml
