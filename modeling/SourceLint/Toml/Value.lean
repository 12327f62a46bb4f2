import SourceLint.Data.Mismatch
import SourceLint.Report.Severity

/-!
# Settings as data

* **`Scalar`**, **`Value`**, **`Table`** — texts, numbers, truth values and dates; lists and tables of
  them.  A table lists its keys in ascending order, each once.
* **`Table.insert`**, **`Table.get?`** — tables changed and asked.
* **`Value.asString`** and its like — the values of this library that a value can be decoded into, or why
  it cannot.  A date counts as its text.
-/

namespace SourceLint.Toml

open SourceLint.Data

/-- A value without parts. -/
inductive Scalar where
  | string (value : String)
  | integer (value : Int)
  | float (value : Binary64)
  | boolean (value : Bool)
  /-- A date, a time or both, as a text. -/
  | datetime (text : String)
deriving DecidableEq, Repr, Inhabited

/-- A value. -/
inductive Value where
  | scalar (value : Scalar)
  | array (elements : List Value)
  /-- Keys and values in ascending order of the keys. -/
  | table (entries : List (String × Value))
deriving Inhabited

mutual

/-- Equality of values, which is decided along with that of their parts. -/
def Value.decEq : (v w : Value) → Decidable (v = w)
  | .scalar a, .scalar b => decidable_of_iff (a = b) (by simp)
  | .array vs, .array ws =>
    have := Value.decEqElements vs ws
    decidable_of_iff (vs = ws) (by simp)
  | .table vs, .table ws =>
    have := Value.decEqEntries vs ws
    decidable_of_iff (vs = ws) (by simp)
  | .scalar _, .array _ | .scalar _, .table _ | .array _, .scalar _ | .array _, .table _
  | .table _, .scalar _ | .table _, .array _ => isFalse nofun

/-- Equality of lists of values. -/
def Value.decEqElements : (vs ws : List Value) → Decidable (vs = ws)
  | [], [] => isTrue rfl
  | [], _ :: _ | _ :: _, [] => isFalse nofun
  | v :: vs, w :: ws =>
    have := Value.decEq v w
    have := Value.decEqElements vs ws
    decidable_of_iff (v = w ∧ vs = ws) (by simp)

/-- Equality of keys and values. -/
def Value.decEqEntries : (vs ws : List (String × Value)) → Decidable (vs = ws)
  | [], [] => isTrue rfl
  | [], _ :: _ | _ :: _, [] => isFalse nofun
  | (k, v) :: vs, (l, w) :: ws =>
    have := Value.decEq v w
    have := Value.decEqEntries vs ws
    decidable_of_iff ((k = l ∧ v = w) ∧ vs = ws) (by simp)

end

instance : DecidableEq Value :=
  Value.decEq

/-- Keys and values in ascending order of the keys. -/
abbrev Table := List (String × Value)

namespace Table

/-- The value of a key. -/
def get? (t : Table) (key : String) : Option Value :=
  t.lookup key

/-- The table with a value for the key. -/
def insert (key : String) (value : Value) : Table → Table
  | [] => [(key, value)]
  | (k, v) :: rest =>
    if key < k then (key, value) :: (k, v) :: rest
    else if key = k then (key, value) :: rest
    else (k, v) :: insert key value rest

/-- The table of some keys and values, of which the last counts for a key. -/
def ofList (entries : List (String × Value)) : Table :=
  entries.foldl (fun t e => insert e.1 e.2 t) []

/-- The keys in ascending order. -/
def keys (t : Table) : List String :=
  t.map (·.1)

end Table

/-! ### Decoding -/

/-- Why a value cannot be decoded, and the keys that lead to the part where it shows. -/
structure Refusal where
  mismatch : Mismatch
  keys : List String
deriving DecidableEq, Repr

/-- The wording, on lines of its own. -/
def Refusal.message (r : Refusal) : String :=
  let path := String.intercalate "." r.keys
  if r.keys.isEmpty then s!"{r.mismatch.message}\n" else s!"{r.mismatch.message}\nin `{path}`\n"

/-- What a scalar is, in the wording of errors. -/
def Scalar.found : Scalar → Found
  | string s => .string s
  | integer n => .integer n
  | float x => .float x.positional
  | boolean b => .boolean b
  | datetime text => .string text

namespace Value

/-- What a value is, in the wording of errors. -/
def found : Value → Found
  | scalar s => s.found
  | array _ => .sequence
  | table _ => .map

/-- A value of another type is wanted. -/
def unlike {α : Type} (v : Value) (wanted : String) : Except Refusal α :=
  .error ⟨.invalidType v.found wanted, []⟩

/-- The value as a text. -/
def asString : Value → Except Refusal String
  | scalar (.string s) => .ok s
  | scalar (.datetime text) => .ok text
  | v => v.unlike "a string"

/-- The value as a truth value. -/
def asBool : Value → Except Refusal Bool
  | scalar (.boolean b) => .ok b
  | v => v.unlike "a boolean"

/-- The value as an integer. -/
def asInt : Value → Except Refusal Int
  | scalar (.integer n) => .ok n
  | v => v.unlike "i64"

/-- The value as a number below 256. -/
def asByte : Value → Except Refusal Nat
  | scalar (.integer n) =>
    if 0 ≤ n && n < 256 then .ok n.toNat else .error ⟨.invalidValue (.integer n) "u8", []⟩
  | v => v.unlike "u8"

/-- The value as a floating point number. -/
def asFloat : Value → Except Refusal Binary64
  | scalar (.float x) => .ok x
  | scalar (.integer n) => .ok (.ofDecimal (n < 0) n.natAbs 0)
  | v => v.unlike "f64"

/-- The elements of a list as texts. -/
def elementsAsStrings : List Value → Except Refusal (List String)
  | [] => .ok []
  | v :: vs => do
    let s ← v.asString
    return s :: (← elementsAsStrings vs)

/-- The value as a list of texts. -/
def asStrings : Value → Except Refusal (List String)
  | array elements => elementsAsStrings elements
  | v => v.unlike "a sequence"

/-- The entries of a table as integers. -/
def entriesAsInts : List (String × Value) → Except Refusal (List (String × Int))
  | [] => .ok []
  | (k, v) :: rest =>
    match v.asInt with
    | .ok n => do return (k, n) :: (← entriesAsInts rest)
    | .error e => .error { e with keys := k :: e.keys }

/-- The value as a table of integers. -/
def asIntTable : Value → Except Refusal (List (String × Int))
  | table entries => entriesAsInts entries
  | v => v.unlike "a map"

/-- The name of the type of a value. -/
def typeName : Value → String
  | scalar (.string _) => "string"
  | scalar (.integer _) => "integer"
  | scalar (.float _) => "float"
  | scalar (.boolean _) => "boolean"
  | scalar (.datetime _) => "datetime"
  | array _ => "array"
  | table _ => "table"

/-- The severity with a name. -/
def severityNamed (name : String) : Except Refusal Severity :=
  match Severity.ofName? name with
  | some s => .ok s
  | none => .error ⟨.unknownVariant name ["warning", "error"], []⟩

/-- What stands at the name of a severity in a table has to be empty. -/
def checkEmpty : Value → Except Refusal Unit
  | array [] | table [] => .ok ()
  | array _ => .error ⟨.other "expected empty array", []⟩
  | table _ => .error ⟨.other "expected empty table", []⟩
  | v => .error ⟨.other s!"expected table, found {v.typeName}", []⟩

/-- The value as a severity: its name, or a table with its name as the only key. -/
def asSeverity : Value → Except Refusal Severity
  | scalar (.string name) => severityNamed name
  | table [] => .error ⟨.other "wanted exactly 1 element, found 0 elements", []⟩
  | table [(name, v)] => do
    let s ← severityNamed name
    checkEmpty v
    return s
  | table _ => .error ⟨.other "wanted exactly 1 element, more than 1 element", []⟩
  | _ => .error ⟨.other "invalid type: unit variant, expected string only", []⟩

end Value

end SourceLint.Toml
