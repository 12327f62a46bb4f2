import SourceLint.Data.Mismatch
import SourceLint.Edit.Substitution
import SourceLint.Json.Value
import SourceLint.Report.Report

/-!
# Reports as JSON

Severities, locations, violations, reports and substitutions are written as JSON and read back.

* **`Violation.toJson`** and its like — the JSON of a value; a missing reason is left out.
* **`Violation.ofJson`** and its like — the value of a JSON, or why it has none.

A record is an object, in which other keys than those of the record are ignored, or the list of the
values of its fields.  Of several reasons why an object cannot be read the first in the order of its
keys is given, and a missing key only if there is no other.
-/

namespace SourceLint

open SourceLint.Data

namespace Json

/-! ### Records -/

/-- What a value is, in the wording of errors. -/
def found : Json → Found
  | .null => .null
  | boolean b => .boolean b
  | integer n => .integer n
  | float x => .float x.compact
  | string s => .string s
  | array _ => .sequence
  | object _ => .map

/-- What can be wrong. -/
abbrev Decoded (α : Type) := Except Mismatch α

/-- The entries of an object in the order of their keys. -/
def sortedEntries (entries : List (String × Json)) : List (String × Json) :=
  entries.mergeSort fun a b => a.1 ≤ b.1

/-- Checks the values of an object one after the other; `check` says what a key wants. -/
def checkEntries (check : String → Json → Decoded Unit) : List (String × Json) → Decoded Unit
  | [] => .ok ()
  | (k, v) :: rest => do check k v; checkEntries check rest

/-- The value at a key of an object. -/
def get? (entries : List (String × Json)) (key : String) : Option Json :=
  entries.lookup key

/-- The value of a field that has to be there. -/
def required {α : Type} (entries : List (String × Json)) (key : String) (decode : Json → Decoded α) :
    Decoded α :=
  match get? entries key with
  | some v => decode v
  | none => .error (.missingField key)

/-- The value of a field that may be left out. -/
def defaulted {α : Type} (entries : List (String × Json)) (key : String) (decode : Json → Decoded α)
    (default : α) : Decoded α :=
  match get? entries key with
  | some v => decode v
  | none => .ok default

/-- The wording for a record with a number of fields. -/
def recordWithFields (name : String) (count : Nat) : String :=
  s!"struct {name} with {count} elements"

/-- No element of a list may be left when all fields have their values. -/
def noMore {α : Type} (total : Nat) (rest : List Json) (value : α) : Decoded α :=
  if rest.isEmpty then .ok value else .error (.invalidLength total "fewer elements in array")

/-! ### Simple values -/

/-- The text that a value is. -/
def decodeString : Json → Decoded String
  | string s => .ok s
  | v => .error (.invalidType v.found "a string")

/-- The name of a file that a value is. -/
def decodePath : Json → Decoded String
  | string s => .ok s
  | v => .error (.invalidType v.found "path string")

/-- The count that a value is. -/
def decodeCount : Json → Decoded Nat
  | integer n =>
    if n < 0 then .error (.invalidValue (.integer n) "usize") else .ok n.toNat
  | v => .error (.invalidType v.found "usize")

/-- A text that may be missing. -/
def decodeOptionalString : Json → Decoded (Option String)
  | .null => .ok none
  | v => do return some (← decodeString v)

/-- The elements of a list. -/
def decodeElements {α : Type} (decode : Json → Decoded α) : List Json → Decoded (List α)
  | [] => .ok []
  | e :: es => do
    let a ← decode e
    return a :: (← decodeElements decode es)

/-- A list. -/
def decodeList {α : Type} (decode : Json → Decoded α) : Json → Decoded (List α)
  | array elements => decodeElements decode elements
  | v => .error (.invalidType v.found "a sequence")

end Json

open Json

/-! ### Severities -/

/-- A severity as JSON. -/
def Severity.toJson (s : Severity) : Json :=
  .string s.name

/-- The severity with the given name. -/
def Severity.decodeName (name : String) : Decoded Severity :=
  match Severity.ofName? name with
  | some s => .ok s
  | none => .error (.unknownVariant name ["warning", "error"])

/-- The severity that a value is: its name, or an object with its name as the only key. -/
def Severity.ofJson : Json → Decoded Severity
  | .string name => Severity.decodeName name
  | .object [(name, value)] => do
    let s ← Severity.decodeName name
    match value with
    | .null => return s
    | v => throw (.invalidType v.found "unit")
  | .object _ => .error (.invalidValue .map "map with a single key")
  | v => .error (.invalidType v.found "string or map")

/-! ### Locations -/

/-- A location as JSON. -/
def Location.toJson (l : Location) : Json :=
  .object [("file", .string l.file), ("line", natural l.line), ("column", natural l.column),
    ("offset", natural l.offset), ("length", natural l.length)]

/-- What the key of a location wants. -/
def Location.checkField (key : String) (v : Json) : Decoded Unit :=
  if key == "file" then discard (decodePath v)
  else if ["line", "column", "offset", "length"].contains key then discard (decodeCount v)
  else .ok ()

/-- The location that a value is. -/
def Location.ofJson : Json → Decoded Location
  | .object entries => do
    checkEntries Location.checkField (sortedEntries entries)
    return ⟨← required entries "file" decodePath, ← required entries "line" decodeCount,
      ← required entries "column" decodeCount, ← required entries "offset" decodeCount,
      ← required entries "length" decodeCount⟩
  | .array elements =>
    let short (n : Nat) : Decoded Location :=
      .error (.invalidLength n (recordWithFields "Location" 5))
    match elements with
    | [] => short 0
    | file :: rest => do
      let file ← decodePath file
      match rest with
      | [] => short 1
      | line :: rest =>
        let line ← decodeCount line
        match rest with
        | [] => short 2
        | column :: rest =>
          let column ← decodeCount column
          match rest with
          | [] => short 3
          | offset :: rest =>
            let offset ← decodeCount offset
            match rest with
            | [] => short 4
            | length :: rest =>
              let length ← decodeCount length
              noMore elements.length rest ⟨file, line, column, offset, length⟩
  | v => .error (.invalidType v.found "struct Location")

/-! ### Violations -/

/-- A violation as JSON. -/
def Violation.toJson (v : Violation) : Json :=
  .object ([("rule", .string v.rule), ("severity", v.severity.toJson),
    ("location", v.location.toJson)] ++
      match v.reason with
      | some reason => [("reason", .string reason)]
      | none => [])

/-- What the key of a violation wants. -/
def Violation.checkField (key : String) (v : Json) : Decoded Unit :=
  if key == "rule" then discard (decodeString v)
  else if key == "severity" then discard (Severity.ofJson v)
  else if key == "location" then discard (Location.ofJson v)
  else if key == "reason" then discard (decodeOptionalString v)
  else .ok ()

/-- The violation that a value is. -/
def Violation.ofJson : Json → Decoded Violation
  | .object entries => do
    checkEntries Violation.checkField (sortedEntries entries)
    return ⟨← required entries "rule" decodeString, ← required entries "severity" Severity.ofJson,
      ← required entries "location" Location.ofJson,
      ← defaulted entries "reason" decodeOptionalString none⟩
  | .array elements =>
    let short (n : Nat) : Decoded Violation :=
      .error (.invalidLength n (recordWithFields "Violation" 4))
    match elements with
    | [] => short 0
    | rule :: rest => do
      let rule ← decodeString rule
      match rest with
      | [] => short 1
      | severity :: rest =>
        let severity ← Severity.ofJson severity
        match rest with
        | [] => short 2
        | location :: rest =>
          let location ← Location.ofJson location
          match rest with
          | [] => return ⟨rule, severity, location, none⟩
          | reason :: rest =>
            let reason ← decodeOptionalString reason
            noMore elements.length rest ⟨rule, severity, location, reason⟩
  | v => .error (.invalidType v.found "struct Violation")

/-! ### Reports -/

/-- A report as JSON. -/
def Report.toJson (r : Report) : Json :=
  .object [("violations", .array (r.violations.map Violation.toJson)),
    ("files_checked", natural r.filesChecked),
    ("corrections_applied", natural r.correctionsApplied)]

/-- What the key of a report wants. -/
def Report.checkField (key : String) (v : Json) : Decoded Unit :=
  if key == "violations" then discard (decodeList Violation.ofJson v)
  else if key == "files_checked" || key == "corrections_applied" then discard (decodeCount v)
  else .ok ()

/-- The report that a value is. -/
def Report.ofJson : Json → Decoded Report
  | .object entries => do
    checkEntries Report.checkField (sortedEntries entries)
    return ⟨← required entries "violations" (decodeList Violation.ofJson),
      ← required entries "files_checked" decodeCount,
      ← defaulted entries "corrections_applied" decodeCount 0⟩
  | .array elements =>
    let short (n : Nat) : Decoded Report :=
      .error (.invalidLength n (recordWithFields "LintResult" 3))
    match elements with
    | [] => short 0
    | violations :: rest => do
      let violations ← decodeList Violation.ofJson violations
      match rest with
      | [] => short 1
      | files :: rest =>
        let files ← decodeCount files
        match rest with
        | [] => return ⟨violations, files, 0⟩
        | corrections :: rest =>
          let corrections ← decodeCount corrections
          noMore elements.length rest ⟨violations, files, corrections⟩
  | v => .error (.invalidType v.found "struct LintResult")

/-! ### Substitutions -/

/-- The stretch of a substitution: its two ends, by their names or one after the other. -/
structure ByteRange where
  start : Nat
  stop : Nat
deriving DecidableEq, Repr

/-- A stretch as JSON. -/
def ByteRange.toJson (r : ByteRange) : Json :=
  .object [("start", natural r.start), ("end", natural r.stop)]

/-- What the key of a stretch wants; no other keys are allowed. -/
def ByteRange.checkField (key : String) (v : Json) : Decoded Unit :=
  if key == "start" || key == "end" then discard (decodeCount v)
  else .error (.unknownField key ["start", "end"])

/-- The stretch that a value is. -/
def ByteRange.ofJson : Json → Decoded ByteRange
  | .object entries => do
    checkEntries ByteRange.checkField (sortedEntries entries)
    return ⟨← required entries "start" decodeCount, ← required entries "end" decodeCount⟩
  | .array elements =>
    match elements with
    | [] => .error (.invalidLength 0 "struct Range")
    | start :: rest => do
      let start ← decodeCount start
      match rest with
      | [] => throw (.invalidLength 1 "struct Range")
      | stop :: rest =>
        let stop ← decodeCount stop
        noMore elements.length rest ⟨start, stop⟩
  | v => .error (.invalidType v.found "struct Range")

/-- A substitution as JSON. -/
def Substitution.toJson (s : Substitution) : Json :=
  .object [("range", (ByteRange.mk s.start s.stop).toJson), ("replacement", .string s.replacement)]

/-- What the key of a substitution wants. -/
def Substitution.checkField (key : String) (v : Json) : Decoded Unit :=
  if key == "range" then discard (ByteRange.ofJson v)
  else if key == "replacement" then discard (decodeString v)
  else .ok ()

/-- The substitution that a value is. -/
def Substitution.ofJson : Json → Decoded Substitution
  | .object entries => do
    checkEntries Substitution.checkField (sortedEntries entries)
    let range ← required entries "range" ByteRange.ofJson
    return ⟨range.start, range.stop, ← required entries "replacement" decodeString⟩
  | .array elements =>
    let short (n : Nat) : Decoded Substitution :=
      .error (.invalidLength n (recordWithFields "Substitution" 2))
    match elements with
    | [] => short 0
    | range :: rest => do
      let range ← ByteRange.ofJson range
      match rest with
      | [] => short 1
      | replacement :: rest =>
        let replacement ← decodeString replacement
        noMore elements.length rest ⟨range.start, range.stop, replacement⟩
  | v => .error (.invalidType v.found "struct Substitution")

end SourceLint
