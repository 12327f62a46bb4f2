import SourceLint.Number.Notation
import SourceLint.Text.Quoted

/-!
# Values of the wrong shape

Settings and reports are stored as values of a data format, from which the values of this library are
decoded.

* **`Found`** — what stands where something else was wanted.
* **`Mismatch`** — why a value cannot be decoded.
* **`Mismatch.message`** — its wording.
-/

namespace SourceLint.Data

open SourceLint.Text

/-- What stands where something else was wanted. -/
inductive Found where
  | null
  | boolean (value : Bool)
  | integer (value : Int)
  /-- A number with a point, as it is written in the wording. -/
  | float (text : String)
  | string (value : String)
  | sequence
  | map
deriving DecidableEq, Repr

/-- The wording of what was found. -/
def Found.description : Found → String
  | null => "null"
  | boolean value => s!"boolean `{value}`"
  | integer value => s!"integer `{value}`"
  | float text => s!"floating point `{text}`"
  | string value => s!"string {quotedText value}"
  | sequence => "sequence"
  | map => "map"

/-- Why a value cannot be decoded. -/
inductive Mismatch where
  /-- A value of another type is wanted. -/
  | invalidType (found : Found) (wanted : String)
  /-- Another value of the same type is wanted. -/
  | invalidValue (found : Found) (wanted : String)
  /-- A list has too few or too many elements. -/
  | invalidLength (length : Nat) (wanted : String)
  /-- A name is none of those that are known. -/
  | unknownVariant (name : String) (known : List String)
  /-- A key is none of those that are known. -/
  | unknownField (name : String) (known : List String)
  | missingField (name : String)
  /-- Another reason. -/
  | other (text : String)
deriving DecidableEq, Repr

/-- The wording of a choice between names. -/
def choice (names : List String) : String :=
  let quoted := names.map fun n => s!"`{n}`"
  match quoted with
  | [a, b] => s!"{a} or {b}"
  | [a] => a
  | _ => "one of " ++ String.intercalate ", " quoted

/-- The wording of the reason. -/
def Mismatch.message : Mismatch → String
  | invalidType found wanted => s!"invalid type: {found.description}, expected {wanted}"
  | invalidValue found wanted => s!"invalid value: {found.description}, expected {wanted}"
  | invalidLength length wanted => s!"invalid length {length}, expected {wanted}"
  | unknownVariant name known => s!"unknown variant `{name}`, expected {choice known}"
  | unknownField name known => s!"unknown field `{name}`, expected {choice known}"
  | missingField name => s!"missing field `{name}`"
  | other text => text

end SourceLint.Data
