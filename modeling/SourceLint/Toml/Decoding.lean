import SourceLint.Toml.Datetime
import SourceLint.Toml.Document

/-!
# Decoding documents

* **`Decoded`** — what is decoded from parts of a document, or what is wrong with one of them.
* **`Decoded.under`** — the place of an error, if it has none: that of a value, or else of its key.
* **`Item.toValue`** — a part without its place.  A table whose first key is that of dates is a date.
* **`tableOf`** — the table that a text is.
-/

namespace SourceLint.Toml

open SourceLint.Data

/-- What is decoded from parts of a document. -/
abbrev Decoded (α : Type) := Except TomlError α

/-- An error at a part of the document. -/
def complain {α : Type} (message : String) (stretch : Option Stretch) : Decoded α :=
  .error ⟨message, stretch, []⟩

/-- What is decoded from the value of a key.  A table that was only implied has no place of its own. -/
def Decoded.under {α : Type} (result : Decoded α) (key : Key) (item : Item) : Decoded α :=
  match result with
  | .ok a => .ok a
  | .error e =>
    .error ⟨e.message, e.stretch <|> item.stretch? <|> some key.stretch, key.name :: e.keys⟩

/-- The key under which a table holds a date as a text. -/
def dateKey : String := "$__toml_private_datetime"

namespace Item

/-- What a part is, in the wording of errors. -/
def found : Item → Found
  | .scalar (.datetime _) _ => .map
  | .scalar s _ => s.found
  | .array _ _ | .tables _ _ => .sequence
  | .table _ _ _ => .map

/-- A part of another type is wanted. -/
def unlike {α : Type} (item : Item) (wanted : String) : Decoded α :=
  complain (Mismatch.invalidType item.found wanted).message item.stretch?

/-- The date that a text is. -/
def toDatetime : Item → Decoded Value
  | .scalar (.string text) s =>
    match datetimeOfText text with
    | .ok date => .ok (.scalar (.datetime date))
    | .error e => complain e.message (some s)
  | item => item.unlike "string containing a datetime"

/-- The entry that makes a table a date: the first one, if it has the key of dates. -/
def dateEntry? : List (Key × Item) → Option (Key × Item)
  | (key, item) :: _ => if key.name = dateKey then some (key, item) else none
  | [] => none

mutual

/-- The part without its place. -/
def toValue : Item → Decoded Value
  | scalar s _ => .ok (.scalar s)
  | array elements _ | tables elements _ => .array <$> toValues elements
  | table _ entries _ =>
    match dateEntry? entries with
    | some (key, item) => item.toDatetime.under key item
    | none => .table <$> toTable entries

/-- Parts without their places. -/
def toValues : List Item → Decoded (List Value)
  | [] => .ok []
  | i :: is => do
    let v ← toValue i
    return v :: (← toValues is)

/-- The entries of a table without their places. -/
def toEntries : List (Key × Item) → Decoded (List (String × Value))
  | [] => .ok []
  | (key, item) :: rest => do
    let v ← (toValue item).under key item
    return (key.name, v) :: (← toEntries rest)

/-- A table of entries without their places. -/
def toTable (entries : List (Key × Item)) : Decoded Table :=
  Table.ofList <$> toEntries entries

end

end Item

/-- The table that a text is, or the wording of what is wrong with it. -/
def tableOf (text : List Char) : Except String Table :=
  match documentOf text >>= Item.toTable with
  | .ok table => .ok table
  | .error e => .error (e.render text)

end SourceLint.Toml
