import SourceLint.Toml.Reader

/-!
# Keys

* **`Key`** — a name in a table, and where it stands.
* **`Key.shown`** — the plainest way to write a name: bare if it can be, else in double quotation marks,
  or in single ones where that saves an escape.
-/

namespace SourceLint.Toml

/-- A name in a table. -/
structure Key where
  name : String
  stretch : Stretch
deriving DecidableEq, Repr, Inhabited

/-- A character of a name without quotation marks. -/
def isBareChar (c : Char) : Bool :=
  c.isAlphanum || c == '-' || c == '_'

/-- A character that a text in quotation marks can only hold in an escaped form. -/
def isControlChar (c : Char) : Bool :=
  (c.toNat ≤ 0x1F && c != '\t') || c.toNat == 0x7F

/-- A digit of a number in base sixteen. -/
def upperHexDigit (n : Nat) : Char :=
  if n < 10 then Char.ofNat (48 + n) else Char.ofNat (55 + n)

/-- A character between double quotation marks. -/
def escapedChar (c : Char) : List Char :=
  match c with
  | '\x08' => ['\\', 'b']
  | '\t' => ['\\', 't']
  | '\n' => ['\\', 'n']
  | '\x0c' => ['\\', 'f']
  | '\r' => ['\\', 'r']
  | '"' => ['\\', '"']
  | '\\' => ['\\', '\\']
  | c =>
    if isControlChar c then
      ['\\', 'u', '0', '0', upperHexDigit (c.toNat / 16), upperHexDigit (c.toNat % 16)]
    else [c]

/-- The characters with a mark before and after them. -/
def enclosed (mark : Char) (cs : List Char) : List Char :=
  mark :: cs ++ [mark]

/-- The plainest way to write a name. -/
def shownName (cs : List Char) : List Char :=
  if cs.all isBareChar && !cs.isEmpty then cs
  else if cs.any isControlChar then enclosed '"' (cs.flatMap escapedChar)
  else if !cs.contains '"' && !cs.contains '\\' then enclosed '"' cs
  else if !cs.contains '\'' then enclosed '\'' cs
  else enclosed '"' (cs.flatMap escapedChar)

/-- The plainest way to write the name. -/
def Key.shown (k : Key) : String :=
  String.ofList (shownName k.name.toList)

end SourceLint.Toml
