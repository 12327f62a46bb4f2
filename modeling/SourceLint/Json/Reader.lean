import SourceLint.Json.Value
import SourceLint.Number.Numeral

/-!
# Reading JSON

* **`Json.ofText?`** — the value that a text is, if it is one.

Every reader takes characters from the front of a list and returns those that are left.  Of several
values at one key of an object the last one counts.
-/

namespace SourceLint.Json

/-! ### Blanks and numerals -/

/-- The characters after the blanks at the beginning. -/
def skipBlanks (cs : List Char) : List Char :=
  cs.dropWhile [' ', '\t', '\n', '\r'].contains

/-- The digits at the beginning, of which there has to be one. -/
def readDigits (cs : List Char) : Option (List Char × List Char) :=
  match cs.takeWhile Char.isDigit with
  | [] => none
  | digits => some (digits, cs.dropWhile Char.isDigit)

/-- The digits after a point, if one comes first. -/
def readFraction : List Char → Option (Option (List Char) × List Char)
  | '.' :: cs => do
    let (digits, rest) ← readDigits cs
    return (some digits, rest)
  | cs => some (none, cs)

/-- The whole number that digits stand for. -/
def decimalValue (digits : List Char) : Int :=
  digits.foldl (fun n c => n * 10 + (c.toNat - '0'.toNat : Nat)) 0

/-- The exponent after its letter, if one comes first. -/
def readExponent : List Char → Option (Option Int × List Char)
  | c :: cs =>
    if c = 'e' ∨ c = 'E' then do
      let (isNegative, cs) := match cs with
        | '-' :: rest => (true, rest)
        | '+' :: rest => (false, rest)
        | _ => (false, cs)
      let (digits, rest) ← readDigits cs
      let value := decimalValue digits
      return (some (if isNegative then -value else value), rest)
    else some (none, c :: cs)
  | [] => some (none, [])

/-- The number that a numeral stands for. -/
def ofNumeral (n : Numeral) : Json :=
  match n.integer? with
  | some value => .integer value
  | none => .float n.float

/-- The numeral at the beginning. -/
def readNumber (cs : List Char) : Option (Json × List Char) := do
  let (isNegative, cs) := match cs with
    | '-' :: rest => (true, rest)
    | _ => (false, cs)
  let (whole, cs) ← readDigits cs
  let (fraction, cs) ← readFraction cs
  let (exponent, cs) ← readExponent cs
  return (ofNumeral ⟨isNegative, whole, fraction, exponent⟩, cs)

/-! ### Texts -/

/-- The value of a digit in base sixteen. -/
def hexDigitValue? (c : Char) : Option Nat :=
  if c.isDigit then some (c.toNat - '0'.toNat)
  else if 'a' ≤ c ∧ c ≤ 'f' then some (c.toNat - 'a'.toNat + 10)
  else if 'A' ≤ c ∧ c ≤ 'F' then some (c.toNat - 'A'.toNat + 10)
  else none

/-- The number that four digits in base sixteen stand for. -/
def readCodeUnit : List Char → Option (Nat × List Char)
  | a :: b :: c :: d :: rest => do
    let value (n : Nat) (c : Char) : Option Nat := (hexDigitValue? c).map (n * 16 + ·)
    return (← [a, b, c, d].foldlM value 0, rest)
  | _ => none

/-- The character after `\u`: one code unit, or two that make a pair. -/
def readCodePoint (cs : List Char) : Option (Char × List Char) := do
  let (high, cs) ← readCodeUnit cs
  if 0xD800 ≤ high ∧ high < 0xDC00 then
    match cs with
    | '\\' :: 'u' :: cs =>
      let (low, cs) ← readCodeUnit cs
      if 0xDC00 ≤ low ∧ low < 0xE000 then
        return (Char.ofNat (0x10000 + (high - 0xD800) * 0x400 + (low - 0xDC00)), cs)
      else none
    | _ => none
  else if 0xDC00 ≤ high ∧ high < 0xE000 then none
  else return (Char.ofNat high, cs)

/-- The character that a letter stands for after a backslash. -/
def unescapedLetter? : Char → Option Char
  | '"' => some '"'
  | '\\' => some '\\'
  | '/' => some '/'
  | 'b' => some '\x08'
  | 'f' => some '\x0c'
  | 'n' => some '\n'
  | 'r' => some '\r'
  | 't' => some '\t'
  | _ => none

/-- The rest of a text after its opening quotation mark. -/
def readText : (fuel : Nat) → List Char → Option (List Char × List Char)
  | 0, _ => none
  | fuel + 1, cs =>
    match cs with
    | [] => none
    | '"' :: rest => some ([], rest)
    | '\\' :: 'u' :: rest => do
      let (c, rest) ← readCodePoint rest
      let (text, rest) ← readText fuel rest
      return (c :: text, rest)
    | '\\' :: letter :: rest => do
      let c ← unescapedLetter? letter
      let (text, rest) ← readText fuel rest
      return (c :: text, rest)
    | c :: rest => do
      if c.toNat < 32 ∨ c = '\\' then none
      let (text, rest) ← readText fuel rest
      return (c :: text, rest)

/-- The text at the beginning. -/
def readQuoted : List Char → Option (String × List Char)
  | '"' :: cs => do
    let (text, rest) ← readText (cs.length + 1) cs
    return (String.ofList text, rest)
  | _ => none

/-! ### Values -/

/-- The word at the beginning, and the value that it is. -/
def readName (cs : List Char) : Option (Json × List Char) :=
  let named := [("null", Json.null), ("true", .boolean true), ("false", .boolean false)]
  match named.find? fun entry => entry.1.toList.isPrefixOf cs with
  | some (name, value) => some (value, cs.drop name.length)
  | none => none

/-- The entries with a value at a key in the place of another that the key may have. -/
def withEntry (key : String) (value : Json) (entries : List (String × Json)) :
    List (String × Json) :=
  if entries.any fun e => e.1 == key then entries else (key, value) :: entries

mutual

/-- The value at the beginning, after blanks; `fuel` bounds the number of values. -/
def readValue : (fuel : Nat) → List Char → Option (Json × List Char)
  | 0, _ => none
  | fuel + 1, cs =>
    match skipBlanks cs with
    | '"' :: rest => do
      let (text, rest) ← readQuoted ('"' :: rest)
      return (.string text, rest)
    | '[' :: rest =>
      match skipBlanks rest with
      | ']' :: rest => some (.array [], rest)
      | rest => do
        let (elements, rest) ← readElements fuel rest
        return (.array elements, rest)
    | '\x7b' :: rest =>
      match skipBlanks rest with
      | '\x7d' :: rest => some (.object [], rest)
      | rest => do
        let (entries, rest) ← readEntries fuel rest
        return (.object entries, rest)
    | cs => readName cs <|> readNumber cs

/-- The elements of a list, of which there is one, up to the end of the list. -/
def readElements : (fuel : Nat) → List Char → Option (List Json × List Char)
  | 0, _ => none
  | fuel + 1, cs => do
    let (element, cs) ← readValue fuel cs
    match skipBlanks cs with
    | ']' :: rest => return ([element], rest)
    | ',' :: rest =>
      let (elements, rest) ← readElements fuel rest
      return (element :: elements, rest)
    | _ => none

/-- The entries of an object, of which there is one, up to the end of the object. -/
def readEntries : (fuel : Nat) → List Char → Option (List (String × Json) × List Char)
  | 0, _ => none
  | fuel + 1, cs => do
    let (key, cs) ← readQuoted (skipBlanks cs)
    match skipBlanks cs with
    | ':' :: cs =>
      let (value, cs) ← readValue fuel cs
      match skipBlanks cs with
      | '\x7d' :: rest => return ([(key, value)], rest)
      | ',' :: rest =>
        let (entries, rest) ← readEntries fuel rest
        return (withEntry key value entries, rest)
      | _ => none
    | _ => none

end

/-- The value that a text is, if it is one. -/
def ofText? (cs : List Char) : Option Json :=
  match readValue (2 * cs.length + 1) cs with
  | some (value, rest) => if (skipBlanks rest).isEmpty then some value else none
  | none => none

end SourceLint.Json
