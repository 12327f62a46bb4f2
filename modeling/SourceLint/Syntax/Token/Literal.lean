import SourceLint.Text.Identifier

/-!
# Lengths of words, literals and comments

A token is recognised by its length: each function here looks at the beginning of a text and says
how many characters the token that stands there has, if one of its kind does.

* **`wordLength`** — an identifier without the raw mark; **`rawMarkLength`** its `r#`.
* **`quotedLength`**, **`rawQuotedLength`** — texts between quotes, with and without escapes.
* **`characterLength`** — one character or byte between apostrophes.
* **`floatLength`**, **`integerLength`** — numbers with their suffixes.
* **`lineCommentLength`**, **`blockCommentLength`** — comments; block comments nest.
-/

namespace SourceLint.Syntax.Literal

open SourceLint.Text

/-- The length of the identifier at the beginning of the text. -/
def wordLength : List Char → Option Nat
  | [] => none
  | c :: cs =>
    if isIdentifierStart c then some (1 + (cs.takeWhile isIdentifierContinue).length) else none

/-- The length of the suffix that a literal may carry: an identifier or nothing. -/
def suffixLength (cs : List Char) : Nat :=
  (wordLength cs).getD 0

/-- Two when the text begins with the mark of a raw identifier, else zero. -/
def rawMarkLength : List Char → Nat
  | 'r' :: '#' :: _ => 2
  | _ => 0

/-! ### Quoted texts -/

/-- The value of a hexadecimal digit. -/
def hexValue? (c : Char) : Option Nat :=
  if c.isDigit then some (c.toNat - '0'.toNat)
  else if 'a' ≤ c && c ≤ 'f' then some (c.toNat - 'a'.toNat + 10)
  else if 'A' ≤ c && c ≤ 'F' then some (c.toNat - 'A'.toNat + 10)
  else none

/-- What a quoted text of one kind may hold. -/
structure Quoting where
  /-- The characters that may follow a backslash on their own. -/
  simple : List Char
  /-- The greatest value of `\xHH`. -/
  maxHex : Nat
  /-- Whether `\u{…}` is an escape. -/
  unicode : Bool
  /-- Whether a zero character or byte may be written in any way. -/
  zero : Bool
  /-- Whether characters above ASCII may stand unescaped. -/
  wide : Bool

/-- Strings. -/
def Quoting.string : Quoting := ⟨['n', 'r', 't', '\\', '\'', '"', '0'], 0x7F, true, true, true⟩

/-- Byte strings. -/
def Quoting.bytes : Quoting := ⟨['n', 'r', 't', '\\', '\'', '"', '0'], 0xFF, false, true, false⟩

/-- Strings that end with a zero byte, and therefore hold none. -/
def Quoting.terminated : Quoting := ⟨['n', 'r', 't', '\\', '\'', '"'], 0xFF, true, false, true⟩

/-- Whether the character may stand unescaped. -/
def Quoting.plain (q : Quoting) (c : Char) : Bool :=
  (q.wide || c.toNat < 0x80) && (q.zero || c != '\x00')

/-- The rest of a braced escape: its length up to the closing brace and its value, given the number
of digits read and their value.  One to six digits, with underscores after the first. -/
def bracedHex : Nat → Nat → List Char → Option (Nat × Nat)
  | _, _, [] => none
  | digits, value, c :: cs =>
    match hexValue? c with
    | some d =>
      if digits = 6 then none
      else (bracedHex (digits + 1) (value * 16 + d) cs).map fun r => (r.1 + 1, r.2)
    | none =>
      if digits = 0 then none
      else if c = '_' then (bracedHex digits value cs).map fun r => (r.1 + 1, r.2)
      else if c = '}' then some (1, value)
      else none

/-- Whether the number is the code of a character. -/
def isCharacterCode (n : Nat) : Bool :=
  n < 0xD800 || (0xDFFF < n && n < 0x110000)

/-- The blanks after an escaped line end, which are part of the escape.  A carriage return must be
followed by a line feed, and something must follow the blanks. -/
def continuationLength : (afterReturn : Bool) → List Char → Option Nat
  | true, c :: cs => if c = '\n' then (continuationLength false cs).map (· + 1) else none
  | true, [] => none
  | false, [] => none
  | false, c :: cs =>
    if c = ' ' ∨ c = '\t' ∨ c = '\n' then (continuationLength false cs).map (· + 1)
    else if c = '\r' then (continuationLength true cs).map (· + 1)
    else some 0

/-- The length of what follows a backslash, line ends apart. -/
def escapeLength (q : Quoting) : List Char → Option Nat
  | 'x' :: a :: b :: _ => do
    let value := (← hexValue? a) * 16 + (← hexValue? b)
    if value ≤ q.maxHex && (q.zero || value != 0) then some 3 else none
  | 'u' :: '{' :: cs => do
    if !q.unicode then none
    let (n, value) ← bracedHex 0 0 cs
    if isCharacterCode value && (q.zero || value != 0) then some (n + 2) else none
  | c :: _ => if q.simple.contains c then some 1 else none
  | [] => none

/-- The length of what follows a backslash inside a quoted text, where a line end is an escape. -/
def textEscapeLength (q : Quoting) : List Char → Option Nat
  | '\n' :: cs => (continuationLength false cs).map (· + 1)
  | '\r' :: cs => (continuationLength true cs).map (· + 1)
  | cs => escapeLength q cs

/-- The length of a quoted text from after its opening quote, the closing one included; the first
`skip` characters belong to an escape. -/
def quotedBody (q : Quoting) : (skip : Nat) → List Char → Option Nat
  | _, [] => none
  | k + 1, _ :: cs => (quotedBody q k cs).map (· + 1)
  | 0, c :: cs =>
    if c = '"' then some 1
    else if c = '\\' then do
      let n ← textEscapeLength q cs
      (quotedBody q n cs).map (· + 1)
    else if c = '\r' && cs.head? != some '\n' then none
    else if q.plain c then (quotedBody q 0 cs).map (· + 1)
    else none

/-- The length of a quoted text from after its opening quote, with the suffix. -/
def quotedLength (q : Quoting) (cs : List Char) : Option Nat := do
  let n ← quotedBody q 0 cs
  some (n + suffixLength (cs.drop n))

/-- The length of a raw quoted text from after its opening quote, when `hashes` hash marks must
follow the closing one. -/
def rawBody (q : Quoting) (hashes : Nat) : List Char → Option Nat
  | [] => none
  | c :: cs =>
    if c = '"' && cs.take hashes == List.replicate hashes '#' then some (1 + hashes)
    else if c = '\r' && cs.head? != some '\n' then none
    else if q.plain c then (rawBody q hashes cs).map (· + 1)
    else none

/-- The length of a raw quoted text from after the letter `r`, with the suffix.  At most 255 hash
marks stand before the quote. -/
def rawQuotedLength (q : Quoting) (cs : List Char) : Option Nat :=
  let hashes := (cs.takeWhile (· == '#')).length
  match cs.drop hashes with
  | '"' :: body => do
    if hashes > 255 then none
    let n ← rawBody q hashes body
    some (hashes + 1 + n + suffixLength (body.drop n))
  | _ => none

/-- The length of a character or byte from after its opening apostrophe, with the suffix. -/
def characterLength (q : Quoting) (cs : List Char) : Option Nat := do
  let n ← match cs with
    | '\\' :: rest => (escapeLength q rest).map (· + 1)
    | c :: _ => if q.wide || c.toNat < 0x80 then some 1 else none
    | [] => none
  match cs.drop n with
  | '\'' :: rest => some (n + 1 + suffixLength rest)
  | _ => none

/-! ### Numbers -/

/-- Whether the character may stand between the digits of a number. -/
def isDigitOrGap (c : Char) : Bool :=
  c.isDigit || c == '_'

/-- The length of an exponent after its letter; a digit is required, a sign may precede it. -/
def exponentLength : (signed valued : Bool) → List Char → Option Nat
  | _, valued, [] => if valued then some 0 else none
  | signed, valued, c :: cs =>
    if c = '+' ∨ c = '-' then
      if valued then some 0
      else if signed then none
      else (exponentLength true valued cs).map (· + 1)
    else if c.isDigit then (exponentLength signed true cs).map (· + 1)
    else if c = '_' then (exponentLength signed valued cs).map (· + 1)
    else if valued then some 0
    else none

/-- Whether the text begins with the letter of an exponent. -/
def startsExponent : List Char → Bool
  | c :: _ => c == 'e' || c == 'E'
  | [] => false

/-- The length of a number with a point or an exponent, suffix not included. -/
def floatDigits (cs : List Char) : Option Nat := do
  if !(cs.head?.any Char.isDigit) then none
  let whole := (cs.takeWhile isDigitOrGap).length
  match cs.drop whole with
  | '.' :: rest =>
    if rest.head?.any fun c => c == '.' || isIdentifierStart c then none
    let length := whole + 1 + (rest.takeWhile isDigitOrGap).length
    let after := cs.drop length
    if startsExponent after then
      match exponentLength false false (after.drop 1) with
      | some n => some (length + 1 + n)
      | none => some length
    else some length
  | rest =>
    if startsExponent rest then
      (exponentLength false false (rest.drop 1)).map (whole + 1 + ·)
    else none

/-- The length of the digits of a number in the base, given whether none has been read; a digit too
great for the base makes the number malformed, a letter too great begins its suffix. -/
def baseDigits (base : Nat) : (none? : Bool) → List Char → Option Nat
  | none?, [] => if none? then none else some 0
  | none?, c :: cs =>
    if c = '_' then
      if none? && base == 10 then none else (baseDigits base none? cs).map (· + 1)
    else
      match hexValue? c with
      | some d =>
        if d < base then (baseDigits base false cs).map (· + 1)
        else if c.isDigit || none? then none
        else some 0
      | none => if none? then none else some 0

/-- The length of an integer, suffix not included. -/
def integerDigits : List Char → Option Nat
  | '0' :: 'x' :: cs => (baseDigits 16 true cs).map (· + 2)
  | '0' :: 'o' :: cs => (baseDigits 8 true cs).map (· + 2)
  | '0' :: 'b' :: cs => (baseDigits 2 true cs).map (· + 2)
  | cs => baseDigits 10 true cs

/-- Adds the suffix to the length of a number; nothing that could belong to a word may follow. -/
def withSuffix (cs : List Char) (n : Nat) : Option Nat :=
  let length := n + suffixLength (cs.drop n)
  if (cs.drop length).head?.any isIdentifierContinue then none else some length

/-- The length of a number with a point or an exponent. -/
def floatLength (cs : List Char) : Option Nat :=
  (floatDigits cs).bind (withSuffix cs)

/-- The length of an integer. -/
def integerLength (cs : List Char) : Option Nat :=
  (integerDigits cs).bind (withSuffix cs)

/-- Reads digits of the base, gaps between them included: their value, given the value of those before
them, and what follows them. -/
def digitsValue (base : Nat) : (value : Nat) → List Char → Nat × List Char
  | value, [] => (value, [])
  | value, c :: cs =>
    if c = '_' then digitsValue base value cs
    else
      match hexValue? c with
      | some d => if d < base then digitsValue base (value * base + d) cs else (value, c :: cs)
      | none => (value, c :: cs)

/-- The value of an integer and its suffix. -/
def integerValue : List Char → Nat × List Char
  | '0' :: 'x' :: cs => digitsValue 16 0 cs
  | '0' :: 'o' :: cs => digitsValue 8 0 cs
  | '0' :: 'b' :: cs => digitsValue 2 0 cs
  | cs => digitsValue 10 0 cs

/-! ### Comments -/

/-- The length of a comment that runs to the end of its line. -/
def lineCommentLength (cs : List Char) : Nat :=
  (cs.takeWhile (· != '\n')).length

/-- The length of a block comment that is `depth` comments deep, from here to its end. -/
def blockBody : (depth : Nat) → List Char → Option Nat
  | d, '/' :: '*' :: cs => (blockBody (d + 1) cs).map (· + 2)
  | d, '*' :: '/' :: cs => if d ≤ 1 then some 2 else (blockBody (d - 1) cs).map (· + 2)
  | d, _ :: cs => (blockBody d cs).map (· + 1)
  | _, [] => none

/-- The length of the block comment at the beginning of the text. -/
def blockCommentLength (cs : List Char) : Option Nat :=
  blockBody 0 cs

end SourceLint.Syntax.Literal
