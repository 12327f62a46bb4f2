import SourceLint.Toml.Reader
import SourceLint.Toml.Value

/-!
# Reading values without parts

* **`blanks`**, **`newline`**, **`comment`** — what stands between values.
* **`string`** — texts in one or three quotation marks of either kind.
* **`number`** — dates, times, floating point numbers and integers.
-/

namespace SourceLint.Toml

open Reader

/-! ### Blanks and comments -/

/-- A blank within a line. -/
def isLineBlank (c : Char) : Bool :=
  c == ' ' || c == '\t'

/-- A character above ASCII. -/
def isWide (c : Char) : Bool :=
  c.toNat ≥ 0x80

/-- A character of a comment. -/
def isCommentChar (c : Char) : Bool :=
  c == '\t' || (0x20 ≤ c.toNat && c.toNat ≤ 0x7E) || isWide c

/-- Blanks within a line. -/
def blanks : Reader Unit := do
  let _ ← takeWhile isLineBlank

/-- The end of a line. -/
def newline : Reader Unit := do
  let c ← any
  if c == '\n' then return ()
  else if c == '\r' then char '\n'
  else fail

/-- A comment up to the end of its line. -/
def comment : Reader Unit := do
  char '#'
  let _ ← takeWhile isCommentChar

/-- The end of a line or of the text. -/
def lineEnd : Reader Unit :=
  orElse newline endOfText

/-- Blanks, perhaps a comment, and the end of the line. -/
def lineRest : Reader Unit := do
  blanks
  let _ ← optional comment
  lineEnd

/-- Blanks within lines and ends of lines. -/
def blankLines : Reader Unit := do
  let _ ← repeated (orElse newline (do let _ ← takeSome isLineBlank))

/-- Blanks, ends of lines and comments. -/
def gapWithin : (fuel : Nat) → Reader Unit
  | 0 => blanks
  | fuel + 1 => do
    blanks
    match ← remaining with
    | '#' :: _ => do comment; newline; gapWithin fuel
    | '\n' :: _ | '\r' :: _ => do newline; gapWithin fuel
    | _ => return ()

/-- Blanks, ends of lines and comments. -/
def gap : Reader Unit := do
  gapWithin (← remaining).length

/-! ### Texts -/

/-- A digit of a number in base sixteen. -/
def isHexDigit (c : Char) : Bool :=
  c.isDigit || ('a' ≤ c && c ≤ 'f') || ('A' ≤ c && c ≤ 'F')

/-- The value of a digit in any base up to sixteen. -/
def digitValue (c : Char) : Nat :=
  if c.isDigit then c.toNat - 48
  else if 'a' ≤ c then c.toNat - 87
  else c.toNat - 55

/-- The value of digits in a base. -/
def digitsValue (base : Nat) (ds : List Char) : Nat :=
  ds.foldl (fun n d => n * base + digitValue d) 0

/-- The wording for a value that is none of the possible ones. -/
def outOfRange : String := "value is out of range"

/-- The character with the given code point. -/
def codePoint (ds : List Char) : Except (Option String) Char :=
  let n := digitsValue 16 ds
  if n < 0xD800 || (0xDFFF < n && n < 0x110000) then .ok (Char.ofNat n)
  else .error (some outOfRange)

/-- The code point of a character in a number of digits. -/
def hexEscape (count : Nat) : Reader Char :=
  commit (labelled s!"unicode {count}-digit hex code" (checked (takeCount count isHexDigit) codePoint))

/-- What an escaped character may be. -/
def escapeLetters : List String :=
  ["`b`", "`f`", "`n`", "`r`", "`t`", "`u`", "`U`", "`\\`", "`\"`"]

/-- An escaped character.  What is none is refused behind its first byte, which for a character above ASCII
counts as the place where that begins. -/
def escape : Reader Char := do
  char '\\'
  let place ← offset
  match ← any with
  | 'b' => return '\x08'
  | 'f' => return '\x0c'
  | 'n' => return '\n'
  | 'r' => return '\r'
  | 't' => return '\t'
  | '\\' => return '\\'
  | '"' => return '"'
  | 'u' => hexEscape 4
  | 'U' => hexEscape 8
  | c =>
    let refused := if isWide c then place else place + 1
    expecting escapeLetters (labelled "escape sequence" (throw ⟨true, refused, none, [], none⟩))

/-- A character of a text in double quotation marks that stands for itself. -/
def isPlainChar (c : Char) : Bool :=
  isLineBlank c || c == '\x21' || ('\x23' ≤ c && c ≤ '\x5b') || ('\x5d' ≤ c && c ≤ '\x7e') || isWide c

/-- Some characters of a text in double quotation marks. -/
def basicPart : Reader (List Char) :=
  orElse (takeSome isPlainChar) (do return [← escape])

/-- A text in double quotation marks. -/
def basicString : Reader (List Char) := do
  char '"'
  let parts ← repeated basicPart
  labelled "basic string" (commit (char '"'))
  return parts.flatten

/-- The end of a line that does not count. -/
def escapedNewline : Reader Unit := do
  char '\\'
  blanks
  newline
  blankLines

/-- Some characters of a text in three double quotation marks. -/
def longBasicPart : Reader (List Char) :=
  firstOf [takeSome isPlainChar, do let _ ← repeatedSome escapedNewline; return [],
    do return [← escape], do newline; return ['\n']]

/-- One or two quotation marks before something. -/
def innerQuotes (mark : String) (after : Reader Unit) : Reader (List Char) :=
  orElse (do text (mark ++ mark); ahead after; return (mark ++ mark).toList)
    (do text mark; ahead after; return mark.toList)

/-- One or two quotation marks that do not end a text in three double ones, and what follows them. -/
def quotedBasicParts : Reader (List Char) := do
  let quotes ← innerQuotes "\"" (discard (oneOf (· != '"')))
  let parts ← repeated longBasicPart
  return quotes ++ parts.flatten

/-- The inside of a text in three double quotation marks. -/
def longBasicBody : Reader (List Char) := do
  let first ← repeated longBasicPart
  let more ← repeated quotedBasicParts
  let last ← optional (innerQuotes "\"" (text "\"\"\""))
  return first.flatten ++ more.flatten ++ last.getD []

/-- A text in three double quotation marks. -/
def longBasicString : Reader (List Char) :=
  labelled "multiline basic string" do
    text "\"\"\""
    let _ ← optional newline
    let body ← commit longBasicBody
    commit (text "\"\"\"")
    return body

/-- A character of a text in single quotation marks. -/
def isLiteralChar (c : Char) : Bool :=
  c == '\t' || ('\x20' ≤ c && c ≤ '\x26') || ('\x28' ≤ c && c ≤ '\x7e') || isWide c

/-- A text in single quotation marks. -/
def literalString : Reader (List Char) :=
  labelled "literal string" do
    char '\''
    let cs ← takeWhile isLiteralChar
    commit (char '\'')
    return cs

/-- A character or the end of a line in a text in three single quotation marks. -/
def longLiteralPart : Reader (List Char) :=
  orElse (do return [← oneOf isLiteralChar]) (do newline; return ['\n'])

/-- The inside of a text in three single quotation marks. -/
def longLiteralBody : Reader (List Char) := do
  let first ← repeated longLiteralPart
  let more ← repeated do
    let quotes ← innerQuotes "'" (discard longLiteralPart)
    let parts ← repeatedSome longLiteralPart
    return quotes ++ parts.flatten
  let last ← optional (innerQuotes "'" (text "'''"))
  return first.flatten ++ more.flatten ++ last.getD []

/-- A text in three single quotation marks. -/
def longLiteralString : Reader (List Char) :=
  labelled "multiline literal string" do
    text "'''"
    let _ ← optional newline
    let body ← commit longLiteralBody
    commit (text "'''")
    return body

/-- A text. -/
def string : Reader String := do
  return String.ofList (← firstOf [longBasicString, basicString, longLiteralString, literalString])

/-! ### Integers -/

/-- The sign of a number. -/
def sign : Reader (Option Char) :=
  optional (oneOf fun c => c == '+' || c == '-')

/-- More digits of a number, among which single underscores may stand. -/
def moreDigits (isDigit : Char → Bool) : Reader Unit := do
  let digit : Reader Unit := do let _ ← oneOf isDigit
  let _ ← repeated (orElse digit (do char '_'; expecting ["digit"] (commit digit)))

/-- The digits of a number. -/
def digits (isDigit : Char → Bool) : Reader Unit := do
  let _ ← oneOf isDigit
  moreDigits isDigit

/-- The text of an integer in base ten. -/
def decimalText : Reader (List Char) :=
  labelled "integer" (taken do
    let _ ← sign
    orElse (do let _ ← oneOf fun c => c.isDigit && c != '0'; moreDigits Char.isDigit)
      (do let _ ← oneOf Char.isDigit))

/-- The wording for an integer that does not fit into 64 bits. -/
def tooGreat (negative : Bool) : String :=
  if negative then "number too small to fit in target type"
  else "number too large to fit in target type"

/-- The integer with the given digits in a base, if it fits into 64 bits. -/
def integerOf (base : Nat) (cs : List Char) : Except (Option String) Int :=
  let negative := cs.head? == some '-'
  let n : Int := digitsValue base (cs.filter fun c => c != '_' && c != '+' && c != '-')
  let n := if negative then -n else n
  if -(twoTo 63 : Int) ≤ n && n < twoTo 63 then .ok n else .error (some (tooGreat negative))

/-- An integer in a base other than ten. -/
def prefixedInteger (mark label : String) (base : Nat) (isDigit : Char → Bool) : Reader Int :=
  commit (checked (labelled label (do text mark; commit (taken (digits isDigit)))) (integerOf base))

/-- An integer. -/
def integer : Reader Int := do
  match ← remaining with
  | '0' :: 'x' :: _ => prefixedInteger "0x" "hexadecimal integer" 16 isHexDigit
  | '0' :: 'o' :: _ => prefixedInteger "0o" "octal integer" 8 fun c => '0' ≤ c && c ≤ '7'
  | '0' :: 'b' :: _ => prefixedInteger "0b" "binary integer" 2 fun c => c == '0' || c == '1'
  | _ =>
    let place ← offset
    let cs ← decimalText
    match integerOf 10 cs with
    | .ok n => return n
    | .error cause => throw ⟨true, place, none, [], cause⟩

/-! ### Floating point numbers -/

/-- The point of a number and the digits after it. -/
def fraction : Reader Unit := do
  char '.'
  expecting ["digit"] (commit (digits Char.isDigit))

/-- The exponent of a number. -/
def exponent : Reader Unit := do
  let _ ← oneOf fun c => c == 'e' || c == 'E'
  let _ ← sign
  commit (digits Char.isDigit)

/-- The text of a number with a fraction or an exponent. -/
def floatText : Reader (List Char) :=
  taken do
    let _ ← decimalText
    orElse exponent (do fraction; let _ ← optional exponent)

/-- An integer with an optional sign. -/
def signedValue (cs : List Char) : Int :=
  let n : Int := digitsValue 10 (cs.filter Char.isDigit)
  if cs.head? == some '-' then -n else n

/-- The number with the given text. -/
def floatOf (cs : List Char) : Binary64 :=
  let cs := cs.filter (· != '_')
  let isExponent (c : Char) : Bool := c == 'e' || c == 'E'
  let mantissa := cs.takeWhile fun c => !isExponent c
  let power := signedValue ((cs.dropWhile fun c => !isExponent c).drop 1)
  let places := ((mantissa.dropWhile (· != '.')).drop 1).length
  .ofDecimal (cs.head? == some '-') (digitsValue 10 (mantissa.filter Char.isDigit)) (power - places)

/-- The word for an infinite number. -/
def infinite : Reader Binary64 := do
  text "inf"
  return .infinity false

/-- The word for the result of a senseless operation. -/
def senseless : Reader Binary64 := do
  text "nan"
  return .nan false

/-- A word for a number, with an optional sign. -/
def specialFloat : Reader Binary64 := do
  let s ← sign
  let x ← orElse infinite senseless
  return if s == some '-' then .ofMagnitude true (x.bits.toNat % twoTo 63) else x

/-- A floating point number that is not too great. -/
def float : Reader Binary64 :=
  let plain : Reader Binary64 := do
    let place ← offset
    let x := floatOf (← floatText)
    if x == .infinity false then throw ⟨true, place, none, [], none⟩ else return x
  labelled "floating-point number" (orElse plain specialFloat)

/-! ### Dates and times -/

/-- A number in a fixed count of digits, between bounds. -/
def fixedDigits (count low high : Nat) : Reader (List Char) :=
  checked (takeCount count Char.isDigit) fun ds =>
    let n := digitsValue 10 ds
    if low ≤ n && n ≤ high then .ok ds else .error (some outOfRange)

/-- The number of days of a month. -/
def daysIn (year month : Nat) : Nat :=
  if month = 2 then
    if year % 4 = 0 && (year % 100 != 0 || year % 400 = 0) then 29 else 28
  else if [4, 6, 9, 11].contains month then 30
  else 31

/-- A date. -/
def date : Reader (List Char) := do
  let year ← takeCount 4 Char.isDigit
  char '-'
  let month ← commit (fixedDigits 2 1 12)
  commit (char '-')
  let place ← offset
  let day ← commit (fixedDigits 2 1 31)
  if digitsValue 10 day > daysIn (digitsValue 10 year) (digitsValue 10 month) then
    throw ⟨true, place, none, [], some outOfRange⟩
  return year ++ '-' :: month ++ '-' :: day

/-- The digits after the point of a number of seconds, at most nine of which count, without zeros at
their end. -/
def secondFraction (ds : List Char) : List Char :=
  let kept := ((ds.take 9).reverse.dropWhile (· == '0')).reverse
  if kept.isEmpty then [] else '.' :: kept

/-- A time of the day. -/
def time : Reader (List Char) := do
  let hour ← fixedDigits 2 0 23
  char ':'
  commit do
    let minute ← fixedDigits 2 0 59
    char ':'
    let second ← fixedDigits 2 0 60
    let part ← optional (do char '.'; takeSome Char.isDigit)
    return hour ++ ':' :: minute ++ ':' :: second ++ secondFraction (part.getD [])

/-- The difference between a time and the standard time. -/
def timeOffset : Reader (List Char) :=
  let standard : Reader (List Char) := do
    let _ ← oneOf fun c => c == 'Z' || c == 'z'
    return ['Z']
  let difference : Reader (List Char) := do
    let s ← oneOf fun c => c == '+' || c == '-'
    commit do
      let hour ← fixedDigits 2 0 23
      char ':'
      let minute ← fixedDigits 2 0 59
      let isZero := digitsValue 10 (hour ++ minute) = 0
      return (if isZero then '+' else s) :: hour ++ ':' :: minute
  labelled "time offset" (orElse standard difference)

/-- A date that a time may follow. -/
def dateAndTime : Reader (List Char) := do
  let d ← date
  let rest ← optional do
    let _ ← oneOf fun c => c == 'T' || c == 't' || c == ' '
    let t ← time
    let o ← optional timeOffset
    return 'T' :: t ++ o.getD []
  return d ++ rest.getD []

/-- A date or a time. -/
def datetime : Reader String := do
  return String.ofList (← orElse (labelled "date-time" dateAndTime) (labelled "time" time))

/-! ### Values -/

/-- A date, a time or a number. -/
def number : Reader Scalar :=
  firstOf [Scalar.datetime <$> datetime, Scalar.float <$> float, Scalar.integer <$> integer]

/-- A word that stands for a value; others are taken for texts whose quotation marks are missing. -/
def wordValue (p : Reader Scalar) : Reader Scalar :=
  expecting ["`\"`", "`'`"] (labelled "string" p)

/-- A value without parts. -/
def scalar : Reader Scalar := do
  match ← ahead any with
  | '"' | '\'' => Scalar.string <$> string
  | '_' => expecting ["leading digit"] (Scalar.integer <$> integer)
  | '.' => expecting ["leading digit"] (Scalar.float <$> float)
  | 't' => wordValue (do commit (text "true"); return .boolean true)
  | 'f' => wordValue (do commit (text "false"); return .boolean false)
  | 'i' => wordValue (Scalar.float <$> infinite)
  | 'n' => wordValue (Scalar.float <$> senseless)
  | c => if c == '+' || c == '-' || c.isDigit then number else wordValue fail

end SourceLint.Toml
