import SourceLint.Toml.Scalars

/-!
# Dates in texts of their own

A date may be given as a text in quotation marks.  Then it is read piece by piece, and what is wrong
with it is told in words of its own.

* **`Piece`** — digits or a single mark; `Piece.first?` is the first piece of a text.
* **`DatetimeError`** — what is wrong with a date, and what was expected in it.
* **`datetimeOfText`** — the date that a text is, written as dates outside of quotation marks are.
-/

namespace SourceLint.Toml

/-! ### Pieces -/

/-- A piece of a date. -/
inductive Piece where
  | digits (ds : List Char)
  /-- A single character; letters are capital. -/
  | mark (c : Char)
  /-- All that follows a character that stands in no date. -/
  | foreign
deriving DecidableEq, Repr, Inhabited

/-- The capital letter of one that may stand in a date. -/
def datetimeLetter (c : Char) : Char :=
  if c == 't' then 'T' else if c == 'z' then 'Z' else c

/-- The marks that stand in dates. -/
def datetimeMarks : List Char :=
  ['-', ':', 'T', ' ', 'Z', '+', '.']

/-- The first piece of a text, and what follows it. -/
def Piece.first? : List Char → Option (Piece × List Char)
  | [] => none
  | c :: cs =>
    if c.isDigit then some (.digits (c :: cs.takeWhile Char.isDigit), cs.dropWhile Char.isDigit)
    else if datetimeMarks.contains (datetimeLetter c) then some (.mark (datetimeLetter c), cs)
    else some (.foreign, [])

/-! ### Errors -/

/-- What is wrong with a date. -/
structure DatetimeError where
  /-- The part that is wrong. -/
  part : String
  /-- What was expected in it. -/
  expected : Option String
deriving DecidableEq, Repr, Inhabited

/-- The wording of the error. -/
def DatetimeError.message (e : DatetimeError) : String :=
  match e.expected with
  | some expected => s!"invalid {e.part}, expected {expected}"
  | none => s!"invalid {e.part}"

/-- Readers of dates: they take pieces from the beginning of a text or fail. -/
abbrev DatetimeReader :=
  StateT (List Char) (Except DatetimeError)

namespace DatetimeReader

/-- Fails in a part because something else was expected. -/
def wanted {α : Type} (part expected : String) : DatetimeReader α :=
  throw ⟨part, some expected⟩

/-- Takes the next piece, if there is one. -/
def piece? : DatetimeReader (Option Piece) := do
  match Piece.first? (← get) with
  | some (p, rest) =>
    set rest
    return some p
  | none => return none

/-- Takes digits. -/
def someDigits (part expected : String) : DatetimeReader (List Char) := do
  match ← piece? with
  | some (.digits ds) => return ds
  | _ => wanted part expected

/-- Takes a mark. -/
def mark (c : Char) (part expected : String) : DatetimeReader Unit := do
  if (← piece?) == some (.mark c) then return () else wanted part expected

/-- Fails unless a condition holds. -/
def require (condition : Bool) (part expected : String) : DatetimeReader Unit :=
  if condition then return () else wanted part expected

end DatetimeReader

open DatetimeReader

/-! ### Parts of dates -/

/-- Two digits that write a number. -/
def twoDigits (n : Nat) : String :=
  if n < 10 then s!"0{n}" else s!"{n}"

/-- The rest of a date whose year was read. -/
def dateAfterYear (year : List Char) : DatetimeReader (List Char) := do
  let month ← someDigits "date" "month"
  mark '-' "date" "`-` (MM-DD)"
  let day ← someDigits "date" "day"
  require (year.length = 4) "date" "a four-digit year (YYYY)"
  require (month.length = 2) "date" "a two-digit month (MM)"
  require (day.length = 2) "date" "a two-digit day (DD)"
  let monthNumber := digitsValue 10 month
  require (1 ≤ monthNumber && monthNumber ≤ 12) "date" "month between 01 and 12"
  let dayNumber := digitsValue 10 day
  let last := daysIn (digitsValue 10 year) monthNumber
  require (1 ≤ dayNumber && dayNumber ≤ last) "date" ("day between 01 and " ++ twoDigits last)
  return year ++ '-' :: month ++ '-' :: day

/-- The digits after the point of a number of seconds, if there is a point. -/
def secondParts : DatetimeReader (List Char) := do
  match Piece.first? (← get) with
  | some (.mark '.', rest) =>
    set rest
    someDigits "time" "nanosecond"
  | _ => return []

/-- A time of the day. -/
def timeOfDay : DatetimeReader (List Char) := do
  let hour ← someDigits "time" "hour"
  mark ':' "time" "`:` (HH:MM)"
  let minute ← someDigits "time" "minute"
  mark ':' "time" "`:` (MM:SS)"
  let second ← someDigits "time" "second"
  let parts ← secondParts
  require (hour.length = 2) "time" "a two-digit hour (HH)"
  require (minute.length = 2) "time" "a two-digit minute (MM)"
  require (second.length = 2) "time" "a two-digit second (SS)"
  require (digitsValue 10 hour ≤ 23) "time" "hour between 00 and 23"
  require (digitsValue 10 minute ≤ 59) "time" "minute between 00 and 59"
  require (digitsValue 10 second ≤ 60) "time" "second between 00 and 60"
  return hour ++ ':' :: minute ++ ':' :: second ++ secondFraction parts

/-- The difference from the standard time after its sign.  None at all has the positive sign. -/
def hoursAndMinutes (sign : Char) : DatetimeReader (List Char) := do
  let hour ← someDigits "offset" "hour"
  mark ':' "offset" "`:` (HH:MM)"
  let minute ← someDigits "offset" "minute"
  require (hour.length = 2) "offset" "a two-digit hour (HH)"
  require (minute.length = 2) "offset" "a two-digit minute (MM)"
  require (digitsValue 10 hour ≤ 23) "offset" "hours between 00 and 23"
  require (digitsValue 10 minute ≤ 59) "offset" "minutes between 00 and 59"
  let isZero := digitsValue 10 (hour ++ minute) = 0
  return (if isZero then '+' else sign) :: hour ++ ':' :: minute

/-- The difference from the standard time, if it is given. -/
def differenceFromStandard : DatetimeReader (List Char) := do
  match ← piece? with
  | none => return []
  | some (.mark 'Z') => return ['Z']
  | some (.mark '+') => hoursAndMinutes '+'
  | some (.mark '-') => hoursAndMinutes '-'
  | some _ => wanted "offset" "`Z`, +OFFSET, -OFFSET"

/-- What follows a date: nothing, or a time. -/
def timeAfterDate : DatetimeReader (List Char) := do
  match ← piece? with
  | none => return []
  | some (.mark 'T') | some (.mark ' ') =>
    let time ← timeOfDay
    return 'T' :: time ++ (← differenceFromStandard)
  | some _ => wanted "date-time" "`T` between date and time"

/-- A date, a time or both.  What its first digits are shows in the mark after them. -/
def dateOrTime : DatetimeReader (List Char) := do
  let all ← get
  let ds ← someDigits "datetime" "year or hour"
  match ← piece? with
  | some (.mark '-') =>
    let date ← dateAfterYear ds
    return date ++ (← timeAfterDate)
  | some (.mark ':') =>
    set all
    timeOfDay
  | _ => wanted "datetime" "`-` (YYYY-MM) or `:` (HH:MM)"

/-- The date that a text is, written as dates outside of quotation marks are. -/
def datetimeOfText (text : String) : Except DatetimeError String := do
  let (cs, rest) ← dateOrTime.run text.toList
  if rest.isEmpty then return String.ofList cs else throw ⟨"datetime", none⟩

end SourceLint.Toml
