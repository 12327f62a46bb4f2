import SourceLint.Text.Split
import SourceLint.Text.Utf8

/-!
# Readers

A reader takes characters from the beginning of a text.  When it fails, the text up to the place of the
failure counts as read; whether another reader is tried instead depends on whether the failure is final.

* **`Failure`** — where a reader stopped and what it would have taken.
* **`Reader`** — the readers, with `orElse`, `optional`, `repeated`, `separated` to combine them.
-/

namespace SourceLint.Toml

open SourceLint.Text

/-- A part of a text, given by byte offsets. -/
structure Stretch where
  start : Nat
  stop : Nat
deriving DecidableEq, Repr, Inhabited

/-- Where reading goes on. -/
structure Input where
  offset : Nat
  rest : List Char
deriving Inhabited

/-- Why and where a reader stopped. -/
structure Failure where
  /-- No other reader is tried. -/
  final : Bool
  place : Nat
  /-- What could not be read. -/
  label : Option String
  /-- What might have come next. -/
  expected : List String
  /-- What is wrong with what was read. -/
  cause : Option String
deriving DecidableEq, Repr, Inhabited

/-- The wording of the failure. -/
def Failure.message (f : Failure) : String :=
  let label := f.label.map fun l => s!"invalid {l}"
  let expected :=
    if f.expected.isEmpty then none else some ("expected " ++ String.intercalate ", " f.expected)
  String.intercalate "\n" (label.toList ++ expected.toList ++ f.cause.toList)

/-- Readers: they advance in the text or fail. -/
abbrev Reader :=
  StateT Input (Except Failure)

namespace Reader

/-- Fails here without a reason. -/
def fail {α : Type} : Reader α := fun i =>
  .error ⟨false, i.offset, none, [], none⟩

/-- What is still to be read. -/
def remaining : Reader (List Char) := do
  return (← get).rest

/-- The number of bytes read so far. -/
def offset : Reader Nat := do
  return (← get).offset

/-- Takes the given characters from the beginning of what is still to be read. -/
def advance (cs : List Char) : Reader Unit :=
  modify fun i => ⟨i.offset + byteLength cs, i.rest.drop cs.length⟩

/-- Takes the next character. -/
def any : Reader Char := do
  match ← remaining with
  | c :: _ =>
    advance [c]
    return c
  | [] => fail

/-- Takes the next character if it is one of those wanted. -/
def oneOf (p : Char → Bool) : Reader Char := do
  match ← remaining with
  | c :: _ =>
    if p c then
      advance [c]
      return c
    else
      fail
  | [] => fail

/-- Takes the given character. -/
def char (c : Char) : Reader Unit := do
  let _ ← oneOf (· == c)

/-- Takes the given text. -/
def text (t : String) : Reader Unit := do
  let cs := t.toList
  if cs.isPrefixOf (← remaining) then advance cs else fail

/-- Takes characters as long as they are wanted. -/
def takeWhile (p : Char → Bool) : Reader (List Char) := do
  let cs := (← remaining).takeWhile p
  advance cs
  return cs

/-- Takes characters as long as they are wanted, at least one. -/
def takeSome (p : Char → Bool) : Reader (List Char) := do
  let cs ← takeWhile p
  if cs.isEmpty then fail else return cs

/-- Takes exactly the given number of wanted characters. -/
def takeCount (count : Nat) (p : Char → Bool) : Reader (List Char) := do
  let cs := ((← remaining).take count).takeWhile p
  if cs.length = count then
    advance cs
    return cs
  else
    fail

/-- Takes nothing, at the end of the text. -/
def endOfText : Reader Unit := do
  if (← remaining).isEmpty then return () else fail

/-- Makes every failure of a reader final. -/
def commit {α : Type} (p : Reader α) : Reader α := fun i =>
  match p.run i with
  | .ok r => .ok r
  | .error f => .error { f with final := true }

/-- Says what a reader reads, unless it failed in something that is said already. -/
def labelled {α : Type} (label : String) (p : Reader α) : Reader α := fun i =>
  match p.run i with
  | .ok r => .ok r
  | .error f => .error { f with label := f.label <|> some label }

/-- Says what might have come where a reader failed. -/
def expecting {α : Type} (what : List String) (p : Reader α) : Reader α := fun i =>
  match p.run i with
  | .ok r => .ok r
  | .error f => .error { f with expected := f.expected ++ what }

/-- The second reader is tried where the first one fails. -/
def orElse {α : Type} (p q : Reader α) : Reader α := fun i =>
  match p.run i with
  | .ok r => .ok r
  | .error f => if f.final then .error f else q.run i

/-- The readers are tried one after the other. -/
def firstOf {α : Type} : List (Reader α) → Reader α
  | [] => fail
  | [p] => p
  | p :: ps => orElse p (firstOf ps)

/-- What the reader reads, if it does not fail. -/
def optional {α : Type} (p : Reader α) : Reader (Option α) := fun i =>
  match p.run i with
  | .ok (a, j) => .ok (some a, j)
  | .error f => if f.final then .error f else .ok (none, i)

/-- What the reader would read, without reading it. -/
def ahead {α : Type} (p : Reader α) : Reader α := fun i =>
  match p.run i with
  | .ok (a, _) => .ok (a, i)
  | .error f => .error f

/-- Takes what a reader reads, or stops at its beginning because something is wrong with it. -/
def checked {α β : Type} (p : Reader α) (check : α → Except (Option String) β) : Reader β := fun i =>
  match p.run i with
  | .ok (a, j) =>
    match check a with
    | .ok b => .ok (b, j)
    | .error cause => .error ⟨false, i.offset, none, [], cause⟩
  | .error f => .error f

/-- What a reader reads, and where. -/
def stretched {α : Type} (p : Reader α) : Reader (α × Stretch) := do
  let start ← offset
  let a ← p
  return (a, ⟨start, ← offset⟩)

/-- The characters that a reader reads. -/
def taken {α : Type} (p : Reader α) : Reader (List Char) := do
  let before ← remaining
  let _ ← p
  return before.take (before.length - (← remaining).length)

/-- Repeats a reader until it fails. -/
def repeatedWithin {α : Type} (p : Reader α) : (fuel : Nat) → Reader (List α)
  | 0 => return []
  | fuel + 1 => do
    match ← optional p with
    | some a => return a :: (← repeatedWithin p fuel)
    | none => return []

/-- Repeats a reader, which takes at least one character, until it fails. -/
def repeated {α : Type} (p : Reader α) : Reader (List α) := do
  repeatedWithin p (← remaining).length

/-- Repeats a reader at least once. -/
def repeatedSome {α : Type} (p : Reader α) : Reader (List α) := do
  let a ← p
  return a :: (← repeated p)

/-- At least one of what a reader reads, with separators between them. -/
def separatedSome {α : Type} (separator : Char) (p : Reader α) : Reader (List α) := do
  let a ← p
  return a :: (← repeated (do char separator; p))

/-- Any number of what a reader reads, with separators between them. -/
def separated {α : Type} (separator : Char) (p : Reader α) : Reader (List α) := do
  return (← optional (separatedSome separator p)).getD []

end Reader

end SourceLint.Toml
