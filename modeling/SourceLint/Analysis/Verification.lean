import SourceLint.Edit.Substitution
import SourceLint.Rule.Basic

/-!
# Verification of examples

The description of a rule has examples.  This module runs the rule on them.

* **`ExampleFailure`** — the first example that does not do what it should.
* **`ownEdits`** — the edits of a single rule that are made together in a source file.
* **`correctOnce`** — a text after one pass of these edits.
* **`verifyExamples`** — whether all examples do what they should.
-/

namespace SourceLint

/-- What is wrong with an example. -/
inductive ExampleFailure where
  /-- The code cannot be parsed. -/
  | unparsable (rule code message : String)
  /-- Code that the rule should accept has violations at these offsets. -/
  | triggered (rule code : String) (offsets : List Nat)
  /-- The violations are not where the marks are. -/
  | markerMismatch (rule code : String) (expected found : List Nat)
  /-- The corrected text is not the expected one. -/
  | wrongCorrection (rule expected found : String)
  /-- The corrected text is corrected again. -/
  | notIdempotent (rule text : String)
deriving DecidableEq, Repr

/-- The wording of a list of offsets. -/
def offsetList (offsets : List Nat) : String :=
  "[" ++ String.intercalate ", " (offsets.map toString) ++ "]"

/-- The wording of the failure. -/
def ExampleFailure.message : ExampleFailure → String
  | unparsable rule code message => s!"[{rule}] example does not parse: {message}\n{code}"
  | triggered rule code offsets =>
    s!"[{rule}] non-triggering example produced violations at {offsetList offsets}\n{code}"
  | markerMismatch rule code expected found =>
    s!"[{rule}] expected violations at {offsetList expected}, found {offsetList found}\n{code}"
  | wrongCorrection rule expected found =>
    s!"[{rule}] correction mismatch\nexpected:\n{expected}\nfound:\n{found}"
  | notIdempotent rule text =>
    s!"[{rule}] correction is not idempotent, second pass changed:\n{text}"

/-- The text as a source file; `code` is the example to blame. -/
def parseExample (r : Rule) (code : String) (text : List Char) : Except ExampleFailure SourceFile :=
  match SourceFile.parse SourceFile.snippetPath text with
  | .ok source => .ok source
  | .error e => .error (.unparsable r.identifier code e.message)

/-- Whether a violation begins before another or at the same offset. -/
def Violation.beginsBy (a b : Violation) : Bool :=
  a.location.offset ≤ b.location.offset

/-- The offsets of violations in ascending order. -/
def sortedOffsets (vs : List Violation) : List Nat :=
  (vs.map (·.location.offset)).mergeSort fun a b => a ≤ b

/-- The offsets at which the rule reports the code of an example. -/
def exampleOffsets (r : Rule) (e : Example) : Except ExampleFailure (List Nat) := do
  let source ← parseExample r e.code e.text
  return sortedOffsets (r.check source)

/-- The edits of a rule for a source file, without those that cannot be used or come too late. -/
def ownEdits (r : Rule) (source : SourceFile) : List Substitution :=
  match r.correction with
  | none => []
  | some correct =>
    let vs := (r.check source).mergeSort Violation.beginsBy
    let proposals := vs.filterMap fun v => correct v source
    let usable := proposals.filter fun s => s.isValid source.text
    (acceptNonOverlapping (usable.map fun s => ((), s))).1.map (·.2)

/-- The text of a source file after one pass of the edits of a rule. -/
def correctedText (r : Rule) (source : SourceFile) : List Char :=
  match r.correction with
  | none => source.text
  | some _ =>
    match applySubstitutions source.text (ownEdits r source) with
    | .ok text => text
    | .error e => e.message.toList

/-- A text after one pass of the edits of a rule. -/
def correctOnce (r : Rule) (code : String) (text : List Char) : Except ExampleFailure (List Char) := do
  return correctedText r (← parseExample r code text)

/-- Checks code that the rule should accept. -/
def verifyNonTriggering (r : Rule) (e : Example) : Except ExampleFailure Unit := do
  let offsets ← exampleOffsets r e
  unless offsets.isEmpty do
    throw (.triggered r.description.identifier e.code offsets)

/-- The violations are at the marks, or there is exactly one if there are no marks. -/
def agrees (expected found : List Nat) : Bool :=
  if expected.isEmpty then found.length == 1 else found == expected

/-- Checks code that the rule should report. -/
def verifyTriggering (r : Rule) (e : Example) : Except ExampleFailure Unit := do
  let found ← exampleOffsets r e
  unless agrees e.markers found do
    throw (.markerMismatch r.description.identifier e.code e.markers found)

/-- Checks code that the rule should correct. -/
def verifyCorrection (r : Rule) (pair : Example × Example) : Except ExampleFailure Unit := do
  let (before, after) := pair
  let found ← correctOnce r before.code before.text
  unless found == after.text do
    throw (.wrongCorrection r.description.identifier (String.ofList after.text) (String.ofList found))
  let again ← correctOnce r after.code found
  unless again == found do
    throw (.notIdempotent r.description.identifier (String.ofList found))

/-- Checks the elements of a list one after the other. -/
def verifyEach {α : Type} (verify : α → Except ExampleFailure Unit) :
    List α → Except ExampleFailure Unit
  | [] => .ok ()
  | a :: as => do verify a; verifyEach verify as

/-- Checks all examples in the description of a rule. -/
def verifyExamples (r : Rule) : Except ExampleFailure Unit := do
  verifyEach (verifyNonTriggering r) r.description.nonTriggering
  verifyEach (verifyTriggering r) r.description.triggering
  verifyEach (verifyCorrection r) r.description.corrections

end SourceLint
