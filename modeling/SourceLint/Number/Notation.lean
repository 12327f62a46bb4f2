import SourceLint.Number.Binary64

/-!
# The notation of floating point numbers

* **`Binary64.positional`** — all digits in their places, without an exponent.
* **`Binary64.compact`** — with an exponent where the number is very great or very small.
-/

namespace SourceLint.Binary64

/-- The sign of a number. -/
def signText (x : Binary64) : String :=
  if x.isNegative then "-" else ""

/-- Some zeros. -/
def zeros (n : Nat) : String :=
  String.ofList (List.replicate n '0')

/-- The number with a point after the given number of its digits. -/
def pointAfter (digits : String) (point : Int) : String :=
  let count : Int := digits.length
  if point ≤ 0 then s!"0.{zeros (-point).toNat}{digits}"
  else if point ≥ count then s!"{digits}{zeros (point - count).toNat}.0"
  else
    let cs := digits.toList
    s!"{String.ofList (cs.take point.toNat)}.{String.ofList (cs.drop point.toNat)}"

/-- The digits of the shortest decimal of a number, and where its point is. -/
def digitsAndPoint (x : Binary64) : String × Int :=
  let d := x.shortest
  let digits := toString d.digits
  (digits, digits.length + d.exponent)

/-- All digits in their places. -/
def positional (x : Binary64) : String :=
  if x.isInfinite then s!"{x.signText}inf"
  else if !x.isFinite then "NaN"
  else if x.scaled.1 = 0 then s!"{x.signText}0.0"
  else
    let (digits, point) := x.digitsAndPoint
    x.signText ++ pointAfter digits point

/-- Digits in their places if that needs few zeros, and else with an exponent. -/
def compact (x : Binary64) : String :=
  if x.scaled.1 = 0 then s!"{x.signText}0.0"
  else
    let (digits, point) := x.digitsAndPoint
    if -5 < point && point ≤ 16 then
      x.signText ++ pointAfter digits point
    else
      let rest := String.ofList (digits.toList.drop 1)
      let mantissa := String.ofList (digits.toList.take 1) ++ (if rest == "" then "" else s!".{rest}")
      let exponent := point - 1
      let exponentSign := if exponent < 0 then "" else "+"
      s!"{x.signText}{mantissa}e{exponentSign}{exponent}"

end SourceLint.Binary64
