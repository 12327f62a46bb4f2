import SourceLint.Number.Binary64

/-!
# Numerals

A numeral is a whole number as long as it has neither a point nor an exponent and fits into 64 bits.
Any other is a floating point number, read in two steps: as many digits as fit into 64 bits make a
number, which is then multiplied or divided by a power of ten.  Each step rounds, so that the result of
a long numeral may be off by its last bit.

* **`Binary64.times`**, **`Binary64.dividedBy`** — product and quotient, rounded to the nearest number.
* **`Binary64.ofParts`** — digits times a power of ten.
* **`Numeral`** — a numeral in parts, with **`Numeral.float`** and **`Numeral.integer?`**.
-/

namespace SourceLint

namespace Binary64

/-- The number nearest to a quotient of which the denominator is not zero. -/
def ofQuotient (num den : Nat) : Binary64 :=
  if num = 0 then ofMagnitude false 0 else ofMagnitude false (magnitudeOfQuotient num den)

/-- The absolute value of the product of two finite numbers. -/
def times (x y : Binary64) : Binary64 :=
  let (m, e) := x.scaled
  let (m', e') := y.scaled
  let (n, d) := powerFraction 2 (e + e')
  ofQuotient (m * m' * n) d

/-- The absolute value of the quotient of two finite numbers of which the second is not zero. -/
def dividedBy (x y : Binary64) : Binary64 :=
  let (m, e) := x.scaled
  let (m', e') := y.scaled
  let (n, d) := powerFraction 2 (e - e')
  ofQuotient (m * n) (m' * d)

/-- The greatest power of ten that a floating point number comes near to. -/
def greatestPower : Nat := 308

/-- The floating point number nearest to a power of ten. -/
def powerOfTen (exponent : Nat) : Binary64 :=
  ofDecimal false 1 exponent

/-- A number times a power of ten.  Where that is smaller than any floating point number it is divided by
the greatest one first; after three times nothing is left of any number of 64 bits. -/
def scaledByTen (x : Binary64) (exponent : Int) : (fuel : Nat) → Binary64
  | 0 => ofMagnitude false 0
  | fuel + 1 =>
    if exponent ≥ 0 then
      if exponent > greatestPower then infinity false else x.times (powerOfTen exponent.toNat)
    else if exponent ≥ -(greatestPower : Int) then x.dividedBy (powerOfTen (-exponent).toNat)
    else scaledByTen (x.dividedBy (powerOfTen greatestPower)) (exponent + greatestPower) fuel

/-- Digits times a power of ten, with a sign. -/
def ofParts (negative : Bool) (digits : Nat) (exponent : Int) : Binary64 :=
  if digits = 0 then ofMagnitude negative 0
  else
    let x := scaledByTen (ofDecimal false digits 0) exponent 4
    ofMagnitude negative x.bits.toNat

end Binary64

/-- A numeral in parts. -/
structure Numeral where
  isNegative : Bool
  /-- The digits before the point. -/
  whole : List Char
  /-- The digits after the point, if there is one. -/
  fraction : Option (List Char)
  exponent : Option Int
deriving DecidableEq, Repr

namespace Numeral

/-- Adds digits to a number as long as it fits into 64 bits; the digits that are left. -/
def addDigits (number : Nat) : List Char → Nat × List Char
  | [] => (number, [])
  | c :: cs =>
    let next := number * 10 + (c.toNat - '0'.toNat)
    if next < twoTo 64 then addDigits next cs else (number, c :: cs)

/-- The floating point number that a numeral stands for. -/
def float (n : Numeral) : Binary64 :=
  let (digits, before) := addDigits 0 n.whole
  let fraction := n.fraction.getD []
  let (digits, after) := addDigits digits fraction
  let places : Int := fraction.length - after.length
  .ofParts n.isNegative digits (before.length - places + n.exponent.getD 0)

/-- The whole number that a numeral stands for, if it is one that fits into 64 bits.  Zero with a sign is
none. -/
def integer? (n : Numeral) : Option Int :=
  match n.fraction, n.exponent, addDigits 0 n.whole with
  | none, none, (value, []) =>
    if !n.isNegative then some value
    else if value != 0 && value ≤ twoTo 63 then some (-value)
    else none
  | _, _, _ => none

end Numeral

end SourceLint
