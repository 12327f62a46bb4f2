/-!
# Binary floating point numbers

Numbers of 64 bits: a sign, eleven bits of exponent and 52 bits of fraction.

* **`Binary64.scaled`** — a finite number as a natural number times a power of two.
* **`Binary64.ofDecimal`** — the number nearest to a decimal; of two equally near ones the even one.
* **`Binary64.shortest`** — the fewest decimal digits from which a number can be read back, and of these
  the nearest to it.
-/

namespace SourceLint

/-- A power of two. -/
def twoTo (exponent : Nat) : Nat :=
  Nat.pow 2 exponent

/-- A floating point number, given by its bits. -/
structure Binary64 where
  bits : UInt64
deriving DecidableEq, Repr, Inhabited

namespace Binary64

/-! ### The parts of a number -/

/-- The number is below zero, or the zero with a sign. -/
def isNegative (x : Binary64) : Bool :=
  x.bits.toNat ≥ twoTo 63

/-- The bits of the exponent. -/
def exponentBits (x : Binary64) : Nat :=
  x.bits.toNat / twoTo 52 % twoTo 11

/-- The bits of the fraction. -/
def fractionBits (x : Binary64) : Nat :=
  x.bits.toNat % twoTo 52

/-- The number stands for a value: it is neither infinite nor the result of a senseless operation. -/
def isFinite (x : Binary64) : Bool :=
  x.exponentBits != 2047

/-- The number is infinite. -/
def isInfinite (x : Binary64) : Bool :=
  x.exponentBits == 2047 && x.fractionBits == 0

/-- The absolute value of a finite number is the first part times two to the power of the second. -/
def scaled (x : Binary64) : Nat × Int :=
  if x.exponentBits = 0 then (x.fractionBits, -1074)
  else (twoTo 52 + x.fractionBits, (x.exponentBits : Int) - 1075)

/-- The bits with a sign. -/
def ofMagnitude (negative : Bool) (magnitude : Nat) : Binary64 :=
  ⟨UInt64.ofNat ((if negative then twoTo 63 else 0) + magnitude)⟩

/-- The bits of infinity without its sign. -/
def infinityMagnitude : Nat := 2047 * twoTo 52

/-- An infinite number. -/
def infinity (negative : Bool) : Binary64 :=
  ofMagnitude negative infinityMagnitude

/-- The result of a senseless operation. -/
def nan (negative : Bool) : Binary64 :=
  ofMagnitude negative (infinityMagnitude + twoTo 51)

/-! ### From decimals -/

/-- The power of a base as the numerator and the denominator of a fraction. -/
def powerFraction (base : Nat) (exponent : Int) : Nat × Nat :=
  (base.pow exponent.toNat, base.pow (-exponent).toNat)

/-- The quotient rounded to the nearest natural number, from the middle to the even one. -/
def roundQuotient (num den : Nat) : Nat :=
  let q := num / den
  let r := num % den
  if 2 * r < den then q
  else if 2 * r = den && q % 2 = 0 then q
  else q + 1

/-- The exponent of the last bit of the quotient of two positive numbers. -/
def lastBitExponent (num den : Nat) : Int :=
  let estimate : Int := (Nat.log2 num : Int) - Nat.log2 den - 52
  -- The estimate is exact, or one too great when the leading bits make the quotient smaller.
  let (n, d) := powerFraction 2 estimate
  let e := if num * d < twoTo 52 * (den * n) then estimate - 1 else estimate
  max e (-1074)

/-- The bits of the number nearest to a quotient of two positive numbers. -/
def magnitudeOfQuotient (num den : Nat) : Nat :=
  let e := lastBitExponent num den
  let (n, d) := powerFraction 2 e
  let q := roundQuotient (num * d) (den * n)
  let (q, e) := if q = twoTo 53 then (twoTo 52, e + 1) else (q, e)
  if e > 971 then infinityMagnitude
  else if q < twoTo 52 then q
  else (e + 1075).toNat * twoTo 52 + (q - twoTo 52)

/-- The number nearest to `digits` times ten to the power of the exponent. -/
def ofDecimal (negative : Bool) (digits : Nat) (exponent : Int) : Binary64 :=
  let size : Int := (toString digits).length + exponent
  if digits = 0 || size < -330 then ofMagnitude negative 0
  else if size > 310 then infinity negative
  else
    let (n, d) := powerFraction 10 exponent
    ofMagnitude negative (magnitudeOfQuotient (digits * n) d)

/-! ### To decimals -/

/-- A positive decimal: `digits` times ten to the power of the exponent. -/
structure Decimal where
  digits : Nat
  exponent : Int
deriving DecidableEq, Repr

/-- The decimals from which a number is read back: those between the bounds, which are given in
quarters of the last bit of the number; the bounds are included where `closed` says so. -/
structure Interval where
  /-- Four times the number, its lower bound and its upper bound, in units of the last bit. -/
  center : Nat
  lower : Nat
  upper : Nat
  /-- The exponent of the last bit. -/
  exponent : Int
  closed : Bool

/-- The decimals from which a finite positive number is read back. -/
def interval (x : Binary64) : Interval :=
  let (m, e) := x.scaled
  let half := if x.fractionBits = 0 && x.exponentBits > 1 then 1 else 2
  ⟨4 * m, 4 * m - half, 4 * m + 2, e, m % 2 = 0⟩

/-- A decimal and quarters of the last bit over a common denominator. -/
def Interval.compareScale (i : Interval) (d : Decimal) : Nat × Nat :=
  let (tn, td) := powerFraction 10 d.exponent
  let (un, ud) := powerFraction 2 i.exponent
  (4 * d.digits * tn * ud, un * td)

/-- The number is read back from the decimal. -/
def Interval.contains (i : Interval) (d : Decimal) : Bool :=
  let (value, unit) := i.compareScale d
  if i.closed then i.lower * unit ≤ value && value ≤ i.upper * unit
  else i.lower * unit < value && value < i.upper * unit

/-- How far the decimal is from the number, over a denominator that its exponent determines. -/
def Interval.distance (i : Interval) (d : Decimal) : Nat :=
  let (value, unit) := i.compareScale d
  let center := i.center * unit
  (value - center) + (center - value)

/-- The exponent of the leading decimal digit of a quotient of two positive numbers. -/
def leadingExponent (num den : Nat) : Int :=
  let estimate : Int := ((toString num).length : Int) - (toString den).length
  let (n, d) := powerFraction 10 estimate
  if num * d < den * n then estimate - 1 else estimate

/-- The decimal next below or at the number with the given exponent. -/
def floorDecimal (x : Binary64) (exponent : Int) : Decimal :=
  let (m, e) := x.scaled
  let (un, ud) := powerFraction 2 e
  let (tn, td) := powerFraction 10 exponent
  ⟨m * un * td / (ud * tn), exponent⟩

/-- The decimal with the given number of digits that reads back as the number and is nearest to it, if
there is one. -/
def nearestWith? (x : Binary64) (leading : Int) (count : Nat) : Option Decimal :=
  let i := x.interval
  let below := x.floorDecimal (leading + 1 - count)
  let above : Decimal := { below with digits := below.digits + 1 }
  match i.contains below, i.contains above with
  | true, true => some (if i.distance below ≤ i.distance above then below else above)
  | true, false => some below
  | false, true => some above
  | false, false => none

/-- The decimal with the fewest digits, at least `count`, that reads back as the number. -/
def shortestFrom (x : Binary64) (leading : Int) (count : Nat) : (fuel : Nat) → Decimal
  | 0 => x.floorDecimal (leading + 1 - count)
  | fuel + 1 =>
    match x.nearestWith? leading count with
    | some d => d
    | none => shortestFrom x leading (count + 1) fuel

/-- The decimal without zeros at its end. -/
def stripZeros (d : Decimal) : (fuel : Nat) → Decimal
  | 0 => d
  | fuel + 1 =>
    if d.digits != 0 && d.digits % 10 = 0 then
      stripZeros ⟨d.digits / 10, d.exponent + 1⟩ fuel
    else d

/-- The fewest digits from which a finite number other than zero can be read back: seventeen always
suffice. -/
def shortest (x : Binary64) : Decimal :=
  let (m, e) := x.scaled
  let (n, d) := powerFraction 2 e
  stripZeros (shortestFrom x (leadingExponent (m * n) d) 1 17) 20

end Binary64

end SourceLint
