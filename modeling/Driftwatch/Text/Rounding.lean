import Driftwatch.Text.Number

/-!
# Numbers of limited precision

Sizes are divided and decimal numbers are read with 53 significant binary digits. All of it is done
with whole numbers here: a number is rounded to the nearest one that has so many digits, and a half
goes to the even neighbour.

A decimal number is first reduced to a significand that fits a word and a power of ten. Digits that
no longer fit do not count.

## Main definitions

* `roundDiv`: a rounded quotient.
* `roundSignificand`: a number with 53 significant binary digits.
* `isOutOfRange`: whether a decimal number is too large for limited precision.
-/

namespace Driftwatch

/-- The quotient, rounded to the nearest whole number; a half goes to the even neighbour. -/
def roundDiv (n d : Nat) : Nat :=
  let quotient := n / d
  let twice := 2 * (n % d)
  if twice < d then quotient
  else if d < twice then quotient + 1
  else quotient + quotient % 2

/-- The number of binary digits of `n`. -/
def bitLength (n : Nat) : Nat :=
  if n = 0 then 0 else Nat.log2 n + 1

/-- The nearest number with at most 53 significant binary digits; a half goes to the even
neighbour. -/
def roundSignificand (n : Nat) : Nat :=
  let unit := 1 <<< (bitLength n - 53)
  roundDiv n unit * unit

/-- The least number that is rounded to one with 1025 binary digits. -/
def rangeLimit : Nat :=
  (1 <<< 1024) - (1 <<< 970)

/-- The largest power of ten that is within the range. -/
def largestExponent : Nat :=
  308

/-- The number that digits stand for when they follow those of `value`, as far as a word holds it,
and the number of digits that are left out. -/
def extendWord (value : Nat) : List Char → Nat × Nat
  | [] => (value, 0)
  | c :: digits =>
    let longer := value * 10 + (c.toNat - '0'.toNat)
    if longer < wordLimit then extendWord longer digits else (value, digits.length + 1)

/-- Whether a decimal number is too large. It is given by its digits before and after the point and
by its exponent. -/
def isOutOfRange (whole fraction : List Char) (exponent : Int) : Bool :=
  let (value, missing) := extendWord 0 whole
  let (value, unused) := extendWord value fraction
  let power := exponent + missing - (fraction.length - unused : Nat)
  value != 0 && 0 ≤ power &&
    (largestExponent < power ||
      rangeLimit ≤ roundSignificand value * roundSignificand (Nat.pow 10 power.toNat))

end Driftwatch
