/-!
# Numbers in texts

Whole numbers are read in a given base, and a plus sign may stand before them. The counts that the
program keeps are words of 64 bits, so a number that does not fit one is refused.

## Main definitions

* `wordLimit`, `signLimit`: the bounds of words without and with a sign.
* `digitsValue?`: the value of a run of digits.
* `readCount?`: a count with an optional plus sign.
* `signed`: the digits of an integer, always with a sign.
-/

namespace Driftwatch

/-- Counts are below this bound. -/
def wordLimit : Nat :=
  0x10000000000000000

/-- Differences of counts are from the negative of this bound up to below it. -/
def signLimit : Nat :=
  0x8000000000000000

/-- The value of a digit below the base. Letters of either case go on after nine. -/
def digitValue? (base : Nat) (c : Char) : Option Nat :=
  let value? :=
    if '0' ≤ c && c ≤ '9' then some (c.toNat - 48)
    else if 'a' ≤ c && c ≤ 'z' then some (c.toNat - 87)
    else if 'A' ≤ c && c ≤ 'Z' then some (c.toNat - 55)
    else none
  value?.filter (· < base)

/-- Continues reading digits after a number of value `value`. -/
def digitsValueFrom (base value : Nat) : List Char → Option Nat
  | [] => some value
  | c :: rest => (digitValue? base c).bind fun d => digitsValueFrom base (value * base + d) rest

/-- The value of a non-empty run of digits. -/
def digitsValue? (base : Nat) (digits : List Char) : Option Nat :=
  if digits.isEmpty then none else digitsValueFrom base 0 digits

/-- A count written in the given base. -/
def readWord? (base : Nat) (digits : List Char) : Option Nat :=
  (digitsValue? base digits).filter (· < wordLimit)

/-- A decimal count with an optional plus sign. -/
def readCount? : List Char → Option Nat
  | '+' :: digits => readWord? 10 digits
  | digits => readWord? 10 digits

/-- The decimal digits of `n`. -/
def decimal (n : Nat) : List Char :=
  Nat.toDigits 10 n

/-- The decimal digits of `n`, at least `width` of them. -/
def padDecimal (width n : Nat) : List Char :=
  let digits := decimal n
  List.replicate (width - digits.length) '0' ++ digits

/-- The digits of an integer with its sign. -/
def signed (n : Int) : List Char :=
  (if n < 0 then '-' else '+') :: decimal n.natAbs

/-- The digits of an integer, with a sign only below zero. -/
def integer (n : Int) : List Char :=
  if n < 0 then '-' :: decimal n.natAbs else decimal n.natAbs

end Driftwatch
