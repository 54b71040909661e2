/-
# Binary floating point numbers

The numbers of the 64-bit binary format: a sign, a significand below `2 ^ 53`
and a power of two, the two infinities, and one value that is not a number.
Every operation computes exactly with natural numbers and rounds once, to the
nearest number and to an even significand on a tie.

## Main definitions

* `Binary64` - the numbers.
* `Binary64.ofRatio` - the number nearest to a quotient.
* `Binary64.ofScientific` - the number nearest to a decimal numeral.
* `Binary64.add`, `Binary64.mul` - correctly rounded arithmetic.
-/

namespace EntryPoint.Decimal

/-- A number of the 64-bit binary format. A finite number is `significand * 2 ^ exponent`. -/
inductive Binary64
  | finite (negative : Bool) (significand : Nat) (exponent : Int)
  | infinite (negative : Bool)
  | notANumber
  deriving DecidableEq, Inhabited

namespace Binary64

/-- The exponent of the smallest numbers. -/
def minExponent : Int := -1074

/-- The exponent of the largest numbers. -/
def maxExponent : Int := 971

/-- The zero of a sign. -/
def zero (negative : Bool) : Binary64 :=
  .finite negative 0 minExponent

/-- The least significand of 53 bits. -/
def leastNormal : Nat := 0x10000000000000

/-- `numerator / denominator * 2 ^ (-exponent)` as a quotient of natural numbers. -/
def scaledRatio (numerator denominator : Nat) (exponent : Int) : Nat × Nat :=
  if 0 ≤ exponent then (numerator, denominator * Nat.pow 2 exponent.toNat)
  else (numerator * Nat.pow 2 (-exponent).toNat, denominator)

/-- The integer nearest to a quotient; a tie goes to the even one. -/
def roundHalfEven (numerator denominator : Nat) : Nat :=
  let quotient := numerator / denominator
  let twice := 2 * (numerator % denominator)
  if twice < denominator then quotient
  else if denominator < twice then quotient + 1
  else quotient + quotient % 2

/-- The exponent at which the significand of a quotient has 53 bits, or the least exponent. -/
def exponentFor (numerator denominator : Nat) : Int :=
  let guess : Int := (numerator.log2 : Int) - denominator.log2 - 52
  let (scaled, unit) := scaledRatio numerator denominator guess
  max minExponent (if scaled / unit < leastNormal then guess - 1 else guess)

/-- The number nearest to `numerator / denominator` with the given sign. -/
def ofRatio (negative : Bool) (numerator denominator : Nat) : Binary64 :=
  if numerator = 0 then zero negative
  else
    let exponent := exponentFor numerator denominator
    let (scaled, unit) := scaledRatio numerator denominator exponent
    let significand := roundHalfEven scaled unit
    let (significand, exponent) :=
      if significand = 2 * leastNormal then (leastNormal, exponent + 1) else (significand, exponent)
    if maxExponent < exponent then .infinite negative
    else .finite negative significand exponent

/-- The number nearest to `digits * 10 ^ exponent` with the given sign. A numeral far outside the
range of the format is decided by its magnitude alone. -/
def ofScientific (negative : Bool) (digits : Nat) (exponent : Int) : Binary64 :=
  if digits = 0 then zero negative
  else
    let magnitude : Int := (digits.log2 : Int) * 30103 / 100000 + exponent
    if 400 < magnitude then .infinite negative
    else if magnitude < -400 then zero negative
    else if 0 ≤ exponent then ofRatio negative (digits * Nat.pow 10 exponent.toNat) 1
    else ofRatio negative digits (Nat.pow 10 (-exponent).toNat)

/-- The number nearest to an integer. -/
def ofInt (n : Int) : Binary64 :=
  ofRatio (n < 0) n.natAbs 1

/-- The number nearest to `n * 2 ^ exponent`; an exact zero is positive. -/
def ofScaled (n : Int) (exponent : Int) : Binary64 :=
  let (numerator, denominator) := scaledRatio n.natAbs 1 (-exponent)
  ofRatio (n < 0) numerator denominator

/-- The number with the opposite sign. -/
def neg : Binary64 → Binary64
  | .finite negative significand exponent => .finite (!negative) significand exponent
  | .infinite negative => .infinite (!negative)
  | .notANumber => .notANumber

/-- The significand with its sign. -/
def signed (negative : Bool) (significand : Nat) : Int :=
  if negative then -(significand : Int) else significand

/-- The rounded sum. -/
def add : Binary64 → Binary64 → Binary64
  | .finite s m p, .finite t n q =>
    if m = 0 ∧ n = 0 then zero (s && t)
    else
      let low := min p q
      ofScaled (signed s (m * Nat.pow 2 (p - low).toNat) + signed t (n * Nat.pow 2 (q - low).toNat))
        low
  | .infinite s, .infinite t => if s = t then .infinite s else .notANumber
  | .infinite s, .finite .. => .infinite s
  | .finite .., .infinite t => .infinite t
  | _, _ => .notANumber

/-- The rounded product. -/
def mul : Binary64 → Binary64 → Binary64
  | .finite s m p, .finite t n q =>
    if m * n = 0 then zero (s != t) else ofScaled (signed s m * signed t n) (p + q)
  | .infinite s, .infinite t => .infinite (s != t)
  | .infinite s, .finite t n _ => if n = 0 then .notANumber else .infinite (s != t)
  | .finite s m _, .infinite t => if m = 0 then .notANumber else .infinite (s != t)
  | _, _ => .notANumber

/-- Whether the number is zero, of either sign. -/
def isZero : Binary64 → Bool
  | .finite _ significand _ => significand = 0
  | _ => false

/-- The integer that the number equals, if there is one. -/
def toInt? : Binary64 → Option Int
  | .finite negative significand exponent =>
    if 0 ≤ exponent then some (signed negative (significand * Nat.pow 2 exponent.toNat))
    else if significand % Nat.pow 2 (-exponent).toNat = 0 then
      some (signed negative (significand / Nat.pow 2 (-exponent).toNat))
    else none
  | _ => none

end Binary64

end EntryPoint.Decimal
