/-!
# Double-precision numbers

A double is its 64 bits.  A finite one is the exact number
`± significand · 2 ^ scale`, and every operation here is integer arithmetic on
that pair: a product, a quotient, a decimal or an integer is rounded once, to the
nearest double and on a tie to the even one; truncating and rounding to an integer
are exact.
-/

namespace Attest

/-- A double-precision number, given by its bits. -/
structure Double where
  /-- Sign bit, eleven bits of exponent and 52 bits of fraction. -/
  bits : UInt64
  deriving DecidableEq, Repr, Inhabited

namespace Double

/-- The sign bit. -/
def signBit : Nat := 0x8000000000000000

/-- The bit above the fraction: the unit of the exponent, and the leading digit of a
significand that has one. -/
def fractionUnit : Nat := 0x10000000000000

/-- Whether the sign bit is set. -/
def negative (x : Double) : Bool :=
  signBit ≤ x.bits.toNat

/-- The bits below the sign. -/
def magnitude (x : Double) : Nat :=
  x.bits.toNat % signBit

/-- The biased exponent. -/
def exponentField (x : Double) : Nat :=
  x.magnitude / fractionUnit

/-- The fraction bits. -/
def fractionField (x : Double) : Nat :=
  x.magnitude % fractionUnit

/-- Whether the bits stand for a number. -/
def isFinite (x : Double) : Bool :=
  x.exponentField < 2047

/-- Whether the bits stand for no number at all. -/
def isNaN (x : Double) : Bool :=
  x.exponentField = 2047 && x.fractionField ≠ 0

/-- The integer that is scaled by a power of two: fraction and hidden bit. -/
def significand (x : Double) : Nat :=
  if x.exponentField = 0 then x.fractionField else x.fractionField + fractionUnit

/-- The power of two by which the significand is scaled. -/
def scale (x : Double) : Int :=
  (max x.exponentField 1 : Nat) - 1075

/-- The double with the given sign and magnitude bits. -/
def ofMagnitude (negative : Bool) (magnitude : Nat) : Double :=
  ⟨UInt64.ofNat ((if negative then signBit else 0) + magnitude)⟩

/-- The magnitude bits of infinity. -/
def infinityMagnitude : Nat := 2047 * fractionUnit

/-- Infinity of the given sign. -/
def infinity (negative : Bool) : Double :=
  ofMagnitude negative infinityMagnitude

/-- The quiet number-free value. -/
def nan : Double := ⟨0x7FF8000000000000⟩

/-- A quotient rounded to the nearest integer, a tie going to the even one. -/
def roundHalfEven (num den : Nat) : Nat :=
  let quotient := num / den
  let twice := 2 * (num % den)
  if twice < den then quotient
  else if den < twice then quotient + 1
  else if quotient % 2 = 0 then quotient
  else quotient + 1

/-- The quotient `num / den` divided by `2 ^ power`, rounded to an integer. -/
def scaledQuotient (num den : Nat) (power : Int) : Nat :=
  if 0 ≤ power then roundHalfEven num (den * Nat.pow 2 power.toNat)
  else roundHalfEven (num * Nat.pow 2 (-power).toNat) den

/-- The power of two in which the significand of `num / den` counts: such that it
has 53 bits, but never below the least one. -/
def ratioScale (num den : Nat) : Int :=
  let estimate : Int := (num.log2 : Int) - den.log2 - 53
  let low := max estimate (-1074)
  if scaledQuotient num den low < 2 * fractionUnit then low else low + 1

/-- The double nearest to `± num / den`, infinity when that is beyond the range. -/
def ofRatio (negative : Bool) (num den : Nat) : Double :=
  if num = 0 then ofMagnitude negative 0
  else
    let scale := ratioScale num den
    let significand := scaledQuotient num den scale
    let magnitude := (scale + 1074).toNat * fractionUnit + significand
    ofMagnitude negative (min magnitude infinityMagnitude)

/-- The double nearest to an integer. -/
def ofInt (i : Int) : Double :=
  ofRatio (i < 0) i.natAbs 1

/-- The absolute value of a finite double as a quotient. -/
def fraction (x : Double) : Nat × Nat :=
  if 0 ≤ x.scale then (x.significand * Nat.pow 2 x.scale.toNat, 1)
  else (x.significand, Nat.pow 2 (-x.scale).toNat)

/-- The double nearest to the product of two finite ones. -/
def times (x y : Double) : Double :=
  ofRatio (x.negative != y.negative) (x.fraction.1 * y.fraction.1) (x.fraction.2 * y.fraction.2)

/-- The double nearest to the quotient of two finite ones, the second of which is not zero. -/
def dividedBy (x y : Double) : Double :=
  ofRatio (x.negative != y.negative) (x.fraction.1 * y.fraction.2) (x.fraction.2 * y.fraction.1)

/-- The double with the other sign. -/
def opposite (x : Double) : Double :=
  ofMagnitude (!x.negative) x.magnitude

/-- The double nearest to `± digits · 10 ^ exponent`. -/
def ofDecimal (negative : Bool) (digits : Nat) (exponent : Int) : Double :=
  if digits = 0 then ofMagnitude negative 0
  else if 400 ≤ exponent then infinity negative
  else if 0 ≤ exponent then ofRatio negative (digits * Nat.pow 10 exponent.toNat) 1
  else if (digits.log2 : Int) + 1200 < -exponent * 3 then ofMagnitude negative 0
  else ofRatio negative digits (Nat.pow 10 (-exponent).toNat)

/-- The absolute value rounded towards zero. -/
def floorMagnitude (x : Double) : Nat :=
  if 0 ≤ x.scale then x.significand * Nat.pow 2 x.scale.toNat
  else x.significand / Nat.pow 2 (-x.scale).toNat

/-- The absolute value rounded to the nearest integer, a half going up. -/
def roundMagnitude (x : Double) : Nat :=
  if 0 ≤ x.scale then x.significand * Nat.pow 2 x.scale.toNat
  else (2 * x.significand + Nat.pow 2 (-x.scale).toNat) / (2 * Nat.pow 2 (-x.scale).toNat)

/-- An absolute value with a sign. -/
def signed (negative : Bool) (magnitude : Nat) : Int :=
  if negative then -(magnitude : Int) else magnitude

/-- Rounded towards zero; infinity counts as its magnitude bits say, beyond every
integer of 64 bits. -/
def truncate (x : Double) : Int :=
  signed x.negative x.floorMagnitude

/-- Rounded to the nearest integer, a half going away from zero. -/
def round (x : Double) : Int :=
  signed x.negative x.roundMagnitude

/-- Equality of numbers: the two zeros are equal, and what is no number equals
nothing. -/
def sameNumber (x y : Double) : Bool :=
  !x.isNaN && !y.isNaN && (x.bits == y.bits || (x.magnitude = 0 && y.magnitude = 0))

end Double

/-- The least integer of 64 bits. -/
def leastInt64 : Int := -9223372036854775808

/-- The greatest integer of 64 bits. -/
def greatestInt64 : Int := 9223372036854775807

/-- The greatest unsigned integer of 64 bits. -/
def greatestUnsigned64 : Int := 18446744073709551615

/-- Whether an integer has 64 bits. -/
def fitsInt64 (i : Int) : Bool :=
  leastInt64 ≤ i && i ≤ greatestInt64

/-- The integer of 64 bits nearest to an integer. -/
def saturateInt64 (i : Int) : Int :=
  max leastInt64 (min greatestInt64 i)

end Attest
