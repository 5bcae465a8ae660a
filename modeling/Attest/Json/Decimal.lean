import Attest.Double

/-!
# Decimals in documents

A decimal in a document is not read as the double nearest to it.  As many of its leading
digits as 64 bits hold are taken as an integer, the other ones are dropped, and the integer
is rounded to a double; this is multiplied with a power of ten or divided by one, and
rounded again.  Up to 2 ^ 53 and 10 ^ 22 both steps are exact but for the last rounding; beyond
that the result may be next to the nearest double, and a decimal just inside the range of
doubles may be refused.
-/

namespace Attest

/-- The value of a decimal digit. -/
def Json.digitValue (c : Char) : Nat :=
  c.toNat - '0'.toNat

namespace Json.Decimal

/-- Push decimal digits onto a number of 64 bits as long as it stays one, and return it with
the digits that are left. -/
def pushDigits (number : Nat) : List Char → Nat × List Char
  | [] => (number, [])
  | c :: rest =>
      let next := number * 10 + digitValue c
      if next ≤ greatestUnsigned64.toNat then pushDigits next rest else (number, c :: rest)

/-- The greatest power of ten that is a double. -/
def greatestPower : Nat := 308

/-- A power of ten, up to the greatest. -/
def power (exponent : Nat) : Double :=
  Double.ofRatio false (Nat.pow 10 exponent) 1

/-- Divide so many times by the greatest power of ten, unless nothing is left before. -/
def shrink : (times : Nat) → Double → Double
  | 0, x => x
  | times + 1, x => if x.magnitude = 0 then x else shrink times (x.dividedBy (power greatestPower))

/-- A number times a power of ten, unless that is beyond the range of doubles. -/
def scaled? (number : Nat) (exponent : Int) : Option Double :=
  let x := Double.ofInt number
  if exponent < 0 then
    let times := ((-exponent).toNat - 1) / greatestPower
    some ((shrink times x).dividedBy (power ((-exponent).toNat - times * greatestPower)))
  else if exponent ≤ greatestPower then
    let product := x.times (power exponent.toNat)
    if product.isFinite then some product else none
  else if number = 0 then some x
  else none

/-- The number with the given digits before and after the point, times a power of ten.  Digits of
the whole part that are dropped still have their places, those of the fraction have none. -/
def value? (negative : Bool) (whole fraction : List Char) (exponent : Int) : Option Double :=
  let (number, dropped) := pushDigits 0 whole
  let (number, left) := pushDigits number fraction
  let places := fraction.length - left.length
  let x? := scaled? number (exponent + dropped.length - places)
  if negative then x?.map Double.opposite else x?

end Json.Decimal

end Attest
