import Attest.Double

/-!
# The shortest decimal of a double

A finite, non-zero double is written with the fewest digits that read back to
it.  The numbers that round to it form an interval; of the decimal grids with
one, two, … seventeen digits the first with a point in that interval is taken,
and of two such points the one nearer to the number.
-/

namespace Attest.Double

/-- The number `digits · 10 ^ exponent`. -/
structure Decimal where
  digits : Nat
  exponent : Int
  deriving DecidableEq, Repr

/-- How often ten divides a number, together with what is left, for at most
`fuel` times. -/
def stripZeros : (fuel : Nat) → Decimal → Decimal
  | 0, d => d
  | fuel + 1, d =>
      if d.digits ≠ 0 ∧ d.digits % 10 = 0 then
        stripZeros fuel ⟨d.digits / 10, d.exponent + 1⟩
      else d

/-- The number of decimal digits of a number. -/
def digitCount (n : Nat) : Nat :=
  (Nat.toDigits 10 n).length

/-- The interval of numbers that round to a double and the double itself, all
three in units of `1 / unit` after scaling by `2 ^ scale`. -/
structure Neighbourhood where
  low : Nat
  middle : Nat
  high : Nat
  /-- What the three are divided by. -/
  unit : Nat
  /-- Whether the ends round to the double too. -/
  closed : Bool

/-- The neighbourhood of a finite double: half-way to the doubles next to it, the
lower one being nearer at a power of two. -/
def neighbourhood (x : Double) : Neighbourhood :=
  let m := x.significand
  let narrow := m = fractionUnit ∧ 1 < x.exponentField
  let low := if narrow then 4 * m - 1 else 4 * m - 2
  let power := x.scale - 2
  let up := Nat.pow 2 power.toNat
  let unit := Nat.pow 2 (-power).toNat
  ⟨low * up, 4 * m * up, (4 * m + 2) * up, unit, m % 2 = 0⟩

/-- Whether `digits · up / down` lies in the neighbourhood. -/
def Neighbourhood.contains (n : Neighbourhood) (digits up down : Nat) : Bool :=
  let point := digits * up * n.unit
  let low := n.low * down
  let high := n.high * down
  if n.closed then low ≤ point && point ≤ high else low < point && point < high

/-- The point of the grid of multiples of `10 ^ exponent` to take, if one lies in
the neighbourhood. -/
def Neighbourhood.gridPoint? (n : Neighbourhood) (exponent : Int) : Option Nat :=
  let up := Nat.pow 10 exponent.toNat
  let down := Nat.pow 10 (-exponent).toNat
  let below := n.middle * down / (n.unit * up)
  let above := below + 1
  let rest := n.middle * down - below * (n.unit * up)
  let belowFirst := 2 * rest < n.unit * up ∨ (2 * rest = n.unit * up ∧ below % 2 = 0)
  match n.contains below up down, n.contains above up down with
  | true, true => some (if belowFirst then below else above)
  | true, false => some below
  | false, true => some above
  | false, false => none

/-- The first grid with a point in the neighbourhood, among those whose multiples
count the number with `count`, `count + 1`, … digits. -/
def Neighbourhood.search (n : Neighbourhood) (leading : Int) :
    (fuel count : Nat) → Option Decimal
  | 0, _ => none
  | fuel + 1, count =>
      let exponent := leading + 1 - count
      match n.gridPoint? exponent with
      | some digits => if digits = 0 then n.search leading fuel (count + 1)
          else some ⟨digits, exponent⟩
      | none => n.search leading fuel (count + 1)

/-- The exponent of the first decimal digit of a positive quotient. -/
def leadingExponent (num den : Nat) : Int :=
  if den ≤ num then (digitCount (num / den) : Int) - 1
  else -(digitCount ((den - 1) / num) : Int)

/-- The shortest decimal that reads back to a finite, non-zero double. -/
def shortest (x : Double) : Decimal :=
  let n := x.neighbourhood
  match n.search (leadingExponent n.middle n.unit) 18 1 with
  | some d => stripZeros 20 d
  | none => ⟨x.significand, x.scale⟩

/-- A decimal in positional notation: `point` tells whether a whole number gets
`.0` at its end. -/
def positional (point : Bool) (d : Decimal) : List Char :=
  let text := Nat.toDigits 10 d.digits
  if 0 ≤ d.exponent then
    text ++ List.replicate d.exponent.toNat '0' ++ (if point then ['.', '0'] else [])
  else
    let places := (-d.exponent).toNat
    if places < text.length then
      text.take (text.length - places) ++ '.' :: text.drop (text.length - places)
    else '0' :: '.' :: List.replicate (places - text.length) '0' ++ text

/-- A decimal with one digit before the point and an exponent with its sign. -/
def scientific (d : Decimal) : List Char :=
  let text := Nat.toDigits 10 d.digits
  let leading := d.exponent + text.length - 1
  let fraction := match text.drop 1 with
    | [] => []
    | rest => '.' :: rest
  text.take 1 ++ fraction ++ 'e' :: (if 0 ≤ leading then '+' else '-') ::
    Nat.toDigits 10 leading.natAbs

/-- The sign in front of a number. -/
def signText (x : Double) : List Char :=
  if x.negative then ['-'] else []

/-- The text of a finite double in a document: positional when the first digit
stands between the fifth place after the point and the sixteenth before it. -/
def documentText (x : Double) : List Char :=
  if x.magnitude = 0 then x.signText ++ ['0', '.', '0']
  else
    let d := x.shortest
    let leading := d.exponent + digitCount d.digits - 1
    x.signText ++ (if -5 ≤ leading ∧ leading ≤ 15 then positional true d else scientific d)

/-- The text of any double in running text: positional, a whole number without a
point. -/
def plainText (x : Double) : List Char :=
  if x.isNaN then ['N', 'a', 'N']
  else if !x.isFinite then x.signText ++ ['i', 'n', 'f']
  else if x.magnitude = 0 then x.signText ++ ['0']
  else x.signText ++ positional false x.shortest

end Attest.Double
