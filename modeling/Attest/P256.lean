import Attest.Modular
import Attest.Octets

/-!
# The curve P-256

Points are pairs of coordinates that lie on the curve `y² = x³ - 3x + b` over the
prime field; the point at infinity is no point.  Computation runs in Jacobian
coordinates, and what it yields is turned back into a pair that is checked to lie
on the curve.  A private key is a scalar between one and the order of the
generator together with its multiple of the generator.
-/

namespace Attest.P256

/-- The prime of the field. -/
def prime : Nat := 0xffffffff00000001000000000000000000000000ffffffffffffffffffffffff

/-- The order of the generator. -/
def order : Nat := 0xffffffff00000000ffffffffffffffffbce6faada7179e84f3b9cac2fc632551

/-- The constant of the curve equation. -/
def constant : Nat := 0x5ac635d8aa3a93e7b3ebbd55769886bc651d06b0cc53b0f63bce3c3e27d2604b

/-- The octets of a coordinate or scalar. -/
def width : Nat := 32

/-- The right-hand side of the curve equation. -/
def curveValue (x : Nat) : Nat :=
  (x * x * x + (prime - 3) * x + constant) % prime

/-- The curve equation. -/
def onCurve (x y : Nat) : Prop :=
  y * y % prime = curveValue x

instance (x y : Nat) : Decidable (onCurve x y) :=
  inferInstanceAs (Decidable (_ = _))

/-- A finite point of the curve. -/
structure Point where
  x : Nat
  y : Nat
  x_lt : x < prime
  y_lt : y < prime
  onCurve : onCurve x y
  deriving DecidableEq, Repr

/-- The point with the given coordinates, if it lies on the curve. -/
def Point.ofCoordinates? (x y : Nat) : Option Point :=
  if h : x < prime ∧ y < prime ∧ P256.onCurve x y then some ⟨x, y, h.1, h.2.1, h.2.2⟩ else none

theorem Point.ofCoordinates?_eq_some_iff {x y : Nat} {point : Point} :
    Point.ofCoordinates? x y = some point ↔ point.x = x ∧ point.y = y := by
  unfold Point.ofCoordinates?
  constructor
  · intro h
    split at h
    · cases h
      exact ⟨rfl, rfl⟩
    · cases h
  · rintro ⟨rfl, rfl⟩
    rw [dif_pos ⟨point.x_lt, point.y_lt, point.onCurve⟩]

/-- A point in Jacobian coordinates, `(x / z², y / z³)`; infinity when `z` is
zero. -/
structure Jacobian where
  x : Nat
  y : Nat
  z : Nat

namespace Jacobian

/-- The point at infinity. -/
def infinity : Jacobian := ⟨1, 1, 0⟩

/-- A finite point. -/
def ofPoint (point : Point) : Jacobian := ⟨point.x, point.y, 1⟩

/-- A difference in the field. -/
def minus (a b : Nat) : Nat := (a + (prime - b % prime)) % prime

/-- Twice a point. -/
def double (p : Jacobian) : Jacobian :=
  if p.z = 0 ∨ p.y = 0 then infinity
  else
    let delta := p.z * p.z % prime
    let gamma := p.y * p.y % prime
    let beta := p.x * gamma % prime
    let alpha := 3 * minus p.x delta * (p.x + delta) % prime
    let x := minus (alpha * alpha) (8 * beta)
    let z := minus (minus ((p.y + p.z) * (p.y + p.z)) gamma) delta
    let y := minus (alpha * minus (4 * beta) x) (8 * gamma * gamma)
    ⟨x, y, z⟩

/-- The sum of two points. -/
def add (p q : Jacobian) : Jacobian :=
  if p.z = 0 then q
  else if q.z = 0 then p
  else
    let pz := p.z * p.z % prime
    let qz := q.z * q.z % prime
    let u := p.x * qz % prime
    let v := q.x * pz % prime
    let s := p.y * q.z % prime * qz % prime
    let t := q.y * p.z % prime * pz % prime
    if u = v then
      if s = t then double p else infinity
    else
      let h := minus v u
      let r := minus t s
      let hh := h * h % prime
      let hhh := h * hh % prime
      let w := u * hh % prime
      let x := minus (r * r) (hhh + 2 * w)
      let y := minus (r * minus w x) (s * hhh)
      ⟨x, y, p.z * q.z % prime * h % prime⟩

/-- A multiple of a point, by doubling and adding. -/
def multiply (p : Jacobian) (k : Nat) : Jacobian :=
  if h : k = 0 then infinity
  else
    let doubled := (multiply p (k / 2)).double
    if k % 2 = 1 then add doubled p else doubled
termination_by k
decreasing_by omega

/-- The finite point with the same position, if there is one. -/
def toPoint? (p : Jacobian) : Option Point :=
  if p.z = 0 then none
  else
    let inverse := powMod prime p.z (prime - 2)
    let square := inverse * inverse % prime
    Point.ofCoordinates? (p.x * square % prime) (p.y * square % prime * inverse % prime)

end Jacobian

/-- The generator of the group of points. -/
def generator : Point where
  x := 0x6b17d1f2e12c4247f8bce6e563a440f277037d812deb33a0f4a13945d898c296
  y := 0x4fe342e2fe1a7f9b8ee7eb4a7c0f9e162bce33576b315ececbb6406837bf51f5
  x_lt := by decide
  y_lt := by decide
  onCurve := by decide

/-- A multiple of the generator. -/
def generatorMultiple? (scalar : Nat) : Option Point :=
  ((Jacobian.ofPoint generator).multiply scalar).toPoint?

/-- A scalar with the point that belongs to it. -/
structure PrivateKey where
  scalar : Nat
  point : Point
  positive : 0 < scalar
  lt_order : scalar < order
  derived : generatorMultiple? scalar = some point
  deriving DecidableEq, Repr

/-- The private key of a scalar, if it lies between one and the order. -/
def PrivateKey.ofScalar? (scalar : Nat) : Option PrivateKey :=
  if h : 0 < scalar ∧ scalar < order then
    match hpoint : generatorMultiple? scalar with
    | some point => some ⟨scalar, point, h.1, h.2, hpoint⟩
    | none => none
  else none

/-- A square root in the field, if there is one. -/
def squareRoot? (n : Nat) : Option Nat :=
  let root := powMod prime n ((prime + 1) / 4)
  if root * root % prime = n % prime then some root else none

/-- The point with the given first coordinate and a second one of the given
parity. -/
def Point.ofX? (x : Nat) (odd : Bool) : Option Point := do
  let root ← squareRoot? (curveValue x)
  let y := if (root % 2 == 1) == odd then root else (prime - root) % prime
  let point ← Point.ofCoordinates? x y
  if (point.y % 2 == 1) = odd then some point else none

/-- The point with the given first coordinate and the smaller second one. -/
def Point.ofXLeast? (x : Nat) : Option Point := do
  let root ← squareRoot? (curveValue x)
  Point.ofCoordinates? x (min root ((prime - root) % prime))

/-- A coordinate or scalar in its octets. -/
def octetsOf (n : Nat) : Octets :=
  Octets.ofNat width n

/-- The uncompressed spelling of a point. -/
def Point.octets (point : Point) : Octets :=
  0x04 :: (octetsOf point.x ++ octetsOf point.y)

/-- The compressed spelling of a point: its first coordinate and the parity of
the second. -/
def Point.compressedOctets (point : Point) : Octets :=
  (if point.y % 2 = 1 then 0x03 else 0x02) :: octetsOf point.x

/-- Read a point: uncompressed, compressed, or its first coordinate alone with
the smaller second coordinate understood. -/
def Point.ofOctets? : Octets → Option Point
  | 0x04 :: rest =>
      if rest.length = 2 * width then
        Point.ofCoordinates? (Octets.toNat (rest.take width)) (Octets.toNat (rest.drop width))
      else none
  | 0x02 :: rest => if rest.length = width then Point.ofX? (Octets.toNat rest) false else none
  | 0x03 :: rest => if rest.length = width then Point.ofX? (Octets.toNat rest) true else none
  | 0x05 :: rest => if rest.length = width then Point.ofXLeast? (Octets.toNat rest) else none
  | _ => none

/-- The octets of both coordinates in the spelling of a point.  A compressed spelling leaves
the second one out, and the point at infinity, spelled as a single zero, has none. -/
def coordinateOctets? : Octets → Option (Octets × Octets)
  | 0x04 :: rest => some (rest.take width, rest.drop width)
  | _ => none

end Attest.P256
