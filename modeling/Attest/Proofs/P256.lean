import Attest.P256
import Attest.Proofs.Octets

/-!
# Points and scalars read back

A coordinate fits the width in which it is spelled, and so does a scalar; hence a point is
recovered from its uncompressed spelling, which states both coordinates, and a private key
from its scalar.
-/

namespace Attest.P256

variable {n : Nat}

@[simp]
theorem length_octetsOf (n : Nat) : (octetsOf n).length = width :=
  Octets.length_ofNat width n

theorem toNat_octetsOf (inField : n < prime) : Octets.toNat (octetsOf n) = n :=
  Octets.toNat_ofNat_of_lt (Nat.lt_trans inField (by decide))

theorem toNat_octetsOf_scalar (key : PrivateKey) :
    Octets.toNat (octetsOf key.scalar) = key.scalar :=
  Octets.toNat_ofNat_of_lt (Nat.lt_trans key.lt_order (by decide))

@[simp]
theorem Point.length_octets (point : Point) : point.octets.length = 65 := by
  rw [Point.octets, List.length_cons, List.length_append, length_octetsOf, length_octetsOf]
  rfl

@[simp]
theorem Point.ofCoordinates?_self (point : Point) :
    Point.ofCoordinates? point.x point.y = some point :=
  Point.ofCoordinates?_eq_some_iff.mpr ⟨rfl, rfl⟩

/-- Both coordinates can be cut out of the uncompressed spelling of a point. -/
theorem take_drop_octetsOf (x y : Nat) :
    (octetsOf x ++ octetsOf y).take width = octetsOf x ∧
      (octetsOf x ++ octetsOf y).drop width = octetsOf y :=
  ⟨List.take_left' (length_octetsOf x), List.drop_left' (length_octetsOf x)⟩

/-- A point is recovered from its uncompressed spelling. -/
@[simp]
theorem Point.ofOctets?_octets (point : Point) : Point.ofOctets? point.octets = some point := by
  have long : (octetsOf point.x ++ octetsOf point.y).length = 2 * width := by
    rw [List.length_append, length_octetsOf, length_octetsOf, Nat.two_mul]
  obtain ⟨first, second⟩ := take_drop_octetsOf point.x point.y
  rw [Point.octets, Point.ofOctets?, if_pos long, first, second, toNat_octetsOf point.x_lt,
    toNat_octetsOf point.y_lt, Point.ofCoordinates?_self]

/-- The uncompressed spelling of a point states both coordinates in full width. -/
theorem coordinateOctets?_octets (point : Point) :
    coordinateOctets? point.octets = some (octetsOf point.x, octetsOf point.y) := by
  obtain ⟨first, second⟩ := take_drop_octetsOf point.x point.y
  rw [Point.octets, coordinateOctets?, first, second]

/-- A private key is recovered from its scalar. -/
@[simp]
theorem PrivateKey.ofScalar?_scalar (key : PrivateKey) :
    PrivateKey.ofScalar? key.scalar = some key := by
  obtain ⟨scalar, point, positive, small, derived⟩ := key
  rw [PrivateKey.ofScalar?, dif_pos ⟨positive, small⟩]
  split
  · next other otherDerived =>
      rw [derived] at otherDerived
      cases otherDerived
      rfl
  · next none =>
      rw [derived] at none
      cases none

end Attest.P256
