import Attest.Proofs.P256
import Attest.Proofs.P256.Primes
import Mathlib.AlgebraicGeometry.EllipticCurve.Affine.Point
import Mathlib.FieldTheory.Finite.Basic
import Mathlib.GroupTheory.OrderOfElement
import Mathlib.Tactic.FieldSimp
import Mathlib.Tactic.LinearCombination

/-!
# The group of points

The points of the curve, with one at infinity, are a group.  Jacobian coordinates denote its
elements, and what is computed with them is the doubling, the addition and the multiplication of
the group.  The generator has prime order, so different scalars below the order have different
points: a private key is determined by its point.
-/

namespace Attest.P256

open WeierstrassCurve.Affine

/-! ## The curve over its field -/

/-- The field of coordinates. -/
abbrev BaseField := ZMod prime

/-- The curve over its field. -/
def curve : WeierstrassCurve.Affine BaseField := ⟨0, 0, 0, -3, constant⟩

theorem natCast_inj {a b : Nat} (a_lt : a < prime) (b_lt : b < prime) :
    (a : BaseField) = b ↔ a = b := by
  rw [ZMod.natCast_eq_natCast_iff', Nat.mod_eq_of_lt a_lt, Nat.mod_eq_of_lt b_lt]

theorem natCast_eq_zero {a : Nat} (a_lt : a < prime) : (a : BaseField) = 0 ↔ a = 0 := by
  rw [← Nat.cast_zero, natCast_inj a_lt (by decide)]

theorem two_ne_zero : (2 : BaseField) ≠ 0 := by
  have notZero : ((2 : Nat) : BaseField) ≠ 0 := (natCast_eq_zero (by decide)).not.mpr (by decide)
  exact_mod_cast notZero

theorem discriminant_ne_zero : curve.Δ ≠ 0 := by
  have value : curve.Δ = ((432 * (4 - constant * constant) : Int) : BaseField) := by
    simp only [curve, WeierstrassCurve.Δ, WeierstrassCurve.b₂, WeierstrassCurve.b₄,
      WeierstrassCurve.b₆, WeierstrassCurve.b₈]
    push_cast
    ring
  rw [value, ne_eq, ZMod.intCast_zmod_eq_zero_iff_dvd]
  decide +kernel

theorem negY_curve (x y : BaseField) : curve.negY x y = -y := by
  simp [negY, curve]

theorem addX_curve (x₁ x₂ slope : BaseField) : curve.addX x₁ x₂ slope = slope ^ 2 - x₁ - x₂ := by
  simp [addX, curve]

theorem addY_curve (x₁ x₂ y₁ slope : BaseField) :
    curve.addY x₁ x₂ y₁ slope = -(slope * (slope ^ 2 - x₁ - x₂ - x₁) + y₁) := by
  rw [addY, negY_curve, negAddY, addX_curve]

/-- The tangent at a point that is not its own opposite. -/
theorem slope_tangent {x y : BaseField} (tangent : y ≠ curve.negY x y) :
    curve.slope x x y y * (2 * y) = 3 * x ^ 2 - 3 := by
  have difference : y - curve.negY x y = 2 * y := by
    rw [negY_curve, sub_neg_eq_add, two_mul]
  have nonzero : 2 * y ≠ 0 := difference ▸ sub_ne_zero.mpr tangent
  rw [slope_of_Y_ne rfl tangent, difference, div_mul_cancel₀ _ nonzero]
  simp only [curve]
  ring

/-- The line through two points. -/
theorem slope_secant {x₁ x₂ : BaseField} (secant : x₁ ≠ x₂) (y₁ y₂ : BaseField) :
    curve.slope x₁ x₂ y₁ y₂ * (x₂ - x₁) = y₂ - y₁ := by
  rw [slope_of_X_ne secant, ← neg_sub y₂, ← neg_sub x₂, neg_div_neg_eq,
    div_mul_cancel₀ _ (sub_ne_zero.mpr secant.symm)]

/-- The points of the curve are those of the curve over its field. -/
theorem nonsingular_iff {x y : Nat} : curve.Nonsingular x y ↔ onCurve x y := by
  have three : ((prime - 3 : Nat) : BaseField) = -3 := by
    rw [Nat.cast_sub (by decide), ZMod.natCast_self]
    norm_num
  have left : (y : BaseField) ^ 2 + curve.a₁ * x * y + curve.a₃ * y =
      ((y * y : Nat) : BaseField) := by
    simp only [curve, Nat.cast_mul]
    ring
  have right : (x : BaseField) ^ 3 + curve.a₂ * x ^ 2 + curve.a₄ * x + curve.a₆ =
      ((x * x * x + (prime - 3) * x + constant : Nat) : BaseField) := by
    simp only [curve, Nat.cast_add, Nat.cast_mul, three]
    ring
  rw [← equation_iff_nonsingular_of_Δ_ne_zero discriminant_ne_zero, equation_iff, left, right,
    ZMod.natCast_eq_natCast_iff']
  rfl

/-- A point as an element of the group. -/
def Point.inGroup (point : Point) : curve.Point :=
  .some point.x point.y (nonsingular_iff.mpr point.onCurve)

/-! ## Jacobian coordinates -/

namespace Jacobian

@[simp]
theorem natCast_minus (a b : Nat) : ((minus a b : Nat) : BaseField) = a - b := by
  have below : b % prime ≤ prime := (Nat.mod_lt b (by decide)).le
  rw [minus, ZMod.natCast_mod, Nat.cast_add, Nat.cast_sub below, ZMod.natCast_self,
    ZMod.natCast_mod]
  ring

theorem minus_lt (a b : Nat) : minus a b < prime :=
  Nat.mod_lt _ (by decide)

/-- Coordinates denote an element of the group; the second one is reduced, since it is compared
with zero. -/
inductive Denotes (p : Jacobian) : curve.Point → Prop where
  | infinity (z_eq : p.z = 0) : Denotes p 0
  | finite {x y : BaseField} {nonsingular : curve.Nonsingular x y} (y_lt : p.y < prime)
      (z_ne : (p.z : BaseField) ≠ 0) (x_eq : (p.x : BaseField) = x * p.z ^ 2)
      (y_eq : (p.y : BaseField) = y * p.z ^ 3) : Denotes p (.some x y nonsingular)

variable {p q : Jacobian} {P Q : curve.Point}

theorem denotes_infinity : Denotes infinity 0 :=
  .infinity rfl

theorem denotes_ofPoint (point : Point) : Denotes (ofPoint point) point.inGroup := by
  refine .finite point.y_lt ?_ ?_ ?_
  · rw [ofPoint, Nat.cast_one]
    exact one_ne_zero
  · simp only [ofPoint, Nat.cast_one, one_pow, mul_one]
  · simp only [ofPoint, Nat.cast_one, one_pow, mul_one]

theorem z_ne_zero (z_ne : (p.z : BaseField) ≠ 0) : p.z ≠ 0 := by
  intro zero
  rw [zero, Nat.cast_zero] at z_ne
  exact z_ne rfl

/-- Coordinates whose last one is zero denote the point at infinity. -/
theorem Denotes.eq_zero (denotes : Denotes p P) (z_eq : p.z = 0) : P = 0 := by
  cases denotes with
  | infinity _ => rfl
  | finite _ z_ne _ _ => exact absurd z_eq (z_ne_zero z_ne)

-- In both operations the last coordinate of the result is a common factor of the numerators
-- and denominators; once the slope is free of its own denominator, what is left are
-- polynomial identities.
/-- Doubling coordinates doubles the element. -/
theorem Denotes.double (denotes : Denotes p P) : Denotes p.double (P + P) := by
  cases denotes with
  | infinity z_eq =>
      rw [Jacobian.double, if_pos (.inl z_eq), add_zero]
      exact denotes_infinity
  | @finite x y _ y_lt z_ne x_eq y_eq =>
      by_cases vertical : p.y = 0
      · have y_zero : y = 0 := by
          rw [vertical, Nat.cast_zero] at y_eq
          exact (mul_eq_zero.mp y_eq.symm).resolve_right (pow_ne_zero 3 z_ne)
        have opposite : y = curve.negY x y := by rw [negY_curve, y_zero, neg_zero]
        rw [Jacobian.double, if_pos (.inr vertical), Point.add_self_of_Y_eq opposite]
        exact denotes_infinity
      · have y_ne : y ≠ 0 := by
          rintro rfl
          rw [zero_mul, natCast_eq_zero y_lt] at y_eq
          exact vertical y_eq
        have tangent : y ≠ curve.negY x y := by
          rw [negY_curve, ne_eq, ← sub_eq_zero, sub_neg_eq_add, ← two_mul]
          exact mul_ne_zero two_ne_zero y_ne
        have line := slope_tangent tangent
        have denominator : ((p.y : BaseField) + p.z) * (p.y + p.z) - p.y * p.y - p.z * p.z =
            2 * y * p.z ^ 4 := by
          rw [y_eq]
          ring
        rw [Jacobian.double, if_neg (not_or.mpr ⟨z_ne_zero z_ne, vertical⟩),
          Point.add_self_of_Y_ne tangent]
        refine .finite (minus_lt _ _) ?_ ?_ ?_
        · push_cast [natCast_minus, ZMod.natCast_mod]
          rw [denominator]
          exact mul_ne_zero (mul_ne_zero two_ne_zero y_ne) (pow_ne_zero 4 z_ne)
        · push_cast [natCast_minus, ZMod.natCast_mod]
          rw [denominator, x_eq, y_eq, addX_curve]
          generalize curve.slope x x y y = slope at line
          linear_combination
            (-(slope * (2 * y) + 3 * x ^ 2 - 3) * (p.z : BaseField) ^ 8) * line
        · push_cast [natCast_minus, ZMod.natCast_mod]
          rw [denominator, x_eq, y_eq, addY_curve]
          generalize curve.slope x x y y = slope at line
          linear_combination ((-(12 * x * y ^ 2) + ((slope * (2 * y)) ^ 2 +
            slope * (2 * y) * (3 * x ^ 2 - 3) + (3 * x ^ 2 - 3) ^ 2)) *
              (p.z : BaseField) ^ 12) * line

/-- Coordinates of two points agree up to their denominators exactly if the points agree. -/
theorem scaled_eq_iff {a b c d : Nat} {v w : BaseField} {n : Nat} (p_ne : (p.z : BaseField) ≠ 0)
    (q_ne : (q.z : BaseField) ≠ 0) (left : (a : BaseField) * b = v * (p.z * q.z) ^ n)
    (right : (c : BaseField) * d = w * (p.z * q.z) ^ n) :
    a * b % prime = c * d % prime ↔ v = w := by
  rw [← ZMod.natCast_eq_natCast_iff', Nat.cast_mul, Nat.cast_mul, left, right,
    mul_left_inj' (pow_ne_zero n (mul_ne_zero p_ne q_ne))]

/-- Adding coordinates adds the elements. -/
theorem Denotes.add (denotesP : Denotes p P) (denotesQ : Denotes q Q) :
    Denotes (Jacobian.add p q) (P + Q) := by
  cases denotesP with
  | infinity z_eq =>
      rw [Jacobian.add, if_pos z_eq, zero_add]
      exact denotesQ
  | @finite x₁ y₁ nonsingular₁ y₁_lt z₁_ne x₁_eq y₁_eq =>
      cases denotesQ with
      | infinity z_eq =>
          rw [Jacobian.add, if_neg (z_ne_zero z₁_ne), if_pos z_eq, add_zero]
          exact .finite y₁_lt z₁_ne x₁_eq y₁_eq
      | @finite x₂ y₂ nonsingular₂ y₂_lt z₂_ne x₂_eq y₂_eq =>
          have sameX : p.x * (q.z * q.z % prime) % prime = q.x * (p.z * p.z % prime) % prime ↔
              x₁ = x₂ := by
            apply scaled_eq_iff (n := 2) z₁_ne z₂_ne
            · rw [ZMod.natCast_mod, Nat.cast_mul, x₁_eq]
              ring
            · rw [ZMod.natCast_mod, Nat.cast_mul, x₂_eq]
              ring
          have sameY : p.y * q.z % prime * (q.z * q.z % prime) % prime =
              q.y * p.z % prime * (p.z * p.z % prime) % prime ↔ y₁ = y₂ := by
            apply scaled_eq_iff (n := 3) z₁_ne z₂_ne
            · rw [ZMod.natCast_mod, ZMod.natCast_mod, Nat.cast_mul, Nat.cast_mul, y₁_eq]
              ring
            · rw [ZMod.natCast_mod, ZMod.natCast_mod, Nat.cast_mul, Nat.cast_mul, y₂_eq]
              ring
          simp only [Jacobian.add, if_neg (z_ne_zero z₁_ne), if_neg (z_ne_zero z₂_ne), sameX,
            sameY]
          by_cases vertical : x₁ = x₂
          · rw [if_pos vertical]
            by_cases same : y₁ = y₂
            · subst vertical same
              rw [if_pos rfl]
              exact Denotes.double (.finite y₁_lt z₁_ne x₁_eq y₁_eq)
            · have opposite : y₁ = curve.negY x₂ y₂ :=
                (Y_eq_of_X_eq nonsingular₁.1 nonsingular₂.1 vertical).resolve_left same
              rw [if_neg same, Point.add_of_Y_eq vertical opposite]
              exact denotes_infinity
          · have line := slope_secant vertical y₁ y₂
            have denominator : (p.z : BaseField) * q.z *
                (x₂ * q.z ^ 2 * (p.z * p.z) - x₁ * p.z ^ 2 * (q.z * q.z)) =
                  (x₂ - x₁) * (p.z * q.z) ^ 3 := by
              ring
            rw [if_neg vertical, Point.add_of_X_ne vertical]
            refine .finite (minus_lt _ _) ?_ ?_ ?_
            · push_cast [natCast_minus, ZMod.natCast_mod]
              rw [x₁_eq, x₂_eq, denominator]
              exact mul_ne_zero (sub_ne_zero.mpr (Ne.symm vertical))
                (pow_ne_zero 3 (mul_ne_zero z₁_ne z₂_ne))
            · push_cast [natCast_minus, ZMod.natCast_mod]
              rw [x₁_eq, x₂_eq, y₁_eq, y₂_eq, denominator, addX_curve]
              generalize curve.slope x₁ x₂ y₁ y₂ = slope at line
              linear_combination (-(slope * (x₂ - x₁) + (y₂ - y₁)) *
                ((p.z : BaseField) * q.z) ^ 6) * line
            · push_cast [natCast_minus, ZMod.natCast_mod]
              rw [x₁_eq, x₂_eq, y₁_eq, y₂_eq, denominator, addY_curve]
              generalize curve.slope x₁ x₂ y₁ y₂ = slope at line
              linear_combination ((-(x₂ - x₁) ^ 2 * (2 * x₁ + x₂) + ((slope * (x₂ - x₁)) ^ 2 +
                slope * (x₂ - x₁) * (y₂ - y₁) + (y₂ - y₁) ^ 2)) *
                  ((p.z : BaseField) * q.z) ^ 9) * line

/-- Multiplying coordinates multiplies the element, by induction on half the factor. -/
theorem Denotes.multiply (denotes : Denotes p P) (k : Nat) :
    Denotes (p.multiply k) (k • P) := by
  induction k using Nat.strongRecOn with
  | ind k ih =>
      rw [Jacobian.multiply]
      split
      · next zero =>
          rw [zero, zero_nsmul]
          exact denotes_infinity
      · next positive =>
          have doubled : Denotes (p.multiply (k / 2)).double ((2 * (k / 2)) • P) := by
            rw [two_mul, add_nsmul]
            exact (ih (k / 2) (by omega)).double
          have parity : k = 2 * (k / 2) + k % 2 := (Nat.div_add_mod k 2).symm
          split
          · next odd =>
              rw [odd] at parity
              rw [parity, succ_nsmul, ← parity]
              exact doubled.add denotes
          · next even =>
              rw [Nat.mod_two_ne_one.mp even, add_zero] at parity
              rw [← parity] at doubled
              exact doubled

/-! ## Finite positions -/

theorem natCast_powMod_inverse {z : Nat} (z_ne : (z : BaseField) ≠ 0) :
    ((powMod prime z (prime - 2) : Nat) : BaseField) = (z : BaseField)⁻¹ := by
  rw [powMod_eq, ZMod.natCast_mod, Nat.pow_eq, Nat.cast_pow]
  apply eq_inv_of_mul_eq_one_left
  rw [← pow_succ]
  exact ZMod.pow_card_sub_one_eq_one z_ne

/-- The finite position of coordinates is the element that they denote. -/
theorem Denotes.eq_of_toPoint? (denotes : Denotes p P) {point : Point}
    (found : p.toPoint? = some point) : P = point.inGroup := by
  rw [toPoint?] at found
  split at found
  · cases found
  · next nonzero =>
      cases denotes with
      | infinity z_eq => exact absurd z_eq nonzero
      | @finite x y _ _ z_ne x_eq y_eq =>
          rcases Point.ofCoordinates?_eq_some_iff.mp found with ⟨foundX, foundY⟩
          simp only [Point.inGroup, Point.some.injEq, foundX, foundY]
          push_cast [ZMod.natCast_mod, natCast_powMod_inverse z_ne]
          rw [x_eq, y_eq]
          constructor
          · field_simp
          · field_simp

end Jacobian

/-! ## Multiples of the generator -/

variable {scalar : Nat} {point : Point}

theorem inGroup_of_generatorMultiple? (found : generatorMultiple? scalar = some point) :
    point.inGroup = scalar • generator.inGroup :=
  (((Jacobian.denotes_ofPoint generator).multiply scalar).eq_of_toPoint? found).symm

theorem order_nsmul_generator : order • generator.inGroup = 0 := by
  have closes : ((Jacobian.ofPoint generator).multiply order).z = 0 := by decide +kernel
  exact ((Jacobian.denotes_ofPoint generator).multiply order).eq_zero closes

theorem addOrderOf_generator : addOrderOf generator.inGroup = order :=
  addOrderOf_eq_prime order_nsmul_generator (Point.some_ne_zero _)

/-- Scalars below the order with the same multiple of the generator are equal. -/
theorem PrivateKey.scalar_eq_of_point_eq {first second : PrivateKey}
    (same : first.point = second.point) : first.scalar = second.scalar := by
  have multiples : first.scalar • generator.inGroup = second.scalar • generator.inGroup := by
    rw [← inGroup_of_generatorMultiple? first.derived,
      ← inGroup_of_generatorMultiple? second.derived, same]
  have below : ∀ key : PrivateKey, key.scalar ∈ Set.Iio (addOrderOf generator.inGroup) := by
    intro key
    rw [addOrderOf_generator]
    exact key.lt_order
  exact nsmul_injOn_Iio_addOrderOf (below first) (below second) multiples

/-- A private curve key is determined by its point. -/
theorem PrivateKey.eq_iff_point_eq {first second : PrivateKey} :
    first = second ↔ first.point = second.point := by
  constructor
  · rintro rfl
    rfl
  · intro same
    have scalars := scalar_eq_of_point_eq same
    cases first
    cases second
    cases scalars
    cases same
    rfl

end Attest.P256
