import Attest.Double
import Mathlib.Data.Rat.Floor

/-!
# The number of a double

A finite double is a rational number.  Truncating it cuts the fraction off that number: what is
left is not above a number that is positive, and not below one that is negative.  Taking an integer
as the nearest double moves none across the ends of 64 bits.
-/

namespace Attest

/-- A number without its fraction. -/
def wholePart (q : ℚ) : Int :=
  if 0 ≤ q then ⌊q⌋ else ⌈q⌉

section WholePart

variable {q r : ℚ}

@[simp]
theorem wholePart_intCast (n : Int) : wholePart n = n := by
  rw [wholePart]
  split
  · exact Int.floor_intCast n
  · exact Int.ceil_intCast n

theorem wholePart_neg (q : ℚ) : wholePart (-q) = -wholePart q := by
  rcases lt_trichotomy q 0 with negative | rfl | positive
  · have backward : 0 ≤ -q := neg_nonneg.mpr negative.le
    rw [wholePart, wholePart, if_pos backward, if_neg (not_le.mpr negative), Int.floor_neg]
  · rfl
  · have backward : -q < 0 := neg_neg_iff_pos.mpr positive
    rw [wholePart, wholePart, if_neg (not_le.mpr backward), if_pos positive.le, Int.ceil_neg]

theorem wholePart_le_self (fromZero : 0 ≤ q) : (wholePart q : ℚ) ≤ q := by
  rw [wholePart, if_pos fromZero]
  exact Int.floor_le q

theorem self_le_wholePart (toZero : q ≤ 0) : q ≤ wholePart q := by
  have reflected := wholePart_le_self (neg_nonneg.mpr toZero)
  rw [wholePart_neg, Int.cast_neg] at reflected
  exact neg_le_neg_iff.mp reflected

theorem self_lt_wholePart_add_one (q : ℚ) : q < wholePart q + 1 := by
  rw [wholePart]
  split
  · exact Int.lt_floor_add_one q
  · exact lt_of_le_of_lt (Int.le_ceil q) (lt_add_one _)

theorem wholePart_lt_self_add_one (q : ℚ) : (wholePart q : ℚ) < q + 1 := by
  have reflected := self_lt_wholePart_add_one (-q)
  rw [wholePart_neg, Int.cast_neg] at reflected
  linarith

theorem wholePart_mono (order : q ≤ r) : wholePart q ≤ wholePart r := by
  by_cases fromZero : 0 ≤ q
  · rw [wholePart, wholePart, if_pos fromZero, if_pos (fromZero.trans order)]
    exact Int.floor_le_floor order
  have toZero : ⌈q⌉ ≤ 0 := Int.ceil_le.mpr (not_le.mp fromZero).le
  by_cases crossed : 0 ≤ r
  · rw [wholePart, wholePart, if_neg fromZero, if_pos crossed]
    exact toZero.trans (Int.floor_nonneg.mpr crossed)
  · rw [wholePart, wholePart, if_neg fromZero, if_neg crossed]
    exact Int.ceil_le_ceil order

/-- A number below a positive integer has its whole part below it, too. -/
theorem wholePart_lt {n : Int} (positive : 0 < n) (below : q < n) : wholePart q < n := by
  rw [wholePart]
  split
  · exact Int.floor_lt.mpr below
  · next backward =>
      have toZero : ⌈q⌉ ≤ 0 := Int.ceil_le.mpr (not_le.mp backward).le
      exact toZero.trans_lt positive

end WholePart

theorem saturateInt64_of_fits {i : Int} (fits : fitsInt64 i = true) : saturateInt64 i = i := by
  simp only [fitsInt64, Bool.and_eq_true, decide_eq_true_eq] at fits
  simp only [saturateInt64]
  omega

namespace Double

/-- The number that the bits of a finite double stand for. -/
def value (x : Double) : ℚ :=
  signed x.negative x.significand * 2 ^ x.scale

/-- The absolute value without its fraction. -/
theorem floorMagnitude_eq (x : Double) :
    (x.floorMagnitude : Int) = ⌊(x.significand : ℚ) * 2 ^ x.scale⌋ := by
  rw [floorMagnitude]
  split
  · next upward =>
      obtain ⟨k, scaled⟩ := Int.eq_ofNat_of_zero_le upward
      rw [scaled, Int.toNat_natCast, Nat.pow_eq, zpow_natCast]
      exact_mod_cast (Int.floor_natCast (R := ℚ) (x.significand * 2 ^ k)).symm
  · next downward =>
      obtain ⟨k, scaled⟩ := Int.eq_ofNat_of_zero_le (by omega : 0 ≤ -x.scale)
      have inverse : x.scale = -(k : Int) := by omega
      rw [scaled, Int.toNat_natCast, Nat.pow_eq, inverse, zpow_neg, zpow_natCast, ← div_eq_mul_inv]
      have quotient := Rat.floor_intCast_div_natCast x.significand (2 ^ k)
      rw [Int.cast_natCast, Nat.cast_pow, Nat.cast_ofNat] at quotient
      rw [quotient, Int.natCast_div]

/-- Truncating a double cuts off the fraction of its number. -/
theorem truncate_eq (x : Double) : x.truncate = wholePart x.value := by
  have size : 0 ≤ (x.significand : ℚ) * 2 ^ x.scale :=
    mul_nonneg (Nat.cast_nonneg _) (zpow_nonneg zero_le_two _)
  have positive : wholePart ((x.significand : ℚ) * 2 ^ x.scale) = x.floorMagnitude := by
    rw [wholePart, if_pos size, floorMagnitude_eq]
  rw [truncate, value]
  cases x.negative with
  | false =>
      simp only [signed, Bool.false_eq_true, if_false, Int.cast_natCast]
      exact positive.symm
  | true =>
      simp only [signed, if_true, Int.cast_neg, Int.cast_natCast, neg_mul]
      rw [wholePart_neg, positive]

/-! ## The double nearest to an integer -/

theorem bits_ofMagnitude {magnitude : Nat} (small : magnitude < signBit) (negative : Bool) :
    (ofMagnitude negative magnitude).bits.toNat =
      (if negative then signBit else 0) + magnitude := by
  rw [ofMagnitude, UInt64.toNat_ofNat']
  apply Nat.mod_eq_of_lt
  simp only [signBit] at *
  split <;> omega

theorem negative_ofMagnitude {magnitude : Nat} (small : magnitude < signBit) (negative : Bool) :
    (ofMagnitude negative magnitude).negative = negative := by
  rw [Double.negative, bits_ofMagnitude small]
  cases negative <;> simp [small]

theorem magnitude_ofMagnitude {magnitude : Nat} (small : magnitude < signBit) (negative : Bool) :
    (ofMagnitude negative magnitude).magnitude = magnitude := by
  rw [Double.magnitude, bits_ofMagnitude small]
  cases negative <;> simp [Nat.mod_eq_of_lt small]

/-- From an exponent of 63 on, the whole part of a double has more than 63 bits. -/
theorem le_floorMagnitude {x : Double} (large : 1086 * fractionUnit ≤ x.magnitude) :
    2 ^ 63 ≤ x.floorMagnitude := by
  have exponent : 1086 ≤ x.exponentField := (Nat.le_div_iff_mul_le (by decide)).mpr large
  have scaled : x.scale = (x.exponentField - 1075 : Nat) := by
    rw [scale]
    omega
  have leading : fractionUnit ≤ x.significand := by
    rw [significand, if_neg (by omega)]
    exact Nat.le_add_left _ _
  have shift : 2 ^ 11 ≤ 2 ^ (x.exponentField - 1075) := Nat.pow_le_pow_right (by decide) (by omega)
  rw [floorMagnitude, scaled, if_pos (Int.natCast_nonneg _), Int.toNat_natCast, Nat.pow_eq]
  exact (by decide : 2 ^ 63 ≤ fractionUnit * 2 ^ 11).trans (Nat.mul_le_mul leading shift)

theorem le_roundHalfEven (num den : Nat) : num / den ≤ roundHalfEven num den := by
  simp only [roundHalfEven]
  split_ifs <;> omega

/-- An integer of at least so many bits has as many left when it is scaled down by the rest. -/
theorem le_scaledQuotient {n bits power : Nat} (large : 2 ^ (bits + power) ≤ n) :
    2 ^ bits ≤ scaledQuotient n 1 power := by
  rw [scaledQuotient, if_pos (Int.natCast_nonneg _), Int.toNat_natCast, Nat.pow_eq, one_mul]
  refine le_trans ?_ (le_roundHalfEven _ _)
  rw [Nat.le_div_iff_mul_le (Nat.two_pow_pos power), ← Nat.pow_add]
  exact large

theorem ratioScale_one {n : Nat} (large : 2 ^ 63 ≤ n) : ratioScale n 1 = (n.log2 - 52 : Nat) := by
  have bits : 63 ≤ n.log2 := (Nat.le_log2 (by omega)).mpr large
  have estimate : max ((n.log2 : Int) - Nat.log2 1 - 53) (-1074) = (n.log2 - 53 : Nat) := by
    have one : Nat.log2 1 = 0 := by decide
    omega
  -- The lower of the two scales leaves 54 bits, one more than there is room for.
  have full : 2 * fractionUnit ≤ scaledQuotient n 1 (n.log2 - 53 : Nat) := by
    refine (by decide : 2 * fractionUnit ≤ 2 ^ 53).trans (le_scaledQuotient ?_)
    rw [show 53 + (n.log2 - 53) = n.log2 by omega]
    exact Nat.log2_self_le (by omega)
  simp only [ratioScale, estimate]
  rw [if_neg (not_lt.mpr full)]
  omega

/-- The double nearest to an integer of more than 63 bits, by its magnitude bits. -/
theorem exists_magnitude_ofInt {i : Int} (large : 2 ^ 63 ≤ i.natAbs) :
    ∃ magnitude, 1086 * fractionUnit ≤ magnitude ∧ magnitude < signBit ∧
      ofInt i = ofMagnitude (i < 0) magnitude := by
  have bits : 63 ≤ i.natAbs.log2 := (Nat.le_log2 (by omega)).mpr large
  have leading : fractionUnit ≤ scaledQuotient i.natAbs 1 (i.natAbs.log2 - 52 : Nat) := by
    refine (by decide : fractionUnit ≤ 2 ^ 52).trans (le_scaledQuotient ?_)
    rw [show 52 + (i.natAbs.log2 - 52) = i.natAbs.log2 by omega]
    exact Nat.log2_self_le (by omega)
  refine ⟨min ((i.natAbs.log2 - 52 + 1074) * fractionUnit +
    scaledQuotient i.natAbs 1 (i.natAbs.log2 - 52 : Nat)) infinityMagnitude, ?_, ?_, ?_⟩
  · simp only [infinityMagnitude, fractionUnit] at *
    omega
  · simp only [infinityMagnitude, fractionUnit, signBit]
    omega
  · have nonzero : i.natAbs ≠ 0 := by omega
    have shift : (((i.natAbs.log2 - 52 : Nat) : Int) + 1074).toNat = i.natAbs.log2 - 52 + 1074 := by
      omega
    simp only [ofInt, ofRatio, if_neg nonzero, ratioScale_one large, shift]

theorem saturateInt64_truncate_ofInt {i : Int} (beyond : fitsInt64 i = false) :
    saturateInt64 (ofInt i).truncate = saturateInt64 i := by
  have outside : i < leastInt64 ∨ greatestInt64 < i := by
    simpa [fitsInt64, or_iff_not_imp_left] using beyond
  have large : 2 ^ 63 ≤ i.natAbs := by
    simp only [leastInt64, greatestInt64] at outside
    omega
  obtain ⟨magnitude, atLeast, small, nearest⟩ := exists_magnitude_ofInt large
  have floor : 2 ^ 63 ≤ (ofInt i).floorMagnitude := by
    apply le_floorMagnitude
    rw [nearest, magnitude_ofMagnitude small]
    exact atLeast
  have sign : (ofInt i).negative = decide (i < 0) := by
    rw [nearest, negative_ofMagnitude small]
  rw [truncate, sign]
  simp only [saturateInt64, signed, leastInt64, greatestInt64, decide_eq_true_eq] at *
  split <;> omega

end Double

end Attest
