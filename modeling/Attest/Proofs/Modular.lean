import Attest.Modular
import Mathlib.Data.Int.ModEq
import Mathlib.Data.Nat.ModEq

/-!
# Inverses modulo a number

Euclid's algorithm keeps each remainder equal to its coefficient times the number it started
from, modulo the other one.  So it finds an inverse of every number that has one, and these are
the numbers that are coprime to the modulus.
-/

namespace Attest

variable {modulus a inverse : Nat}

/-- Where both remainders are their coefficients times the number, so is the last one, which is
their greatest common divisor. -/
theorem bezout_mul_modEq {m : Int} {r s : Nat} {x y : Int} (first : x * a ≡ r [ZMOD m])
    (second : y * a ≡ s [ZMOD m]) : bezout r s x y * a ≡ Nat.gcd r s [ZMOD m] := by
  induction s using Nat.strongRecOn generalizing r x y with
  | ind s ih =>
      rw [bezout]
      split
      · next done =>
          rw [done, Nat.gcd_zero_right]
          exact first
      · next more =>
          have divided : ((r % s : Nat) : Int) = r - (r / s : Nat) * s := by
            rw [Int.natCast_mod, Int.natCast_div, Int.emod_def, Int.mul_comm]
          have remainder : (x - (r / s : Nat) * y) * a ≡ (r % s : Nat) [ZMOD m] := by
            rw [divided, Int.sub_mul, Int.mul_assoc]
            exact first.sub (second.mul_left _)
          have smaller : r % s < s := Nat.mod_lt r (Nat.pos_of_ne_zero more)
          have divisor : Nat.gcd r s = Nat.gcd s (r % s) := by
            rw [Nat.gcd_comm, Nat.gcd_rec, Nat.gcd_comm]
          rw [divisor]
          exact ih (r % s) smaller second remainder

/-- A number that is coprime to the modulus has an inverse. -/
theorem exists_inverseMod? (positive : 0 < modulus) (coprime : a.Coprime modulus) :
    ∃ inverse, inverseMod? modulus a = some inverse := by
  have last : bezout a modulus 1 0 * a ≡ Nat.gcd a modulus [ZMOD modulus] := by
    apply bezout_mul_modEq
    · rw [Int.one_mul]
    · rw [Int.zero_mul]
      exact (Int.emod_self.trans (Int.zero_emod _).symm).symm
  rw [Nat.coprime_iff_gcd_eq_one.mp coprime, Int.natCast_one] at last
  have bounded : ((bezout a modulus 1 0 % modulus).toNat : Int) = bezout a modulus 1 0 % modulus :=
    Int.toNat_of_nonneg (Int.emod_nonneg _ (by omega))
  have inverts : (bezout a modulus 1 0 % modulus).toNat * a ≡ 1 [MOD modulus] := by
    rw [← Int.natCast_modEq_iff, Int.natCast_mul, bounded, Int.natCast_one]
    exact ((Int.mod_modEq _ _).mul_right _).trans last
  exact ⟨_, if_pos inverts⟩

theorem inverseMod?_lt (positive : 0 < modulus) (found : inverseMod? modulus a = some inverse) :
    inverse < modulus := by
  simp only [inverseMod?] at found
  split at found
  · cases found
    have below := Int.emod_lt_of_pos (bezout a modulus 1 0) (by omega : 0 < (modulus : Int))
    omega
  · cases found

/-- What is found is the inverse that is below the modulus. -/
theorem inverseMod?_eq_some_iff (positive : 0 < modulus) :
    inverseMod? modulus a = some inverse ↔
      inverse < modulus ∧ inverse * a ≡ 1 [MOD modulus] := by
  constructor
  · intro found
    exact ⟨inverseMod?_lt positive found, inverseMod?_eq_some found⟩
  · rintro ⟨below, inverts⟩
    have coprime : a.Coprime modulus :=
      Nat.coprime_of_mul_modEq_one inverse (by rwa [Nat.mul_comm])
    obtain ⟨found, isFound⟩ := exists_inverseMod? positive coprime
    have foundInverts : found * a ≡ 1 [MOD modulus] := inverseMod?_eq_some isFound
    have same : found ≡ inverse [MOD modulus] :=
      Nat.ModEq.cancel_right_of_coprime coprime.symm (foundInverts.trans inverts.symm)
    rw [isFound, Nat.ModEq.eq_of_lt_of_lt same (inverseMod?_lt positive isFound) below]

/-- A number has an inverse exactly if it is coprime to the modulus. -/
theorem exists_inverseMod?_iff (positive : 0 < modulus) :
    (∃ inverse, inverseMod? modulus a = some inverse) ↔ a.Coprime modulus := by
  constructor
  · rintro ⟨inverse, found⟩
    have inverts : inverse * a ≡ 1 [MOD modulus] := inverseMod?_eq_some found
    exact Nat.coprime_of_mul_modEq_one inverse (by rwa [Nat.mul_comm])
  · exact exists_inverseMod? positive

end Attest
