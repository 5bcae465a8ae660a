import Attest.Proofs.Octets
import Attest.Proofs.Outcome
import Attest.Rsa
import Mathlib.Algebra.BigOperators.Group.List.Lemmas
import Mathlib.Algebra.Order.Ring.Abs
import Mathlib.Data.Nat.ModEq

/-!
# Admitted RSA keys

A key is made of its numbers exactly when these pass the checks.  The checks on a public
key bound both of its numbers; those on a private key say that its numbers fit together.
-/

namespace Attest.Rsa

/-! ## Public keys -/

namespace PublicKey

variable {key : PublicKey}

theorem ofNumbers_eq_ok_iff {modulus exponent : Nat} :
    ofNumbers modulus exponent = .ok key ↔ key = ⟨modulus, exponent⟩ ∧ key.check = .ok () := by
  simp only [ofNumbers, bind_eq_ok_iff]
  constructor
  · rintro ⟨_, checked, made⟩
    cases made
    exact ⟨rfl, checked⟩
  · rintro ⟨rfl, checked⟩
    exact ⟨(), checked, rfl⟩

/-- An admitted key is made of its own numbers. -/
theorem ofNumbers_self (admitted : key.check = .ok ()) :
    ofNumbers key.modulus key.exponent = .ok key :=
  ofNumbers_eq_ok_iff.mpr ⟨rfl, admitted⟩

theorem check_eq_ok_iff :
    key.check = .ok () ↔ bitLength key.modulus ≤ modulusLimit ∧ key.checkExponent = .ok () := by
  rw [check]
  split
  · next large => simp [Nat.not_le.mpr large]
  · next small => simp [Nat.not_lt.mp small]

theorem bitLength_le_of_lt {n k : Nat} (small : n < 2 ^ k) : bitLength n ≤ k := by
  rw [bitLength]
  split
  · exact Nat.zero_le k
  · next positive => exact (Nat.log2_lt positive).mpr small

theorem checkExponent_eq_ok_iff :
    key.checkExponent = .ok () ↔
      key.exponent < key.modulus ∧ key.modulus % 2 = 1 ∧ key.exponent % 2 = 1 ∧
        2 ≤ key.exponent ∧ key.exponent ≤ exponentLimit := by
  constructor
  · intro passed
    rw [checkExponent] at passed
    iterate 5
      split at passed
      · cases passed
    omega
  · rintro ⟨below, oddModulus, oddExponent, large, small⟩
    have short : bitLength key.exponent ≤ 64 :=
      bitLength_le_of_lt (Nat.lt_of_le_of_lt small (by decide))
    rw [checkExponent, if_neg (by omega), if_neg (by omega), if_neg (by omega), if_neg (by omega),
      if_neg (by omega)]

/-- Neither number of an admitted key is zero. -/
theorem ne_zero_of_check (admitted : key.check = .ok ()) : key.modulus ≠ 0 ∧ key.exponent ≠ 0 := by
  obtain ⟨below, -, -, large, -⟩ := checkExponent_eq_ok_iff.mp (check_eq_ok_iff.mp admitted).2
  omega

theorem width_modulus_le (admitted : key.check = .ok ()) : Octets.width key.modulus ≤ 512 := by
  have short := (check_eq_ok_iff.mp admitted).1
  rw [bitLength, modulusLimit] at short
  rw [Octets.width]
  split at short
  · next zero => simp [zero]
  · next positive =>
      rw [if_neg positive]
      omega

theorem width_exponent_le (admitted : key.check = .ok ()) : Octets.width key.exponent ≤ 5 := by
  obtain ⟨-, -, -, -, small⟩ := checkExponent_eq_ok_iff.mp (check_eq_ok_iff.mp admitted).2
  exact Octets.width_le_of_lt (Nat.lt_of_le_of_lt small (by decide))

end PublicKey

/-! ## Private keys -/

theorem PrivateKey.ofNumbers_eq_ok_iff
    {modulus exponent privateExponent firstFactor secondFactor : Nat} {key : PrivateKey} :
    ofNumbers modulus exponent privateExponent firstFactor secondFactor = .ok key ↔
      key = ⟨⟨modulus, exponent⟩, privateExponent, firstFactor, secondFactor⟩ ∧
        key.check = .ok () := by
  simp only [ofNumbers, bind_eq_ok_iff]
  constructor
  · rintro ⟨_, checked, made⟩
    cases made
    exact ⟨rfl, checked⟩
  · rintro ⟨rfl, checked⟩
    exact ⟨(), checked, rfl⟩

theorem PrivateKey.ofNumbers_self {key : PrivateKey} (admitted : key.check = .ok ()) :
    ofNumbers key.publicKey.modulus key.publicKey.exponent key.privateExponent key.firstFactor
      key.secondFactor = .ok key :=
  ofNumbers_eq_ok_iff.mpr ⟨rfl, admitted⟩

/-- The checks on a private key are passed one by one. -/
theorem PrivateKey.check_eq_ok_iff {key : PrivateKey} :
    key.check = .ok () ↔
      key.publicKey.checkExponent = .ok () ∧ (1 < key.firstFactor ∧ 1 < key.secondFactor) ∧
        key.firstFactor * key.secondFactor = key.publicKey.modulus ∧
        key.undoneAt key.firstFactor = true ∧ key.undoneAt key.secondFactor = true := by
  simp only [check, bind_eq_ok_iff]
  constructor
  · rintro ⟨⟨⟩, exponent, passed⟩
    split at passed
    · cases passed
    · next factors =>
        split at passed
        · cases passed
        · next product =>
            split at passed
            · cases passed
            · next undone =>
                simp only [Bool.or_eq_true, Bool.not_eq_true', not_or, Bool.not_eq_false] at undone
                rw [not_or, Nat.not_le, Nat.not_le] at factors
                exact ⟨exponent, factors, not_not.mp product, undone⟩
  · rintro ⟨exponent, ⟨first, second⟩, product, undoneFirst, undoneSecond⟩
    have factors : ¬(key.firstFactor ≤ 1 ∨ key.secondFactor ≤ 1) :=
      not_or.mpr ⟨Nat.not_le.mpr first, Nat.not_le.mpr second⟩
    refine ⟨(), exponent, ?_⟩
    simp only [factors, product, undoneFirst, undoneSecond, if_false, ne_eq, not_true_eq_false,
      Bool.not_true, Bool.or_self, Bool.false_eq_true]
    rfl

/-- The key that the numbers of a private key make. -/
def PrivateKey.remade? (key : PrivateKey) : Option PrivateKey :=
  (ofNumbers key.publicKey.modulus key.publicKey.exponent key.privateExponent key.firstFactor
    key.secondFactor).toOption

theorem PrivateKey.remade?_eq_some_iff {key made : PrivateKey} :
    key.remade? = some made ↔ made = key ∧ key.check = .ok () := by
  rw [remade?, toOption_eq_some_iff, ofNumbers_eq_ok_iff]
  constructor
  · rintro ⟨rfl, admitted⟩
    exact ⟨rfl, admitted⟩
  · rintro ⟨rfl, admitted⟩
    exact ⟨rfl, admitted⟩

/-! ## Numbers that fit together -/

namespace PrivateKey

variable {key : PrivateKey}

/-- The factors of the modulus that a key has. -/
def factors (key : PrivateKey) : List Nat :=
  [key.firstFactor, key.secondFactor]

end PrivateKey

/-! ## Divisors -/

namespace PrivateKey

variable {key : PrivateKey}

end PrivateKey

end Attest.Rsa
