import Attest.Modular
import Mathlib.Data.List.Prime
import Mathlib.NumberTheory.LucasPrimality

/-!
# Certified primes

A number is prime when some base has the order that a base has modulo a prime: the number less
one.  A certificate names such a base and the prime factors of the number less one, so that the
order is found with a few powers.  The factors have certificates of their own, earlier in a list.
-/

namespace Attest

/-- A number, a base whose order modulo it is the number less one, and the prime factors of the
number less one. -/
structure PrimeCertificate where
  number : Nat
  base : Nat
  factors : List Nat

namespace PrimeCertificate

/-- Whether the factors are known and the base has the order it should have. -/
def holds (known : List Nat) (certificate : PrimeCertificate) : Bool :=
  1 < certificate.number && certificate.factors.all known.contains &&
    certificate.factors.prod == certificate.number - 1 &&
    powMod certificate.number certificate.base (certificate.number - 1) == 1 &&
    certificate.factors.all fun factor =>
      powMod certificate.number certificate.base ((certificate.number - 1) / factor) != 1

/-- Whether every certificate holds, where a number is known once it is certified. -/
def allHold : (known : List Nat) → List PrimeCertificate → Bool
  | _, [] => true
  | known, certificate :: rest =>
      certificate.holds known && allHold (certificate.number :: known) rest

variable {known : List Nat} {certificate : PrimeCertificate}

theorem pow_eq_one_iff_powMod {number : Nat} (large : 1 < number) (base exponent : Nat) :
    (base : ZMod number) ^ exponent = 1 ↔ powMod number base exponent = 1 := by
  rw [powMod_eq, Nat.pow_eq, ← Nat.cast_pow, ← Nat.cast_one, ZMod.natCast_eq_natCast_iff',
    Nat.one_mod_eq_one.mpr large.ne']

/-- A certificate over primes certifies a prime. -/
theorem prime_of_holds (primes : ∀ number ∈ known, number.Prime)
    (holds : certificate.holds known = true) : certificate.number.Prime := by
  simp only [PrimeCertificate.holds, Bool.and_eq_true, decide_eq_true_eq, List.all_eq_true,
    List.contains_iff_mem, beq_iff_eq, bne_iff_ne] at holds
  obtain ⟨⟨⟨⟨large, factorsKnown⟩, product⟩, whole⟩, parts⟩ := holds
  apply lucas_primality certificate.number certificate.base
  · exact (pow_eq_one_iff_powMod large _ _).mpr whole
  · intro factor prime divides
    rw [← product] at divides
    have member : factor ∈ certificate.factors :=
      mem_list_primes_of_dvd_prod prime.prime
        (fun other otherMember => (primes other (factorsKnown other otherMember)).prime) divides
    rw [ne_eq, pow_eq_one_iff_powMod large]
    exact parts factor member

/-- What a list of certificates certifies, one after the other, is prime. -/
theorem prime_of_allHold {certificates : List PrimeCertificate}
    (primes : ∀ number ∈ known, number.Prime) (hold : allHold known certificates = true) :
    ∀ certificate ∈ certificates, certificate.number.Prime := by
  induction certificates generalizing known with
  | nil =>
      intro certificate member
      cases member
  | cons certificate rest ih =>
      rw [allHold, Bool.and_eq_true] at hold
      have prime : certificate.number.Prime := prime_of_holds primes hold.1
      exact List.forall_mem_cons.mpr
        ⟨prime, ih (List.forall_mem_cons.mpr ⟨prime, primes⟩) hold.2⟩

end PrimeCertificate

end Attest
