/-!
# Arithmetic modulo a number

Powers by repeated squaring and inverses by the extended Euclidean algorithm.
`powMod_eq` says that the first is the power; the second is only returned after
a check, so an inverse is one by construction.
-/

namespace Attest

/-- The remainder of a power, by repeated squaring. -/
def powMod (modulus base exponent : Nat) : Nat :=
  if h : exponent = 0 then 1 % modulus
  else
    let half := powMod modulus (base * base % modulus) (exponent / 2)
    if exponent % 2 = 1 then base * half % modulus else half
termination_by exponent
decreasing_by omega

theorem powMod_eq (modulus base exponent : Nat) :
    powMod modulus base exponent = Nat.pow base exponent % modulus := by
  rw [Nat.pow_eq]
  induction exponent using Nat.strongRecOn generalizing base with
  | ind exponent ih =>
      rw [powMod]
      split
      · next h => simp [h]
      · next h =>
          have hhalf := ih (exponent / 2) (by omega) (base * base % modulus)
          have hsquare : (base * base % modulus) ^ (exponent / 2) % modulus =
              base ^ (2 * (exponent / 2)) % modulus := by
            rw [← Nat.pow_mod, ← Nat.pow_two, ← Nat.pow_mul]
          simp only [hhalf, hsquare]
          split
          · next hodd =>
              rw [Nat.mul_mod, Nat.mod_mod, ← Nat.mul_mod, ← Nat.pow_succ']
              congr 2
              omega
          · next heven =>
              congr 2
              omega

/-- A number `x` with `x · a ≡ gcd a b` modulo `b`, by Euclid's algorithm: the
arguments are the last two remainders with their coefficients. -/
def bezout (r s : Nat) (x y : Int) : Int :=
  if _h : s = 0 then x
  else bezout s (r % s) y (x - (r / s : Nat) * y)
termination_by s
decreasing_by exact Nat.mod_lt _ (by omega)

/-- The inverse of a number modulo another, when there is one. -/
def inverseMod? (modulus a : Nat) : Option Nat :=
  let candidate := (bezout a modulus 1 0 % modulus).toNat
  if candidate * a % modulus = 1 % modulus then some candidate else none

theorem inverseMod?_eq_some {modulus a inverse : Nat}
    (h : inverseMod? modulus a = some inverse) : inverse * a % modulus = 1 % modulus := by
  simp only [inverseMod?] at h
  split at h
  · next hcheck =>
      cases h
      exact hcheck
  · cases h

end Attest
