import Attest.Proofs.Token.NumericTime

/-!
# Numbers in claims

A claim that is a number is read as an integer of 64 bits.  Inside the range only a fraction is cut
off, and outside of it the nearer end is taken.  So numbers keep their order, whichever of them are
integers and whichever are doubles.
-/

namespace Attest.Token.Claims

variable {p q : ℚ} {claims : Claims} {name : String}

/-! ## Numbers as they are seen -/

theorem seen_mono (order : p ≤ q) : seen p ≤ seen q := by
  have parts := wholePart_mono order
  simp only [seen, saturateInt64]
  omega

theorem seen_of_inside (above : -2 ^ 63 < q) (below : q < 2 ^ 63) : seen q = wholePart q := by
  have upper : wholePart q < 2 ^ 63 := wholePart_lt (by decide) (by exact_mod_cast below)
  have lower : wholePart (-q) < 2 ^ 63 :=
    wholePart_lt (by decide) (by rw [neg_lt]; exact_mod_cast above)
  rw [wholePart_neg] at lower
  simp only [seen, saturateInt64, leastInt64, greatestInt64]
  omega

theorem seen_of_above (above : 2 ^ 63 ≤ q) : seen q = 2 ^ 63 - 1 := by
  have part : wholePart ((2 ^ 63 : Int) : ℚ) ≤ wholePart q :=
    wholePart_mono (by exact_mod_cast above)
  rw [wholePart_intCast] at part
  simp only [seen, saturateInt64, leastInt64, greatestInt64]
  omega

theorem seen_of_below (below : q ≤ -2 ^ 63) : seen q = -2 ^ 63 := by
  have part : wholePart q ≤ wholePart ((-2 ^ 63 : Int) : ℚ) :=
    wholePart_mono (by exact_mod_cast below)
  rw [wholePart_intCast] at part
  simp only [seen, saturateInt64, leastInt64, greatestInt64]
  omega

theorem number?_of_quantity? (stands : claims.quantity? name = some q) :
    claims.number? name = some (seen q) := by
  rw [number?_eq, stands, Option.map_some]

theorem quantity?_of_find? {value : Json} (found : claims.find? name = some value) :
    claims.quantity? name = value.quantity? := by
  rw [quantity?, found, Option.bind_some]

/-! ## Reading claims -/

/-- How a claim is read as a number. -/
structure ReadsNumber (claims : Claims) (name : String) : Prop where
  /-- An integer of 64 bits is read as it is. -/
  integer : ∀ i, claims.find? name = some (.int i) → -2 ^ 63 ≤ i → i < 2 ^ 63 →
    claims.number? name = some i
  /-- A double inside the range is truncated. -/
  double : ∀ x, claims.find? name = some (.float x) → -2 ^ 63 < x.value → x.value < 2 ^ 63 →
    claims.number? name = some (wholePart x.value)
  /-- A number beyond an end of the range is read as this end. -/
  above : ∀ q, claims.quantity? name = some q → 2 ^ 63 ≤ q →
    claims.number? name = some (2 ^ 63 - 1)
  below : ∀ q, claims.quantity? name = some q → q ≤ -2 ^ 63 →
    claims.number? name = some (-2 ^ 63)
  /-- Nothing is read where there is no claim or one that is no number, and only there. -/
  absent_iff : claims.number? name = none ↔ claims.find? name = none ∨ claims.Malformed name
  /-- Of two numbers in any claims the greater one is not read as less. -/
  monotone : ∀ (others : Claims) other p q, claims.quantity? name = some p →
    others.quantity? other = some q → p ≤ q →
      ∃ m n, claims.number? name = some m ∧ others.number? other = some n ∧ m ≤ n

/-- Numbers in claims are read exactly, as far as 64 bits reach, and in their order. -/
theorem readsNumber (claims : Claims) (name : String) : ReadsNumber claims name := by
  constructor
  case integer =>
    intro i found above below
    have stands : claims.quantity? name = some (i : ℚ) := quantity?_of_find? found
    have fits : fitsInt64 i = true := by
      rw [fitsInt64, leastInt64, greatestInt64, Bool.and_eq_true, decide_eq_true_iff,
        decide_eq_true_iff]
      omega
    rw [number?_of_quantity? stands, seen, wholePart_intCast, saturateInt64_of_fits fits]
  case double =>
    intro x found above below
    have stands : claims.quantity? name = some x.value := quantity?_of_find? found
    rw [number?_of_quantity? stands, seen_of_inside above below]
  case above =>
    intro q stands above
    rw [number?_of_quantity? stands, seen_of_above above]
  case below =>
    intro q stands below
    rw [number?_of_quantity? stands, seen_of_below below]
  case absent_iff =>
    rw [number?_eq, Option.map_eq_none_iff]
    cases found : claims.find? name with
    | none => simp [quantity?, found]
    | some value => simp [quantity?, Malformed, found]
  case monotone =>
    intro others other p q stands otherStands order
    exact ⟨seen p, seen q, number?_of_quantity? stands, number?_of_quantity? otherStands,
      seen_mono order⟩

/-- An integer that is no double, and the double that it is rounded to, beyond the range. -/
example : numeric? (.int 18446744073709551615) = some 9223372036854775807 ∧
    numeric? (.float ⟨0x43F0000000000000⟩) = some 9223372036854775807 := by decide +kernel

end Attest.Token.Claims
