import Attest.Proofs.Key.Written
import Attest.Proofs.P256.Group

/-!
# When private keys are equal

A private curve key is one scalar below the order of the generator, so it is determined by its
public half.  An RSA key is more than its public half: the same key can be stated with its factors
in the other order or with another private exponent, and such statements are told apart.  So
equality is the identity of the public halves for curve keys, and for no RSA key.
-/

namespace Attest

/-! ## Restated RSA keys -/

namespace Rsa.PrivateKey

variable {key first second : PrivateKey}

/-- Keys with the same public half are equal if the private exponents and the first factors are;
the second factors follow from the modulus. -/
theorem eq_iff_of_publicKey_eq (firstAdmitted : first.check = .ok ())
    (secondAdmitted : second.check = .ok ()) (same : first.publicKey = second.publicKey) :
    first = second ↔
      first.privateExponent = second.privateExponent ∧ first.firstFactor = second.firstFactor := by
  constructor
  · rintro rfl
    exact ⟨rfl, rfl⟩
  · rintro ⟨exponents, factors⟩
    obtain ⟨-, ⟨positive, -⟩, firstProduct, -⟩ := check_eq_ok_iff.mp firstAdmitted
    obtain ⟨-, -, secondProduct, -⟩ := check_eq_ok_iff.mp secondAdmitted
    have others : first.secondFactor = second.secondFactor := by
      rw [← same, ← firstProduct, ← factors] at secondProduct
      exact Nat.eq_of_mul_eq_mul_left (by omega) secondProduct.symm
    cases first
    cases second
    cases same
    cases exponents
    cases factors
    cases others
    rfl

/-- The same key with its factors in the other order. -/
def swapped (key : PrivateKey) : PrivateKey :=
  { key with firstFactor := key.secondFactor, secondFactor := key.firstFactor }

theorem check_swapped (admitted : key.check = .ok ()) : key.swapped.check = .ok () := by
  obtain ⟨exponent, ⟨first, second⟩, product, undoneFirst, undoneSecond⟩ :=
    check_eq_ok_iff.mp admitted
  exact check_eq_ok_iff.mpr ⟨exponent, ⟨second, first⟩, (Nat.mul_comm _ _).trans product,
    undoneSecond, undoneFirst⟩

/-- The same key with a greater private exponent. -/
def shifted (key : PrivateKey) : PrivateKey :=
  { key with privateExponent :=
      key.privateExponent + (key.firstFactor - 1) * (key.secondFactor - 1) }

theorem undoneAt_shifted {factor : Nat}
    (divides : factor - 1 ∣ (key.firstFactor - 1) * (key.secondFactor - 1)) :
    key.shifted.undoneAt factor = key.undoneAt factor := by
  obtain ⟨k, multiple⟩ := divides
  have remainder : (key.privateExponent + (key.firstFactor - 1) * (key.secondFactor - 1)) *
      key.publicKey.exponent % (factor - 1) =
        key.privateExponent * key.publicKey.exponent % (factor - 1) := by
    rw [multiple, Nat.add_mul, Nat.mul_assoc, Nat.add_mul_mod_self_left]
  simp only [undoneAt, shifted, remainder]

theorem check_shifted (admitted : key.check = .ok ()) : key.shifted.check = .ok () := by
  obtain ⟨exponent, factors, product, undoneFirst, undoneSecond⟩ := check_eq_ok_iff.mp admitted
  refine check_eq_ok_iff.mpr ⟨exponent, factors, product, ?_, ?_⟩
  · exact (undoneAt_shifted (Nat.dvd_mul_right _ _)).trans undoneFirst
  · exact (undoneAt_shifted (Nat.dvd_mul_left _ _)).trans undoneSecond

theorem shifted_ne (admitted : key.check = .ok ()) : key.shifted ≠ key := by
  obtain ⟨-, ⟨first, second⟩, -⟩ := check_eq_ok_iff.mp admitted
  intro same
  have exponents : key.privateExponent + (key.firstFactor - 1) * (key.secondFactor - 1) =
      key.privateExponent := congrArg privateExponent same
  have positive : 0 < (key.firstFactor - 1) * (key.secondFactor - 1) :=
    Nat.mul_pos (by omega) (by omega)
  omega

end Rsa.PrivateKey

/-- Two private keys are the same RSA key in other numbers: with another private exponent, or
with other factors or the same ones in another order. -/
inductive PrivateKey.Restates : PrivateKey → PrivateKey → Prop where
  | rsa {first second : Rsa.PrivateKey} (same : first.publicKey = second.publicKey)
      (differs : first.privateExponent ≠ second.privateExponent ∨
        first.firstFactor ≠ second.firstFactor) :
      Restates (.rsa first) (.rsa second)

namespace PrivateKey

variable {key first second : PrivateKey}

/-- Admitted keys with one public half are equal unless one restates the other. -/
theorem eq_iff_not_restates (firstAdmitted : first.Admitted) (secondAdmitted : second.Admitted)
    (same : first.publicKey = second.publicKey) : first = second ↔ ¬first.Restates second := by
  cases first with
  | p256 first =>
      cases second with
      | p256 second =>
          constructor
          · rintro - ⟨⟩
          · intro _
            rw [P256.PrivateKey.eq_iff_point_eq.mpr (PublicKey.p256.inj same)]
      | rsa second => cases same
  | rsa first =>
      cases second with
      | p256 second => cases same
      | rsa second =>
          have halves := PublicKey.rsa.inj same
          rw [PrivateKey.rsa.injEq,
            Rsa.PrivateKey.eq_iff_of_publicKey_eq firstAdmitted secondAdmitted halves]
          constructor
          · rintro ⟨exponents, factors⟩ ⟨-, exponent | factor⟩
            · exact exponent exponents
            · exact factor factors
          · intro different
            by_contra parts
            exact different (.rsa halves (not_and_or.mp parts))

/-- Keys restate each other only with the same public half. -/
theorem Restates.publicKey_eq (restates : first.Restates second) :
    first.publicKey = second.publicKey := by
  cases restates with
  | rsa same _ => exact congrArg PublicKey.rsa same

end PrivateKey

namespace Key

variable {text other : String} {first second : PrivateKey}

/-- An admitted private key is decoded from its web key. -/
theorem decode_writePrivate_of_admitted (key : PrivateKey) (admitted : key.Admitted) :
    Registry.standard.decode (WebKey.writePrivate key) = .ok (.privateKey key) := by
  have material : (KeyMaterial.privateKey key).Admitted := admitted
  exact decode_text_of_admitted material (List.mem_append_right _ List.mem_cons_self)

/-- Two decoded private keys are equal exactly when their public halves are, unless they are one
RSA key in two statements.  Keys of different families have different public halves.  Every RSA
key has another statement, such as the one with its factors in the other order, and curve keys
have none: equality is the identity of the public halves exactly for these. -/
theorem equal_iff_publicKey_equal
    (decoded : Registry.standard.decode text = .ok (.privateKey first))
    (otherDecoded : Registry.standard.decode other = .ok (.privateKey second)) :
    ((first = second ↔ first.publicKey = second.publicKey) ↔ ¬first.Restates second) ∧
    (first.family ≠ second.family → first ≠ second ∧ first.publicKey ≠ second.publicKey) ∧
    (∀ key, first = .rsa key → key.firstFactor ≠ key.secondFactor →
      Registry.standard.decode (WebKey.writePrivate (.rsa key.swapped)) =
          .ok (.privateKey (.rsa key.swapped)) ∧
        first.Restates (.rsa key.swapped)) ∧
    (first.family = .p256 ↔ ∀ other second,
      Registry.standard.decode other = .ok (.privateKey second) →
        (first = second ↔ first.publicKey = second.publicKey)) := by
  have firstAdmitted : first.Admitted := admitted_of_decode decoded
  have secondAdmitted : second.Admitted := admitted_of_decode otherDecoded
  refine ⟨?restated, ?families, ?swapped, ?curve⟩
  case restated =>
    constructor
    · intro identity restates
      have same := restates.publicKey_eq
      exact (PrivateKey.eq_iff_not_restates firstAdmitted secondAdmitted same).mp
        (identity.mpr same) restates
    · intro single
      constructor
      · rintro rfl
        rfl
      · intro same
        exact (PrivateKey.eq_iff_not_restates firstAdmitted secondAdmitted same).mpr single
  case families =>
    intro families
    constructor
    · rintro rfl
      exact families rfl
    · intro same
      apply families
      rw [← PrivateKey.family_publicKey first, same, PrivateKey.family_publicKey]
  case swapped =>
    rintro key rfl different
    exact ⟨decode_writePrivate_of_admitted (.rsa key.swapped)
      (Rsa.PrivateKey.check_swapped firstAdmitted),
      .rsa rfl (.inr different)⟩
  case curve =>
    constructor
    · intro curve other second otherDecoded
      constructor
      · rintro rfl
        rfl
      · intro same
        apply (PrivateKey.eq_iff_not_restates firstAdmitted (admitted_of_decode otherDecoded)
          same).mpr
        rintro ⟨⟩
        cases curve
    · intro identity
      cases first with
      | p256 key => rfl
      | rsa key =>
          have shifted := decode_writePrivate_of_admitted (.rsa key.shifted)
            (Rsa.PrivateKey.check_shifted firstAdmitted)
          have same : PrivateKey.rsa key = .rsa key.shifted := (identity _ _ shifted).mpr rfl
          exact absurd (PrivateKey.rsa.inj same).symm (Rsa.PrivateKey.shifted_ne firstAdmitted)

/-- A curve key beside an RSA key. -/
theorem equal_iff_publicKey_equal_sample :
    let rsa : PrivateKey := .rsa ⟨⟨55, 3⟩, 7, 11, 5⟩
    ∃ key, P256.PrivateKey.ofScalar? 1 = some key ∧
      Registry.standard.decode (WebKey.writePrivate (.p256 key)) = .ok (.privateKey (.p256 key)) ∧
      Registry.standard.decode (WebKey.writePrivate rsa) = .ok (.privateKey rsa) ∧
      .p256 key ≠ rsa ∧ (PrivateKey.p256 key).publicKey ≠ rsa.publicKey ∧
      ∀ other second, Registry.standard.decode other = .ok (.privateKey second) →
        (.p256 key = second ↔ (PrivateKey.p256 key).publicKey = second.publicKey) := by
  intro rsa
  obtain ⟨key, made⟩ : ∃ key, P256.PrivateKey.ofScalar? 1 = some key :=
    Option.isSome_iff_exists.mp (by decide +kernel)
  have curveDecoded := decode_writePrivate_of_admitted (.p256 key) trivial
  have checked : Rsa.PrivateKey.check ⟨⟨55, 3⟩, 7, 11, 5⟩ = .ok () := by decide
  have rsaDecoded := decode_writePrivate_of_admitted rsa checked
  obtain ⟨-, families, -, identity⟩ := equal_iff_publicKey_equal curveDecoded rsaDecoded
  have different : (PrivateKey.p256 key).family ≠ rsa.family := nofun
  exact ⟨key, made, curveDecoded, rsaDecoded, (families different).1, (families different).2,
    identity.mp rfl⟩

/-- An RSA key and the same key with its factors in the other order are decoded, and are not
equal although their public halves are. -/
theorem factors_in_other_order_differ :
    let text := "\x7b\"kty\":\"RSA\",\"n\":\"Nw\",\"e\":\"Aw\",\"d\":\"Bw\"," ++
      "\"p\":\"Cw\",\"q\":\"BQ\"\x7d"
    let other := "\x7b\"kty\":\"RSA\",\"n\":\"Nw\",\"e\":\"Aw\",\"d\":\"Bw\"," ++
      "\"p\":\"BQ\",\"q\":\"Cw\"\x7d"
    ∃ first second, Registry.standard.decode text = .ok (.privateKey first) ∧
      Registry.standard.decode other = .ok (.privateKey second) ∧
      first.publicKey = second.publicKey ∧ first ≠ second := by
  refine ⟨.rsa ⟨⟨55, 3⟩, 7, 11, 5⟩, .rsa ⟨⟨55, 3⟩, 7, 5, 11⟩, ?_, ?_, rfl, by decide⟩
  · exact toOption_eq_some_iff.mp (by decide +kernel)
  · exact toOption_eq_some_iff.mp (by decide +kernel)

end Key

end Attest
