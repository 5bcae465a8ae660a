import Attest.Proofs.Token.Phases
import Mathlib.Data.List.Induction

/-!
# Pinned keys

Whoever sends a token chooses the key that its header names.  A pinned resolver does not look at
this choice, and pins around it change nothing: the innermost one alone says which key is asked for.
So a token is accepted under this key or not at all, whatever other keys the inner resolver knows.
-/

namespace Attest

open Key (PublicResolver)

namespace Key.PublicResolver

/-- A resolver that is pinned to an identifier, and then to others around it. -/
def pinnedWithin (inner : PublicResolver) (innermost : String) (outer : List String) :
    PublicResolver :=
  outer.foldl (fun resolver id => pinned id resolver) (pinned innermost inner)

theorem pinnedWithin_concat (inner : PublicResolver) (innermost : String) (outer : List String)
    (outermost : String) :
    pinnedWithin inner innermost (outer ++ [outermost]) =
      pinned outermost (pinnedWithin inner innermost outer) := by
  rw [pinnedWithin, List.foldl_concat]
  rfl

/-- However many pins there are, the innermost one decides. -/
theorem pinnedWithin_eq (inner : PublicResolver) (innermost : String) (outer : List String) :
    pinnedWithin inner innermost outer = fun _ => inner innermost := by
  induction outer using List.reverseRecOn with
  | nil => rfl
  | append_singleton outer outermost ih =>
      funext asked
      rw [pinnedWithin_concat, pinned_apply, ih]

end Key.PublicResolver

namespace Token.Validator

variable {validator : Validator} {resolver : PublicResolver} {rules : List Rule}
  {circumstances : Circumstances} {token : String} {claims : Claims} {failure : Failure}

/-- A token is accepted when it is signed by the key that the resolver gives for it, its registered
claims can be read, and no rule has a message. -/
theorem validate_eq_ok_iff_signedBy :
    validator.validate resolver rules circumstances token = .ok claims ↔
      ∃ decoded key signature, decode? token = some decoded ∧
        resolver (keyIdOf decoded.header) = .ok key ∧
        validator.SignedBy decoded key signature ∧ RegisteredReadable decoded.payload ∧
        claims = claimsOf decoded ∧ ∀ rule ∈ rules, (rule circumstances claims).messages = [] := by
  rw [validate_eq_ok_iff, authenticate_eq_ok_iff]
  constructor
  · rintro ⟨⟨decoded, key, decodes, resolves, verified, made⟩, silent⟩
    obtain ⟨⟨signature, signed⟩, readable⟩ := verifies_iff.mp verified
    exact ⟨decoded, key, signature, decodes, resolves, signed,
      registeredReadable_iff.mp readable, made, silent⟩
  · rintro ⟨decoded, key, signature, decodes, resolves, signed, readable, made, silent⟩
    have verified : validator.verifies decoded key = true :=
      verifies_iff.mpr ⟨⟨signature, signed⟩, registeredReadable_iff.mpr readable⟩
    exact ⟨⟨decoded, key, decodes, resolves, verified, made⟩, silent⟩

/-- Where a resolver fails for every key, validation of a token that can be decoded fails in the
same way. -/
theorem validate_of_unresolved (wellFormed : ¬Malformed token)
    (fails : ∀ asked, resolver asked = .error failure) :
    validator.validate resolver rules circumstances token = .error failure := by
  cases decodes : decode? token with
  | none => exact absurd (malformed_iff.mpr decodes) wellFormed
  | some decoded =>
      simp only [validate_eq_bind, authenticate_eq, decodes, fails]
      rfl

/-- What pins leave of a resolver, and what validation through them comes to. -/
structure Pins (inner : PublicResolver) (innermost : String) (outer : List String) : Prop where
  /-- Whatever key is asked for, the answer is that of the inner resolver for the innermost pin. -/
  answer : ∀ asked, inner.pinnedWithin innermost outer asked = inner innermost
  /-- A token is accepted only if it is signed by the key of this answer, whatever key its header
  names, and then rules and claims decide. -/
  accepted_iff : ∀ validator rules circumstances token claims,
    validate validator (inner.pinnedWithin innermost outer) rules circumstances token =
        .ok claims ↔
      ∃ decoded key signature, decode? token = some decoded ∧ inner innermost = .ok key ∧
        validator.SignedBy decoded key signature ∧ RegisteredReadable decoded.payload ∧
        claims = claimsOf decoded ∧ ∀ rule ∈ rules, (rule circumstances claims).messages = []
  /-- Where the answer is a failure, every token that can be decoded fails with it. -/
  unresolved : ∀ failure, inner innermost = .error failure →
    ∀ validator rules circumstances token, ¬Malformed token →
      validate validator (inner.pinnedWithin innermost outer) rules circumstances token =
        .error failure
  /-- What the inner resolver knows under any other identifier has no say. -/
  others_unseen : ∀ other : PublicResolver, other innermost = inner innermost →
    ∀ validator rules circumstances token,
      validate validator (other.pinnedWithin innermost outer) rules circumstances token =
        validate validator (inner.pinnedWithin innermost outer) rules circumstances token

/-- No token has a say in the key that it is verified with through a pinned resolver. -/
theorem pins_pinnedWithin (inner : PublicResolver) (innermost : String) (outer : List String) :
    Pins inner innermost outer := by
  have pinned := PublicResolver.pinnedWithin_eq inner innermost outer
  constructor
  case answer =>
    intro asked
    rw [pinned]
  case accepted_iff =>
    intro validator rules circumstances token claims
    rw [pinned]
    exact validate_eq_ok_iff_signedBy
  case unresolved =>
    intro failure fails validator rules circumstances token wellFormed
    rw [pinned]
    exact validate_of_unresolved wellFormed fun _ => fails
  case others_unseen =>
    intro other same validator rules circumstances token
    rw [PublicResolver.pinnedWithin_eq, pinned, same]

/-- The header of a token names a key that is unknown, and the token is accepted under the pinned
one; when the unknown key is pinned, it is not. -/
theorem pins_pinnedWithin_sample :
    let inner : PublicResolver := fun id =>
      if id = "pin" then .ok (.p256 P256.generator) else .error (.resolution "no such key")
    let token := (Sample.token Sample.payload Sample.signature).text
    (∃ claims, Sample.validator.validate (inner.pinnedWithin "pin" ["k", ""]) []
        ⟨Instant.epoch, []⟩ token = .ok claims) ∧
      Sample.validator.validate (inner.pinnedWithin "k" ["", "pin"]) [] ⟨Instant.epoch, []⟩ token =
        .error (.resolution "no such key") := by
  intro inner token
  have decodes := decode?_sample Sample.reads_payload (by decide) Sample.signature
  have signed := signedBy_sample (Sample.scheme_verifies
    (Compact.unsigned Sample.header Sample.payload).signedOctets Sample.signature)
  have readable : RegisteredReadable Sample.payload := registeredReadable_iff.mp (by decide)
  constructor
  · exact ⟨_, ((pins_pinnedWithin inner "pin" ["k", ""]).accepted_iff _ _ _ _ _).mpr
      ⟨_, _, _, decodes, rfl, signed, readable, rfl, by simp⟩⟩
  · refine (pins_pinnedWithin inner "k" ["", "pin"]).unresolved _ rfl _ _ _ _ fun malformed => ?_
    rw [malformed_iff.mp malformed] at decodes
    cases decodes

end Token.Validator

end Attest
