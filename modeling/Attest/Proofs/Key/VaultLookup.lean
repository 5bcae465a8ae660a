import Attest.Proofs.Key.LocalService

/-!
# Two ways to the public keys of a vault

A service looks a key that it does not have at hand up in its vault; a resolver over the same vault
looks there for every key.  Both find the same keys, whatever has been asked of the service before,
and fail for the same identifiers.  The failures differ: the one of the service never says why, the
one of the resolver keeps the kind of its cause and ends with the words of it.
-/

namespace Attest.Key

variable {registry : Registry} {vault : Vault} {id : String}

/-! ## The resolver over a vault -/

/-- Why a vault has no public key under an identifier. -/
inductive Hindrance (registry : Registry) (vault : Vault) (id : String) : Failure → Prop
  | absent (missing : vault.secret? id = none) :
      Hindrance registry vault id
        (.resolution ("No secret found in vault for alias '" ++ id ++ "'"))
  | undecodable {text : String} (held : vault.secret? id = some text)
      (unread : ∀ form ∈ registry.forms, ∀ material, ¬form.Makes text material) :
      Hindrance registry vault id (.parse "No parser could decode the supplied key material")
  | notPublic {text : String} {material : KeyMaterial} (held : vault.secret? id = some text)
      (decoded : registry.decode text = .ok material) (other : ∀ key, material ≠ .publicKey key) :
      Hindrance registry vault id
        (.typeMismatch "The specified resource did not contain public key material.")

/-- The public key that a vault holds, or why it holds none. -/
def heldIn (registry : Registry) (vault : Vault) (id : String) : Outcome PublicKey :=
  (Source.ofVault vault id).bind registry.decodePublic

theorem heldIn_of_held {text : String} (held : vault.secret? id = some text) :
    heldIn registry vault id = registry.decodePublic text := by
  rw [heldIn, Source.ofVault, held]
  rfl

theorem heldIn_of_missing (missing : vault.secret? id = none) :
    heldIn registry vault id = .error (Source.notInVault id) := by
  rw [heldIn, Source.ofVault, missing]
  rfl

theorem heldIn_eq_ok_iff {key : PublicKey} :
    heldIn registry vault id = .ok key ↔
      ∃ text, vault.secret? id = some text ∧ registry.decode text = .ok (.publicKey key) := by
  cases held : vault.secret? id with
  | none => simp [heldIn_of_missing held]
  | some text => simp [heldIn_of_held held, Registry.decodePublic_eq_ok_iff]

theorem hindrance_of_heldIn_eq_error {cause : Failure}
    (fails : heldIn registry vault id = .error cause) : Hindrance registry vault id cause := by
  cases held : vault.secret? id with
  | none =>
      rw [heldIn_of_missing held] at fails
      cases fails
      exact .absent held
  | some text =>
      rw [heldIn_of_held held] at fails
      rcases Registry.decodePublic_eq_error_iff.mp fails with
        undecoded | ⟨material, decoded, other, rfl⟩
      · rcases Registry.decode_eq_error_iff.mp undecoded with ⟨rfl, unread⟩
        exact .undecodable held unread
      · exact .notPublic held decoded other

theorem PublicResolver.ofSource_ofVault (registry : Registry) (vault : Vault) (id : String) :
    ofSource (Source.ofVault vault) registry id =
      (heldIn registry vault id).mapError fun failure =>
        failure.withContext fun cause => unresolved id ++ ": " ++ cause :=
  rfl

/-- None of the causes is a violated rule, so that each is one message. -/
theorem text_unresolved_of_hindrance {cause : Failure}
    (hindrance : Hindrance registry vault id cause) :
    (cause.withContext fun words => PublicResolver.unresolved id ++ ": " ++ words).text =
      "No public key could be resolved for key-ID '" ++ id ++ "': " ++ cause.text := by
  have joint : "': " = "'" ++ ": " := rfl
  rw [joint, ← String.append_assoc]
  cases hindrance <;> rfl

/-! ## Both ways -/

/-- A service and a resolver over its vault agree on an identifier. -/
structure Agree (registry : Registry) (service : LocalService) (id : String) : Prop where
  ok_iff : ∀ key, service.resolver id = .ok key ↔
    PublicResolver.ofSource (Source.ofVault service.vault) registry id = .ok key
  error_iff : (∃ failure, service.resolver id = .error failure) ↔
    ∃ failure, PublicResolver.ofSource (Source.ofVault service.vault) registry id = .error failure
  /-- The failure of the service is the same whatever its cause is. -/
  causeless : ∀ failure, service.resolver id = .error failure →
    failure = .resolution ("No public key could be resolved for key-ID '" ++ id ++ "'")
  /-- The failure of the resolver is of the kind of its cause and ends with it. -/
  caused : ∀ failure,
    PublicResolver.ofSource (Source.ofVault service.vault) registry id = .error failure →
      ∃ cause, Hindrance registry service.vault id cause ∧ failure.category = cause.category ∧
        failure.text = "No public key could be resolved for key-ID '" ++ id ++ "': " ++ cause.text

/-- What is not at hand is looked up as the resolver looks it up. -/
theorem agree_of_uncached {service : LocalService}
    (uncached : Table.find? id service.cache = none) : Agree service.registry service id := by
  have resolved : service.resolver id = service.inVault id := by
    rw [LocalService.resolver, LocalService.resolve_of_uncached uncached]
  have same : ∀ key, service.resolver id = .ok key ↔
      heldIn service.registry service.vault id = .ok key := by
    intro key
    rw [resolved, LocalService.inVault_eq_ok_iff, heldIn_eq_ok_iff]
  constructor
  case ok_iff =>
    intro key
    rw [same, PublicResolver.ofSource_ofVault, mapError_eq_ok_iff]
  case error_iff =>
    rw [PublicResolver.ofSource_ofVault]
    cases held : heldIn service.registry service.vault id with
    | ok key => simp [(same key).mpr held, Except.mapError]
    | error cause =>
        cases found : service.resolver id with
        | ok key =>
            rw [(same key).mp found] at held
            cases held
        | error failure => simp [Except.mapError]
  case causeless =>
    intro failure fails
    rw [resolved] at fails
    have refused : ∀ key, service.inVault id ≠ .ok key := by simp [fails]
    rw [LocalService.inVault_of_ne_ok refused] at fails
    cases fails
    rfl
  case caused =>
    intro failure fails
    rw [PublicResolver.ofSource_ofVault] at fails
    cases held : heldIn service.registry service.vault id with
    | ok key =>
        rw [held] at fails
        cases fails
    | error cause =>
        rw [held] at fails
        cases fails
        have hindrance := hindrance_of_heldIn_eq_error held
        exact ⟨cause, hindrance, Failure.category_withContext _ cause,
          text_unresolved_of_hindrance hindrance⟩

/-- After any run, an identifier whose key was never put at hand is looked up alike on both ways. -/
theorem agree_run (registry : Registry) (secrets : List (String × String))
    (requests : List LocalService.Request) (id : String)
    (never : ∀ request ∈ requests, ∀ added ∈ LocalService.additions registry request,
      added.1 ≠ id) :
    Agree registry (LocalService.run { registry, vault := Vault.ofEntries secrets } requests) id := by
  have registered : (LocalService.run { registry, vault := Vault.ofEntries secrets }
      requests).registry = registry := LocalService.registry_run requests _
  have uncached := (LocalService.find?_cache_run registry (Vault.ofEntries secrets) requests id).trans
    (LocalService.lastAdded?_eq_none_iff.mpr never)
  have agreed := agree_of_uncached uncached
  rwa [registered] at agreed

/-- Another key was put at hand, and the vault was asked and changed, before the key is looked up on
both ways. -/
theorem agree_run_sample :
    let text := "\x7b\"kty\":\"RSA\",\"n\":\"Nw\",\"e\":\"Aw\"\x7d"
    let service := LocalService.run
      { registry := Registry.standard, vault := Vault.ofEntries [("k", text)] }
      [.add "other" text, .resolve "k", .store "last" "garbage", .delete "none"]
    service.resolver "k" = .ok (.rsa ⟨55, 3⟩) ∧
      PublicResolver.ofSource (Source.ofVault service.vault) Registry.standard "k" =
        .ok (.rsa ⟨55, 3⟩) := by
  intro text service
  have agree : Agree Registry.standard service "k" :=
    agree_run Registry.standard [("k", text)] _ "k" (by decide +kernel)
  have resolved : service.resolver "k" = .ok (.rsa ⟨55, 3⟩) :=
    toOption_eq_some_iff.mp (by decide +kernel)
  exact ⟨resolved, (agree.ok_iff _).mp resolved⟩

end Attest.Key
