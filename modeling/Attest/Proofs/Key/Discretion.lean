import Attest.Proofs.Key.LocalService

/-!
# Failures that tell nothing

The forms of a registry may say what they like about a text that they cannot decode.  None of it
reaches a caller: a failed resolution says whether the text was read at all or held another kind of
key, and a service for public keys does not even say that.  So two texts that are refused in the
same way cannot be told apart, and putting the failures of the forms in other words changes nothing.
-/

namespace Attest.Key

variable {registry : Registry} {text : String} {failure : Failure}

/-! ## Two ways to be refused -/

/-- How a text is refused where one kind of key is wanted. -/
inductive Refusal where
  /-- No form makes anything of it. -/
  | unread
  /-- It is key material of another kind. -/
  | otherKind
  deriving DecidableEq

/-- The failure of a refusal, given the one for another kind of key. -/
def Refusal.failureOf (otherKind : Failure) : Refusal → Failure
  | .unread => .parse "No parser could decode the supplied key material"
  | .otherKind => otherKind

/-- A registry refuses a text in one of the two ways, the wanted keys being those that are picked
from key material. -/
def Registry.Refuses {κ : Type} (registry : Registry) (pick : KeyMaterial → Option κ)
    (text : String) : Refusal → Prop
  | .unread => ∀ form ∈ registry.forms, ∀ material, ¬form.Makes text material
  | .otherKind => ∃ material, registry.FirstMakes text material ∧ pick material = none

namespace Registry

/-- Decode a text that has to be a key of the kind that is picked. -/
def decodeAs {κ : Type} (registry : Registry) (pick : KeyMaterial → Option κ)
    (otherKind : Failure) (text : String) : Outcome κ := do
  match pick (← registry.decode text) with
  | some key => .ok key
  | none => .error otherKind

theorem decodePrivate_eq (registry : Registry) :
    registry.decodePrivate = registry.decodeAs KeyMaterial.private? notPrivate := by
  funext text
  rw [decodePrivate, decodeAs]
  cases registry.decode text with
  | error cause => rfl
  | ok material => cases material <;> rfl

theorem decodePublic_eq (registry : Registry) :
    registry.decodePublic = registry.decodeAs KeyMaterial.public? notPublic := by
  funext text
  rw [decodePublic, decodeAs]
  cases registry.decode text with
  | error cause => rfl
  | ok material => cases material <;> rfl

theorem refuses_unread_iff {κ : Type} (pick : KeyMaterial → Option κ) :
    registry.Refuses pick text .unread ↔ registry.decode text = .error undecodable := by
  rw [decode_eq_error_iff, Refuses, and_iff_right rfl]

theorem refuses_otherKind_iff {κ : Type} {pick : KeyMaterial → Option κ} :
    registry.Refuses pick text .otherKind ↔
      ∃ material, registry.decode text = .ok material ∧ pick material = none := by
  simp only [decode_eq_ok_iff_firstMakes, Refuses]

/-- Whatever kind of key is wanted, a text that does not yield one is refused in one of two ways. -/
theorem decodeAs_eq_error_iff {κ : Type} {pick : KeyMaterial → Option κ} {otherKind : Failure} :
    registry.decodeAs pick otherKind text = .error failure ↔
      ∃ refusal, registry.Refuses pick text refusal ∧ failure = refusal.failureOf otherKind := by
  have ways : (∃ refusal, registry.Refuses pick text refusal ∧
      failure = refusal.failureOf otherKind) ↔
        (registry.decode text = .error undecodable ∧ failure = undecodable) ∨
          (∃ material, registry.decode text = .ok material ∧ pick material = none) ∧
            failure = otherKind := by
    rw [← refuses_unread_iff pick, ← refuses_otherKind_iff]
    constructor
    · rintro ⟨refusal, refuses, rfl⟩
      cases refusal with
      | unread => exact .inl ⟨refuses, rfl⟩
      | otherKind => exact .inr ⟨refuses, rfl⟩
    · rintro (⟨refuses, rfl⟩ | ⟨refuses, rfl⟩)
      · exact ⟨.unread, refuses, rfl⟩
      · exact ⟨.otherKind, refuses, rfl⟩
  rw [ways, decodeAs]
  cases decoded : registry.decode text with
  | error cause =>
      obtain ⟨rfl, -⟩ := decode_eq_error_iff.mp decoded
      simp [bind, Except.bind, eq_comm]
  | ok material => cases picked : pick material <;> simp [bind, Except.bind, picked, eq_comm]

/-- A text is refused in one way only. -/
theorem eq_of_refuses {κ : Type} {pick : KeyMaterial → Option κ} {refusal other : Refusal}
    (refuses : registry.Refuses pick text refusal) (otherwise : registry.Refuses pick text other) :
    refusal = other := by
  have exclusive : registry.Refuses pick text .unread → ¬registry.Refuses pick text .otherKind := by
    rw [refuses_unread_iff, refuses_otherKind_iff]
    rintro unread ⟨material, read, -⟩
    rw [unread] at read
    cases read
  cases refusal <;> cases other
  case unread.unread => rfl
  case unread.otherKind => exact absurd otherwise (exclusive refuses)
  case otherKind.unread => exact absurd refuses (exclusive otherwise)
  case otherKind.otherKind => rfl

/-- Two texts that are refused have the same failure when they are refused in the same way, as long
as the failures of the two ways differ. -/
theorem failure_eq_iff {κ : Type} {pick : KeyMaterial → Option κ} {failureOf : Refusal → Failure}
    (differ : failureOf .unread ≠ failureOf .otherKind) {otherText : String}
    {otherFailure : Failure}
    (fails : ∃ refusal, registry.Refuses pick text refusal ∧ failure = failureOf refusal)
    (otherFails : ∃ refusal, registry.Refuses pick otherText refusal ∧
      otherFailure = failureOf refusal) :
    failure = otherFailure ↔
      ∃ refusal, registry.Refuses pick text refusal ∧ registry.Refuses pick otherText refusal := by
  obtain ⟨refusal, refuses, rfl⟩ := fails
  obtain ⟨other, otherRefuses, rfl⟩ := otherFails
  constructor
  · intro same
    have way : refusal = other := by
      cases refusal <;> cases other
      case unread.unread => rfl
      case unread.otherKind => exact absurd same differ
      case otherKind.unread => exact absurd same.symm differ
      case otherKind.otherKind => rfl
    exact ⟨refusal, refuses, way ▸ otherRefuses⟩
  · rintro ⟨way, first, second⟩
    rw [eq_of_refuses refuses first, eq_of_refuses otherRefuses second]

/-! ## Failures in other words -/

/-- The registry whose forms put their failures in other words, each form in its own way and with
regard to the text. -/
def reworded (reword : TextForm → String → Failure → Failure) (registry : Registry) : Registry where
  forms := registry.forms.map fun form =>
    { form with decode := fun text => (form.decode text).mapError (reword form text) }

/-- A registry drops the failures of its forms. -/
theorem decode_reworded (reword : TextForm → String → Failure → Failure) (registry : Registry) :
    (registry.reworded reword).decode = registry.decode := by
  funext text
  have attempts : (attempt? text ∘ fun form : TextForm =>
      { form with decode := fun text => (form.decode text).mapError (reword form text) }) =
        attempt? text := by
    funext form
    simp only [Function.comp_apply, attempt?]
    cases form.decode text <;> rfl
  rw [decode, decode, reworded, List.findSome?_map, attempts]

theorem decodeAs_reworded {κ : Type} (reword : TextForm → String → Failure → Failure)
    (registry : Registry) (pick : KeyMaterial → Option κ) (otherKind : Failure) :
    (registry.reworded reword).decodeAs pick otherKind = registry.decodeAs pick otherKind := by
  funext text
  rw [decodeAs, decodeAs, decode_reworded]

end Registry

/-! ## Resolvers -/

variable {source : Source} {configuration : Configuration} {id : String}

theorem PrivateResolver.ofSource_eq_error_iff
    (supplies : PrivateResolver.Supplies source configuration id text) :
    PrivateResolver.ofSource source configuration registry id = .error failure ↔
      ∃ refusal, registry.Refuses KeyMaterial.private? text refusal ∧
        failure = refusal.failureOf notPrivate := by
  rw [PrivateResolver.ofSource_of_supplies supplies, ← PrivateResolver.decodePrivate_eq_answer,
    Registry.decodePrivate_eq, Registry.decodeAs_eq_error_iff]

/-- The failure of a refusal under the name of the key that was asked for. -/
def PublicResolver.refused (id : String) (refusal : Refusal) : Failure :=
  (refusal.failureOf notPublic).withContext fun cause => unresolved id ++ ": " ++ cause

theorem PublicResolver.ofSource_eq_error_iff (found : source id = .ok text) :
    PublicResolver.ofSource source registry id = .error failure ↔
      ∃ refusal, registry.Refuses KeyMaterial.public? text refusal ∧
        failure = refused id refusal := by
  have decoded : PublicResolver.ofSource source registry id = .error failure ↔
      ∃ cause, registry.decodePublic text = .error cause ∧
        (cause.withContext fun words => unresolved id ++ ": " ++ words) = failure := by
    rw [PublicResolver.ofSource, found]
    exact mapError_eq_error_iff
  simp only [decoded, Registry.decodePublic_eq, Registry.decodeAs_eq_error_iff]
  constructor
  · rintro ⟨_, ⟨refusal, refuses, rfl⟩, rfl⟩
    exact ⟨refusal, refuses, rfl⟩
  · rintro ⟨refusal, refuses, rfl⟩
    exact ⟨_, ⟨refusal, refuses, rfl⟩, rfl⟩

/-- A service fails for a key that it does not have at hand and that its vault does not hold, for
whatever reason. -/
theorem LocalService.resolver_eq_error_iff {service : LocalService} :
    service.resolver id = .error failure ↔
      Table.find? id service.cache = none ∧
        (∀ text, service.vault.secret? id = some text →
          ∃ refusal, service.registry.Refuses KeyMaterial.public? text refusal) ∧
        failure = .resolution (PublicResolver.unresolved id) := by
  cases cached : Table.find? id service.cache with
  | some key => simp [LocalService.resolver, LocalService.resolve_of_cached cached]
  | none =>
      rw [LocalService.resolver, LocalService.resolve_of_uncached cached, and_iff_right rfl]
      cases held : service.vault.secret? id with
      | none => simp [LocalService.inVault, held, eq_comm]
      | some text =>
          have refused : (∃ refusal, service.registry.Refuses KeyMaterial.public? text refusal) ↔
              ∃ cause, service.registry.decodePublic text = .error cause := by
            simp only [Registry.decodePublic_eq, Registry.decodeAs_eq_error_iff]
            rw [exists_comm]
            simp
          simp only [Option.some.injEq, forall_eq', refused, LocalService.inVault, held,
            Option.bind_some]
          cases service.registry.decodePublic text <;> simp [Except.toOption, eq_comm]

/-- What failures about a key tell of its text. -/
structure TellsNothing (registry : Registry) (id : String) : Prop where
  /-- There is one failure of decoding. -/
  decoding : ∀ text failure, registry.decode text = .error failure →
    failure = .parse "No parser could decode the supplied key material"
  /-- A resolver for private keys has two failures, one for each way to refuse the text. -/
  privateFailure : ∀ source configuration text,
    PrivateResolver.Supplies source configuration id text → ∀ failure,
      PrivateResolver.ofSource source configuration registry id = .error failure ↔
        ∃ refusal, registry.Refuses KeyMaterial.private? text refusal ∧ failure =
          refusal.failureOf
            (.typeMismatch "The specified resource did not contain private key material.")
  privatePair : ∀ source configuration text otherSource otherConfiguration otherText,
    PrivateResolver.Supplies source configuration id text →
    PrivateResolver.Supplies otherSource otherConfiguration id otherText → ∀ failure otherFailure,
      PrivateResolver.ofSource source configuration registry id = .error failure →
      PrivateResolver.ofSource otherSource otherConfiguration registry id = .error otherFailure →
        (failure = otherFailure ↔ ∃ refusal, registry.Refuses KeyMaterial.private? text refusal ∧
          registry.Refuses KeyMaterial.private? otherText refusal)
  /-- So does a resolver for public keys, under the name of the key. -/
  publicFailure : ∀ (source : Source) text, source id = .ok text → ∀ failure,
    PublicResolver.ofSource source registry id = .error failure ↔
      ∃ refusal, registry.Refuses KeyMaterial.public? text refusal ∧ failure =
        (refusal.failureOf
          (.typeMismatch "The specified resource did not contain public key material.")).withContext
            fun cause => "No public key could be resolved for key-ID '" ++ id ++ "'" ++ ": " ++ cause
  publicPair : ∀ (source : Source) text (otherSource : Source) otherText, source id = .ok text →
    otherSource id = .ok otherText → ∀ failure otherFailure,
      PublicResolver.ofSource source registry id = .error failure →
      PublicResolver.ofSource otherSource registry id = .error otherFailure →
        (failure = otherFailure ↔ ∃ refusal, registry.Refuses KeyMaterial.public? text refusal ∧
          registry.Refuses KeyMaterial.public? otherText refusal)
  /-- A service has one failure: for no secret, for one that is not read and for other keys. -/
  localFailure : ∀ service : LocalService, service.registry = registry → ∀ failure,
    service.resolver id = .error failure ↔
      Table.find? id service.cache = none ∧
        (∀ text, service.vault.secret? id = some text →
          ∃ refusal, registry.Refuses KeyMaterial.public? text refusal) ∧
        failure = .resolution ("No public key could be resolved for key-ID '" ++ id ++ "'")
  /-- In what words the forms fail makes no difference, successes included. -/
  rewordedDecoding : ∀ reword, (registry.reworded reword).decode = registry.decode
  rewordedPrivate : ∀ reword source configuration,
    PrivateResolver.ofSource source configuration (registry.reworded reword) =
      PrivateResolver.ofSource source configuration registry
  rewordedPublic : ∀ reword source,
    PublicResolver.ofSource source (registry.reworded reword) =
      PublicResolver.ofSource source registry
  rewordedLocal : ∀ reword (service : LocalService), service.registry = registry →
    LocalService.resolver { service with registry := registry.reworded reword } = service.resolver

/-- Failures tell how a text was refused, or not even that, and never what it said. -/
theorem failures_tell_nothing (registry : Registry) (id : String) : TellsNothing registry id := by
  have decodePrivate : ∀ reword, (registry.reworded reword).decodePrivate =
      registry.decodePrivate := by
    intro reword
    rw [Registry.decodePrivate_eq, Registry.decodePrivate_eq, Registry.decodeAs_reworded]
  have decodePublic : ∀ reword, (registry.reworded reword).decodePublic =
      registry.decodePublic := by
    intro reword
    rw [Registry.decodePublic_eq, Registry.decodePublic_eq, Registry.decodeAs_reworded]
  constructor
  case decoding =>
    intro text failure undecoded
    exact (Registry.decode_eq_error_iff.mp undecoded).1
  case privateFailure =>
    intro source configuration text supplies failure
    exact PrivateResolver.ofSource_eq_error_iff supplies
  case privatePair =>
    intro source configuration text otherSource otherConfiguration otherText supplies otherSupplies
      failure otherFailure fails otherFails
    have differ : Refusal.unread.failureOf notPrivate ≠ Refusal.otherKind.failureOf notPrivate := by
      rintro ⟨⟩
    exact Registry.failure_eq_iff differ
      ((PrivateResolver.ofSource_eq_error_iff supplies).mp fails)
      ((PrivateResolver.ofSource_eq_error_iff otherSupplies).mp otherFails)
  case publicFailure =>
    intro source text found failure
    exact PublicResolver.ofSource_eq_error_iff found
  case publicPair =>
    intro source text otherSource otherText found otherFound failure otherFailure fails otherFails
    have differ : PublicResolver.refused id .unread ≠ PublicResolver.refused id .otherKind := by
      rintro ⟨⟩
    exact Registry.failure_eq_iff differ
      ((PublicResolver.ofSource_eq_error_iff found).mp fails)
      ((PublicResolver.ofSource_eq_error_iff otherFound).mp otherFails)
  case localFailure =>
    rintro service rfl failure
    exact LocalService.resolver_eq_error_iff
  case rewordedDecoding =>
    intro reword
    exact Registry.decode_reworded reword registry
  case rewordedPrivate =>
    intro reword source configuration
    funext asked
    rw [PrivateResolver.ofSource, PrivateResolver.ofSource, decodePrivate]
  case rewordedPublic =>
    intro reword source
    funext asked
    rw [PublicResolver.ofSource, PublicResolver.ofSource, decodePublic]
  case rewordedLocal =>
    rintro reword service rfl
    funext asked
    rw [LocalService.resolver, LocalService.resolver, LocalService.resolve, LocalService.resolve]
    cases Table.find? asked service.cache with
    | some key => rfl
    | none => simp only [LocalService.inVault, decodePublic]

end Attest.Key
