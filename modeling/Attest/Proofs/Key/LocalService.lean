import Attest.Key.LocalService
import Attest.Proofs.Key.Resolver
import Attest.Proofs.Vault
import Mathlib.Data.Finset.Card

/-!
# Runs of a service for public keys

A run is any sequence of requests.  The keys at hand after a run are those that were added
last under their identifiers, a preload adding what stands before its first failing entry;
the vault holds what was stored last and not deleted since.  In every state that a run
reaches, a lookup answers from the keys at hand without the vault, and from the vault by one
reading of it.
-/

namespace Attest.Key

namespace LocalService

/-! ## Requests -/

/-- What can be asked of a service; a preload sees the files as they are then. -/
inductive Request where
  | add (id text : String)
  | preload (files : Files) (entries : List PublicKeyEntry)
  | resolve (id : String)
  | store (name secret : String)
  | delete (name : String)

/-- The service after a request; one that fails to add or to delete stays as it is. -/
def after (service : LocalService) : Request → LocalService
  | .add id text => (service.add id text).toOption.getD service
  | .preload files entries => (service.preload files entries).2
  | .resolve id => (service.resolve id).2
  | .store name secret => service.store name secret
  | .delete name => (service.delete name).toOption.getD service

/-- The service after requests, one after the other. -/
def run (service : LocalService) (requests : List Request) : LocalService :=
  requests.foldl after service

/-! ## What a run has added and stored -/

/-- The identifier and the key of an entry, if its text is there and is a public key. -/
def entryKey? (registry : Registry) (files : Files) (entry : PublicKeyEntry) :
    Option (String × PublicKey) :=
  ((textOf files entry).bind registry.decodePublic).toOption.map fun key => (entry.id, key)

/-- The keys that a request adds: that of its text, or those of the entries before the first
one without a key. -/
def additions (registry : Registry) : Request → List (String × PublicKey)
  | .add id text => ((registry.decodePublic text).toOption.map fun key => (id, key)).toList
  | .preload files entries =>
      (entries.takeWhile fun entry => (entryKey? registry files entry).isSome).filterMap
        (entryKey? registry files)
  | _ => []

/-- The secrets after a request. -/
def secretsAfter (secrets : String → Option String) : Request → String → Option String
  | .store name secret => Function.update secrets name (some secret)
  | .delete name => Function.update secrets name none
  | _ => secrets

variable {service : LocalService} {request : Request} {id text : String}

/-! ## One request -/

theorem add_eq (service : LocalService) (id text : String) :
    service.add id text = (service.registry.decodePublic text).map fun key =>
      { service with cache := Table.insert id key service.cache } := by
  rw [add]
  cases service.registry.decodePublic text <;> rfl

theorem addEntry_toOption (files : Files) (service : LocalService) (entry : PublicKeyEntry) :
    (addEntry files service entry).toOption =
      (entryKey? service.registry files entry).map fun added =>
        { service with cache := Table.insert added.1 added.2 service.cache } := by
  rw [addEntry, entryKey?]
  cases textOf files entry with
  | error failure => rfl
  | ok text =>
      simp only [bind, Except.bind, add_eq]
      cases service.registry.decodePublic text <;> rfl

/-- An entry fails when it has no key, and otherwise writes its key. -/
theorem addEntry_cases (files : Files) (service : LocalService) (entry : PublicKeyEntry) :
    (entryKey? service.registry files entry = none ∧
      ∃ failure, addEntry files service entry = .error failure) ∨
    ∃ added, entryKey? service.registry files entry = some added ∧
      addEntry files service entry =
        .ok { service with cache := Table.insert added.1 added.2 service.cache } := by
  have result := addEntry_toOption files service entry
  cases attempt : addEntry files service entry with
  | error failure =>
      rw [attempt] at result
      exact .inl ⟨Option.map_eq_none_iff.mp result.symm, failure, rfl⟩
  | ok next =>
      rw [attempt] at result
      obtain ⟨added, found, rfl⟩ := Option.map_eq_some_iff.mp result.symm
      exact .inr ⟨added, found, rfl⟩

/-- A preload writes the keys of the entries before the first that fails. -/
theorem preload_eq (files : Files) (service : LocalService) (entries : List PublicKeyEntry) :
    (service.preload files entries).2 =
      { service with
        cache := Table.insertAll service.cache
          (additions service.registry (.preload files entries)) } := by
  induction entries generalizing service with
  | nil => rfl
  | cons entry rest ih =>
      rcases addEntry_cases files service entry with
        ⟨missing, failure, attempt⟩ | ⟨added, found, attempt⟩
      · simp [preload, attempt, additions, missing]
      · rw [preload, attempt, ih]
        simp only [additions, List.takeWhile_cons, found, Option.isSome_some, if_true,
          List.filterMap_cons]
        rfl

/-- A preload succeeds when every entry has a key, whatever is at hand or in the vault. -/
theorem preload_eq_ok_iff {files : Files} {entries : List PublicKeyEntry} :
    (service.preload files entries).1 = .ok () ↔
      ∀ entry ∈ entries, (entryKey? service.registry files entry).isSome := by
  induction entries generalizing service with
  | nil => simp [preload]
  | cons entry rest ih =>
      rw [preload, List.forall_mem_cons]
      rcases addEntry_cases files service entry with
        ⟨missing, failure, attempt⟩ | ⟨added, found, attempt⟩
      · simp [attempt, missing]
      · simp only [attempt, found, Option.isSome_some, true_and]
        exact ih

/-- Every request writes its additions to the keys at hand, and nothing else. -/
theorem cache_after (service : LocalService) (request : Request) :
    (service.after request).cache =
      Table.insertAll service.cache (additions service.registry request) := by
  cases request with
  | add id text =>
      rw [after, add_eq, additions]
      cases service.registry.decodePublic text <;> rfl
  | preload files entries => rw [after, preload_eq]
  | resolve id => exact cache_resolve service id
  | store name secret => rfl
  | delete name =>
      rw [after, delete]
      cases service.vault.delete name <;> rfl

theorem registry_after (service : LocalService) (request : Request) :
    (service.after request).registry = service.registry := by
  cases request with
  | add id text =>
      rw [after, add_eq]
      cases service.registry.decodePublic text <;> rfl
  | preload files entries => rw [after, preload_eq]
  | resolve id =>
      rw [after, resolve]
      split <;> rfl
  | store name secret => rfl
  | delete name =>
      rw [after, delete]
      cases service.vault.delete name <;> rfl

theorem nodup_secrets_after (distinct : (Table.keys service.vault.secrets).Nodup) :
    (Table.keys (service.after request).vault.secrets).Nodup := by
  cases request with
  | add id text =>
      rw [after, add_eq]
      cases service.registry.decodePublic text <;> exact distinct
  | preload files entries =>
      rw [after, preload_eq]
      exact distinct
  | resolve id =>
      rw [after, resolve]
      split <;> exact distinct
  | store name secret => exact Table.nodup_keys_insert name secret distinct
  | delete name =>
      have kept := Vault.nodup_delete distinct name
      rw [after, delete]
      cases deleted : service.vault.delete name with
      | error failure => exact distinct
      | ok vault =>
          rw [deleted] at kept
          exact kept

/-- Only storing and deleting change the vault, each at its own name. -/
theorem secrets_after (distinct : (Table.keys service.vault.secrets).Nodup)
    (request : Request) :
    (service.after request).vault.secret? = secretsAfter service.vault.secret? request := by
  cases request with
  | add id text =>
      rw [after, add_eq]
      cases service.registry.decodePublic text <;> rfl
  | preload files entries =>
      rw [after, preload_eq]
      rfl
  | resolve id =>
      rw [after, resolve]
      split <;> rfl
  | store name secret => exact Vault.secret?_store service.vault name secret
  | delete name =>
      rw [secretsAfter, ← Vault.secret?_delete distinct, after, delete]
      cases service.vault.delete name <;> rfl

/-! ## Lookups -/

/-- A key at hand is found without the vault. -/
theorem resolve_of_cached {key : PublicKey} (cached : Table.find? id service.cache = some key) :
    service.resolve id = (.ok key, service) := by
  simp only [resolve, cached]

theorem resolve_of_uncached (uncached : Table.find? id service.cache = none) :
    service.resolve id = (service.inVault id, { service with reads := service.reads + 1 }) := by
  simp only [resolve, uncached]

theorem inVault_eq_ok_iff {key : PublicKey} :
    service.inVault id = .ok key ↔
      ∃ text, service.vault.secret? id = some text ∧
        service.registry.decode text = .ok (.publicKey key) := by
  have decoded : (service.vault.secret? id).bind (fun text =>
      (service.registry.decodePublic text).toOption) = some key ↔
        ∃ text, service.vault.secret? id = some text ∧
          service.registry.decode text = .ok (.publicKey key) := by
    rw [Option.bind_eq_some_iff]
    refine exists_congr fun text => and_congr_right fun _ => ?_
    rw [← Registry.decodePublic_eq_ok_iff]
    cases service.registry.decodePublic text <;> simp [Except.toOption]
  rw [← decoded, inVault]
  split
  · next found held => simp [held]
  · next missing => simp [missing]

/-- Whatever keeps the vault from yielding a key, the failure is the same. -/
theorem inVault_of_ne_ok (refused : ∀ key, service.inVault id ≠ .ok key) :
    service.inVault id = .error (.resolution (PublicResolver.unresolved id)) := by
  rw [inVault]
  split
  · next key held =>
      have found : service.inVault id = .ok key := by simp only [inVault, held]
      exact absurd found (refused key)
  · rfl

/-! ## Runs -/

theorem run_cons (service : LocalService) (request : Request) (requests : List Request) :
    service.run (request :: requests) = (service.after request).run requests :=
  rfl

theorem run_append (service : LocalService) (first second : List Request) :
    service.run (first ++ second) = (service.run first).run second :=
  List.foldl_append

theorem registry_run (requests : List Request) (service : LocalService) :
    (service.run requests).registry = service.registry := by
  induction requests generalizing service with
  | nil => rfl
  | cons request rest ih => rw [run_cons, ih, registry_after]

/-- A run writes the additions of its requests in their order. -/
theorem cache_run (requests : List Request) (service : LocalService) :
    (service.run requests).cache =
      Table.insertAll service.cache (requests.flatMap (additions service.registry)) := by
  induction requests generalizing service with
  | nil => rfl
  | cons request rest ih =>
      rw [run_cons, ih, cache_after, registry_after, List.flatMap_cons, Table.insertAll_append]

theorem secrets_run (requests : List Request)
    (distinct : (Table.keys service.vault.secrets).Nodup) :
    (service.run requests).vault.secret? = requests.foldl secretsAfter service.vault.secret? := by
  induction requests generalizing service with
  | nil => rfl
  | cons request rest ih =>
      rw [run_cons, ih (nodup_secrets_after distinct), secrets_after distinct, List.foldl_cons]

/-- The number of keys at hand is the number of identifiers that were added. -/
theorem size_run_empty (requests : List Request) (empty : service.cache = []) :
    (service.run requests).size =
      (Table.keys (requests.flatMap (additions service.registry))).toFinset.card := by
  rw [size, cache_run, empty]
  have distinct := Table.nodup_keys_ofEntries (requests.flatMap (additions service.registry))
  calc
    (Table.ofEntries (requests.flatMap (additions service.registry))).length =
        (Table.keys (Table.ofEntries
          (requests.flatMap (additions service.registry)))).toFinset.card := by
      rw [List.toFinset_card_of_nodup distinct, Table.keys, List.length_map]
    _ = (Table.keys (requests.flatMap (additions service.registry))).toFinset.card := by
      congr 1
      ext key
      rw [List.mem_toFinset, List.mem_toFinset, Table.mem_keys_ofEntries]

theorem size_le_size_after (service : LocalService) (request : Request) :
    service.size ≤ (service.after request).size := by
  rw [size, size, cache_after]
  exact Table.length_insertAll _ _

/-- The key that a run has added last under an identifier. -/
def lastAdded? (registry : Registry) (requests : List Request) (id : String) : Option PublicKey :=
  Table.find? id (requests.flatMap (additions registry)).reverse

theorem lastAdded?_eq_none_iff {registry : Registry} {requests : List Request} {id : String} :
    lastAdded? registry requests id = none ↔
      ∀ request ∈ requests, ∀ added ∈ additions registry request, added.1 ≠ id := by
  rw [lastAdded?, Table.find?_eq_none_iff, Table.keys, List.map_reverse, List.mem_reverse,
    List.mem_map]
  constructor
  · intro absent request member added addition same
    exact absent ⟨added, List.mem_flatMap.mpr ⟨request, member, addition⟩, same⟩
  · rintro never ⟨added, addition, same⟩
    rcases List.mem_flatMap.mp addition with ⟨request, member, addition⟩
    exact never request member added addition same

/-- What a service that started with no keys at hand has at hand after a run. -/
theorem find?_cache_run (registry : Registry) (vault : Vault) (requests : List Request)
    (id : String) :
    Table.find? id (run { registry, vault } requests).cache = lastAdded? registry requests id := by
  rw [cache_run, ← Table.ofEntries, Table.find?_ofEntries]
  rfl

/-- The two tiers of a service that started with no keys at hand and with the given secrets,
after a run. -/
structure TwoTier (registry : Registry) (secrets : String → Option String)
    (requests : List Request) (service : LocalService) : Prop where
  /-- The keys at hand are the ones added last, and no others. -/
  cache : ∀ id, Table.find? id service.cache = lastAdded? registry requests id
  size : service.size = (Table.keys (requests.flatMap (additions registry))).toFinset.card
  growing : ∀ request, service.size ≤ (service.after request).size
  /-- The secrets are the ones stored last and not deleted since. -/
  vault : service.vault.secret? = requests.foldl secretsAfter secrets
  storing : ∀ name secret, (service.after (.store name secret)).cache = service.cache
  deleting : ∀ name, (service.after (.delete name)).cache = service.cache
  /-- A key at hand is found in the service as it is, whatever the vault holds. -/
  hit : ∀ id key, lastAdded? registry requests id = some key → ∀ vault : Vault,
    { service with vault }.resolve id = (.ok key, { service with vault })
  /-- Any other lookup reads the vault once and changes nothing else. -/
  miss : ∀ id, lastAdded? registry requests id = none →
    (service.resolve id).2 = { service with reads := service.reads + 1 }
  missOk : ∀ id, lastAdded? registry requests id = none → ∀ key,
    (service.resolve id).1 = .ok key ↔
      ∃ text, service.vault.secret? id = some text ∧ registry.decode text = .ok (.publicKey key)
  missError : ∀ id, lastAdded? registry requests id = none →
    (∀ key, (service.resolve id).1 ≠ .ok key) → (service.resolve id).1 =
      .error (.resolution ("No public key could be resolved for key-ID '" ++ id ++ "'"))

/-- Every run keeps the two tiers as its requests say. -/
theorem twoTier_run (registry : Registry) (secrets : List (String × String))
    (requests : List Request) :
    TwoTier registry (Vault.ofEntries secrets).secret? requests
      (run { registry, vault := Vault.ofEntries secrets } requests) := by
  have registered := registry_run requests { registry, vault := Vault.ofEntries secrets }
  have cached : ∀ id, Table.find? id
      (run { registry, vault := Vault.ofEntries secrets } requests).cache =
        lastAdded? registry requests id :=
    find?_cache_run registry (Vault.ofEntries secrets) requests
  generalize reached : run { registry, vault := Vault.ofEntries secrets } requests = service at *
  refine ⟨cached, ?size, size_le_size_after service, ?vault, ?storing, ?deleting, ?hit, ?miss,
    ?missOk, ?missError⟩
  case size =>
    rw [← reached]
    exact size_run_empty requests rfl
  case vault =>
    rw [← reached]
    exact secrets_run requests (Table.nodup_keys_ofEntries secrets)
  case storing =>
    intro name secret
    exact cache_after service (.store name secret)
  case deleting =>
    intro name
    exact cache_after service (.delete name)
  case hit =>
    intro id key added vault
    have found : Table.find? id ({ service with vault } : LocalService).cache = some key :=
      (cached id).trans added
    exact resolve_of_cached found
  case miss =>
    intro id missing
    rw [resolve_of_uncached ((cached id).trans missing)]
  case missOk =>
    intro id missing key
    rw [resolve_of_uncached ((cached id).trans missing), inVault_eq_ok_iff, registered]
  case missError =>
    intro id missing refused
    rw [resolve_of_uncached ((cached id).trans missing)] at refused ⊢
    exact inVault_of_ne_ok refused

end LocalService

end Attest.Key
