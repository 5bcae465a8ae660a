import Attest.Key.PublicKeyEntry
import Attest.Key.Resolver

/-!
# Public keys at hand

A service for public keys keeps decoded keys at hand and falls back to a vault.
Only adding and preloading put keys at hand; a lookup never does.  A key at hand is
found without the vault, and any other costs one reading of it.  Whatever is wrong
with what the vault holds, the failure of a lookup is the same.
-/

namespace Attest.Key

/-- A service for public keys. -/
structure LocalService where
  registry : Registry
  /-- The keys at hand. -/
  cache : Table PublicKey := []
  vault : Vault := Vault.empty
  /-- How often a lookup has read the vault. -/
  reads : Nat := 0

namespace LocalService

/-- Put the key of a text at hand. -/
def add (service : LocalService) (id text : String) : Outcome LocalService := do
  let key ← service.registry.decodePublic text
  return { service with cache := Table.insert id key service.cache }

/-- The failure of an entry whose file cannot be read. -/
def unreadable (id path : String) (fault : Files.Fault) : Failure :=
  .resolution ("Failed to read public key '" ++ id ++ "' from '" ++ path ++ "': " ++ fault.message)

/-- The failure of an entry with neither a text nor a path. -/
def withoutText (id : String) : Failure :=
  .resolution ("Public key '" ++ id ++ "' has neither a value nor a path")

/-- The text of an entry: its own before that of its file. -/
def textOf (files : Files) (entry : PublicKeyEntry) : Outcome String :=
  match entry.value, entry.path with
  | some text, _ => .ok text
  | none, some path => (files.text path).mapError (unreadable entry.id path)
  | none, none => .error (withoutText entry.id)

/-- Put the key of an entry at hand. -/
def addEntry (files : Files) (service : LocalService) (entry : PublicKeyEntry) :
    Outcome LocalService := do
  service.add entry.id (← textOf files entry)

/-- Put the keys of entries at hand, up to the first that fails.  The service keeps
what the entries before it have added. -/
def preload (files : Files) (service : LocalService) :
    List PublicKeyEntry → Outcome Unit × LocalService
  | [] => (.ok (), service)
  | entry :: rest =>
      match addEntry files service entry with
      | .ok service => preload files service rest
      | .error failure => (.error failure, service)

/-- The key that the vault holds. -/
def inVault (service : LocalService) (id : String) : Outcome PublicKey :=
  match (service.vault.secret? id).bind fun text =>
      (service.registry.decodePublic text).toOption with
  | some key => .ok key
  | none => .error (.resolution (PublicResolver.unresolved id))

/-- Look a key up. -/
def resolve (service : LocalService) (id : String) : Outcome PublicKey × LocalService :=
  match Table.find? id service.cache with
  | some key => (.ok key, service)
  | none => (service.inVault id, { service with reads := service.reads + 1 })

/-- The resolver that a service is. -/
def resolver (service : LocalService) : PublicResolver := fun id =>
  (service.resolve id).1

/-- Store a secret in the vault. -/
def store (service : LocalService) (name secret : String) : LocalService :=
  { service with vault := service.vault.store name secret }

/-- Delete a secret of the vault. -/
def delete (service : LocalService) (name : String) : Outcome LocalService := do
  let vault ← service.vault.delete name
  return { service with vault }

/-- The number of keys at hand. -/
def size (service : LocalService) : Nat :=
  service.cache.length

/-- How a service is shown: only the number of keys at hand. -/
def shown (service : LocalService) : String :=
  Text.shownPartly "LocalPublicKeyService" [("cached_keys", toString service.size)]

@[simp]
theorem cache_resolve (service : LocalService) (id : String) :
    (service.resolve id).2.cache = service.cache := by
  unfold resolve
  split <;> rfl

end LocalService

end Attest.Key
