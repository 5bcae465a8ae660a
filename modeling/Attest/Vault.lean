import Attest.Failure
import Attest.Table
import Attest.Text.Shown

/-!
# Vaults

A vault keeps secrets, the texts of keys, under their names.  A secret that is
stored again is replaced; deleting one that is not there is a failure and changes
nothing.
-/

namespace Attest

/-- Secrets under their names. -/
structure Vault where
  secrets : Table String := []
  deriving Repr, Inhabited

namespace Vault

/-- The vault that holds nothing. -/
def empty : Vault := {}

/-- The vault with the given secrets. -/
def ofEntries (entries : List (String × String)) : Vault :=
  ⟨Table.ofEntries entries⟩

/-- The secret under a name. -/
def secret? (vault : Vault) (name : String) : Option String :=
  Table.find? name vault.secrets

/-- Store or replace a secret. -/
def store (vault : Vault) (name secret : String) : Vault :=
  ⟨Table.insert name secret vault.secrets⟩

/-- The failure of deleting a secret that is not there. -/
def absent (name : String) : Failure :=
  .resolution ("Secret with key '" ++ name ++ "' does not exist")

/-- Delete a secret. -/
def delete (vault : Vault) (name : String) : Outcome Vault :=
  if Table.has name vault.secrets then .ok ⟨Table.erase name vault.secrets⟩
  else .error (absent name)

/-- The number of secrets. -/
def size (vault : Vault) : Nat :=
  vault.secrets.length

/-- How a vault is shown: only the number of its secrets. -/
def shown (vault : Vault) : String :=
  Text.shownRecord "InMemoryVault" [("secrets", toString vault.size)]

@[simp]
theorem secret?_store_self (vault : Vault) (name secret : String) :
    (vault.store name secret).secret? name = some secret := by
  simp [store, secret?]

theorem secret?_store_of_ne {name other : String} (h : name ≠ other) (vault : Vault)
    (secret : String) : (vault.store name secret).secret? other = vault.secret? other := by
  simp [store, secret?, Table.find?_insert_of_ne h]

end Vault

end Attest
