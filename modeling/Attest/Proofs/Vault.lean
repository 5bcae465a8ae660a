import Attest.Proofs.Table
import Attest.Vault
import Mathlib.Logic.Function.Basic

/-!
# Histories of a vault

A vault changes by storing and by deleting, each at one name.  After any history the secret under
a name is what the last change at this name has left there, and the secret from before the history
when there is none.
-/

namespace Attest.Vault

/-! ## One change -/

theorem secret?_store (vault : Vault) (name secret : String) :
    (vault.store name secret).secret? = Function.update vault.secret? name (some secret) := by
  funext other
  rcases eq_or_ne other name with rfl | different
  · simp
  · rw [secret?_store_of_ne different.symm, Function.update_of_ne different]

theorem secret?_delete {vault : Vault} (distinct : (Table.keys vault.secrets).Nodup)
    (name : String) :
    ((vault.delete name).toOption.getD vault).secret? =
      Function.update vault.secret? name none := by
  rw [delete]
  split
  · funext other
    rcases eq_or_ne other name with rfl | different
    · rw [Function.update_self]
      exact Table.find?_erase_self distinct
    · rw [Function.update_of_ne different]
      exact Table.find?_erase_of_ne different.symm vault.secrets
  · next absent =>
      rw [Bool.not_eq_true, Table.has, Option.isSome_eq_false_iff, Option.isNone_iff_eq_none] at absent
      exact (Function.update_eq_self_iff.mpr absent.symm).symm

theorem nodup_delete {vault : Vault} (distinct : (Table.keys vault.secrets).Nodup)
    (name : String) :
    (Table.keys ((vault.delete name).toOption.getD vault).secrets).Nodup := by
  rw [delete]
  split
  · exact Table.nodup_keys_erase name distinct
  · exact distinct

/-- What can be done to a vault. -/
inductive Change where
  | store (name secret : String)
  | delete (name : String)

/-- The vault after a change; deleting what is not there leaves it as it is. -/
def after (vault : Vault) : Change → Vault
  | .store name secret => vault.store name secret
  | .delete name => (vault.delete name).toOption.getD vault

/-- What a change leaves under a name: nothing to speak of when it is made at another one. -/
def Change.leaves? (name : String) : Change → Option (Option String)
  | .store other secret => if other = name then some (some secret) else none
  | .delete other => if other = name then some none else none

variable {vault : Vault} {change : Change}

theorem nodup_after (distinct : (Table.keys vault.secrets).Nodup) :
    (Table.keys (vault.after change).secrets).Nodup := by
  cases change with
  | store name secret => exact Table.nodup_keys_insert name secret distinct
  | delete name => exact nodup_delete distinct name

theorem secret?_after (distinct : (Table.keys vault.secrets).Nodup) (change : Change)
    (name : String) :
    (vault.after change).secret? name = (change.leaves? name).getD (vault.secret? name) := by
  cases change with
  | store other secret =>
      rw [after, secret?_store, Function.update_apply, Change.leaves?]
      rcases eq_or_ne other name with rfl | different
      · simp
      · simp [different, different.symm]
  | delete other =>
      rw [after, secret?_delete distinct, Function.update_apply, Change.leaves?]
      rcases eq_or_ne other name with rfl | different
      · simp
      · simp [different, different.symm]

/-! ## Histories -/

/-- The vault after a history of changes. -/
def run (vault : Vault) (history : List Change) : Vault :=
  history.foldl after vault

/-- What a history leaves under a name where there was something before: what its last change at
the name has left. -/
def leftBy (history : List Change) (name : String) (before : Option String) : Option String :=
  (history.reverse.findSome? (Change.leaves? name)).getD before

@[simp]
theorem leftBy_nil (name : String) (before : Option String) : leftBy [] name before = before :=
  rfl

theorem leftBy_cons (change : Change) (rest : List Change) (name : String)
    (before : Option String) :
    leftBy (change :: rest) name before =
      leftBy rest name ((change.leaves? name).getD before) := by
  rw [leftBy, leftBy, List.reverse_cons, List.findSome?_append, List.findSome?_singleton]
  cases rest.reverse.findSome? (Change.leaves? name) <;> rfl

/-- After a history, a name has what the last change at it has left. -/
theorem secret?_run (distinct : (Table.keys vault.secrets).Nodup) (history : List Change)
    (name : String) :
    (vault.run history).secret? name = leftBy history name (vault.secret? name) := by
  induction history generalizing vault with
  | nil => rw [leftBy_nil, run, List.foldl_nil]
  | cons change rest ih =>
      rw [leftBy_cons, ← secret?_after distinct change name]
      exact ih (nodup_after distinct)

theorem nodup_ofEntries (secrets : List (String × String)) :
    (Table.keys (ofEntries secrets).secrets).Nodup :=
  Table.nodup_keys_ofEntries secrets

end Attest.Vault
