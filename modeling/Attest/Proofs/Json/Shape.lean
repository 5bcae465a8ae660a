import Attest.Json
import Attest.Proofs.Table

/-!
# Well-formed JSON values

A property of values is asked of a value and of everything inside it.  Well-formed
values have integers of at most 64 bits and objects without repeated names: these
are the values that claims are made of, and settling leaves them as they are.
-/

namespace Attest.Json

mutual

/-- A property of a value and of every value inside it. -/
def Every (p : Json → Prop) : Json → Prop
  | .array items => p (.array items) ∧ EveryItem p items
  | .object members => p (.object members) ∧ EveryMember p members
  | other => p other

/-- A property of everything in the items of an array. -/
def EveryItem (p : Json → Prop) : List Json → Prop
  | [] => True
  | item :: rest => Every p item ∧ EveryItem p rest

/-- A property of everything in the members of an object. -/
def EveryMember (p : Json → Prop) : List (String × Json) → Prop
  | [] => True
  | (_, value) :: rest => Every p value ∧ EveryMember p rest

end

theorem everyMember_iff {p : Json → Prop} {members : List (String × Json)} :
    EveryMember p members ↔ ∀ member ∈ members, Every p member.2 := by
  induction members with
  | nil => simp [EveryMember]
  | cons member rest ih =>
      obtain ⟨name, value⟩ := member
      simp [EveryMember, ih]

/-- An integer has at most 64 bits, and the names of an object are distinct. -/
def WellFormedAt : Json → Prop
  | .int i => leastInt64 ≤ i ∧ i ≤ greatestUnsigned64
  | .object members => (Table.keys members).Nodup
  | _ => True

/-- Values with integers of at most 64 bits and without repeated names. -/
def WellFormed (value : Json) : Prop :=
  value.Every WellFormedAt

theorem wellFormed_object_iff {members : List (String × Json)} :
    (Json.object members).WellFormed ↔
      (Table.keys members).Nodup ∧ ∀ member ∈ members, WellFormed member.2 := by
  rw [WellFormed, Every, everyMember_iff]
  rfl

mutual

/-- How deep arrays and objects nest. -/
def nesting : Json → Nat
  | .array items => nestingOfItems items + 1
  | .object members => nestingOfMembers members + 1
  | _ => 0

/-- How deep the items of an array nest. -/
def nestingOfItems : List Json → Nat
  | [] => 0
  | item :: rest => max (nesting item) (nestingOfItems rest)

/-- How deep the members of an object nest. -/
def nestingOfMembers : List (String × Json) → Nat
  | [] => 0
  | (_, value) :: rest => max (nesting value) (nestingOfMembers rest)

end

/-! ## Settling -/

mutual

/-- Settling leaves a well-formed value as it is. -/
theorem settle_of_wellFormed : ∀ {value : Json}, value.WellFormed → settle value = value
  | .null, _ => rfl
  | .bool _, _ => rfl
  | .int _, _ => rfl
  | .float _, _ => rfl
  | .string _, _ => rfl
  | .array _, wellFormed => by
      rw [settle, settleItems_of_wellFormed wellFormed.2]
  | .object _, wellFormed => by
      rw [settle, settleMembers_of_wellFormed wellFormed.2, Table.ofEntries_eq_self wellFormed.1]

theorem settleItems_of_wellFormed :
    ∀ {items : List Json}, EveryItem WellFormedAt items → settleItems items = items
  | [], _ => rfl
  | _ :: _, wellFormed => by
      rw [settleItems, settle_of_wellFormed wellFormed.1, settleItems_of_wellFormed wellFormed.2]

theorem settleMembers_of_wellFormed :
    ∀ {members : List (String × Json)}, EveryMember WellFormedAt members →
      settleMembers members = members
  | [], _ => rfl
  | (_, _) :: _, wellFormed => by
      rw [settleMembers, settle_of_wellFormed wellFormed.1,
        settleMembers_of_wellFormed wellFormed.2]

end

end Attest.Json
