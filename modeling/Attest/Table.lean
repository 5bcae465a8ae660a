/-!
# Tables with text keys

A table lists its entries in the order in which their keys were first written.
Writing under a key that is already there replaces the value and keeps the
place; a new key goes to the end.  `find?_insert_self` and
`find?_insert_of_ne` describe what reading sees after a write.
-/

namespace Attest

/-- Entries in order; the first entry of a key counts. -/
abbrev Table (α : Type) := List (String × α)

namespace Table

variable {α β : Type}

/-- The value under a key. -/
def find? (key : String) : Table α → Option α
  | [] => none
  | (k, value) :: rest => if k = key then some value else find? key rest

/-- Write a value under a key. -/
def insert (key : String) (value : α) : Table α → Table α
  | [] => [(key, value)]
  | (k, old) :: rest =>
      if k = key then (key, value) :: rest else (k, old) :: insert key value rest

/-- Remove what is under a key. -/
def erase (key : String) : Table α → Table α
  | [] => []
  | (k, value) :: rest => if k = key then rest else (k, value) :: erase key rest

/-- Whether there is a value under a key. -/
def has (key : String) (table : Table α) : Bool :=
  (find? key table).isSome

/-- Write the entries one after the other. -/
def insertAll (table : Table α) (entries : List (String × α)) : Table α :=
  entries.foldl (fun table (key, value) => insert key value table) table

/-- The table that arises by writing the entries one after the other: each key
stands where it came first and has the value that came last. -/
def ofEntries (entries : List (String × α)) : Table α :=
  insertAll [] entries

/-- Whether no key comes twice. -/
def keysDistinct : List (String × α) → Bool
  | [] => true
  | (key, _) :: rest => !has key rest && keysDistinct rest

/-- Whether each of the given keys comes at most once. -/
def onceEach (keys : List String) (entries : List (String × α)) : Bool :=
  keysDistinct (entries.filter fun entry => keys.contains entry.1)

/-- Put an entry where it belongs in a table that is ordered by key, replacing
the entry of the same key. -/
def insertOrdered (key : String) (value : α) : Table α → Table α
  | [] => [(key, value)]
  | (k, old) :: rest =>
      if k = key then (key, value) :: rest
      else if key < k then (key, value) :: (k, old) :: rest
      else (k, old) :: insertOrdered key value rest

/-- The entries in the order of their keys, the last entry of each key. -/
def sorted (entries : List (String × α)) : Table α :=
  entries.foldl (fun table (key, value) => insertOrdered key value table) []

@[simp]
theorem find?_nil (key : String) : find? key ([] : Table α) = none :=
  rfl

@[simp]
theorem find?_insert_self (key : String) (value : α) (table : Table α) :
    find? key (insert key value table) = some value := by
  induction table with
  | nil => simp [insert, find?]
  | cons entry rest ih =>
      obtain ⟨k, old⟩ := entry
      by_cases h : k = key
      · simp [insert, find?, h]
      · simp [insert, find?, h, ih]

theorem find?_insert_of_ne {key other : String} (h : key ≠ other) (value : α)
    (table : Table α) :
    find? other (insert key value table) = find? other table := by
  induction table with
  | nil => simp [insert, find?, h]
  | cons entry rest ih =>
      obtain ⟨k, old⟩ := entry
      by_cases hk : k = key
      · subst hk
        simp [insert, find?, h]
      · by_cases ho : k = other
        · subst ho
          simp [insert, find?, hk]
        · simp [insert, find?, hk, ho, ih]

end Table

end Attest
