import Attest.Table
import Mathlib.Data.List.Nodup
import Mathlib.Data.String.Basic

/-!
# Looking up what was written to a table

Writing entries one after the other leaves each key once, with the value that came
last; ordering entries by key finds the same values.  Where every key comes once,
looking up and membership say the same, so a table without repeated keys is
determined by what it finds.
-/

namespace Attest.Table

variable {α : Type}

/-- The keys in the order of the entries. -/
def keys (entries : List (String × α)) : List String :=
  entries.map Prod.fst

@[simp]
theorem keys_nil : keys ([] : List (String × α)) = [] :=
  rfl

@[simp]
theorem keys_cons (key : String) (value : α) (rest : List (String × α)) :
    keys ((key, value) :: rest) = key :: keys rest :=
  rfl

@[simp]
theorem keys_append (left right : List (String × α)) :
    keys (left ++ right) = keys left ++ keys right :=
  List.map_append

theorem find?_append (key : String) (left right : List (String × α)) :
    find? key (left ++ right) = (find? key left).or (find? key right) := by
  induction left with
  | nil => rfl
  | cons entry rest ih =>
      obtain ⟨k, value⟩ := entry
      by_cases h : k = key <;> simp [find?, h, ih]

theorem find?_eq_none_iff {key : String} {entries : List (String × α)} :
    find? key entries = none ↔ key ∉ keys entries := by
  induction entries with
  | nil => simp
  | cons entry rest ih =>
      obtain ⟨k, value⟩ := entry
      by_cases h : k = key
      · simp [find?, h]
      · simp [find?, h, ih, Ne.symm h]

theorem mem_of_find?_eq_some {key : String} {value : α} {entries : List (String × α)}
    (h : find? key entries = some value) : (key, value) ∈ entries := by
  induction entries with
  | nil => simp at h
  | cons entry rest ih =>
      obtain ⟨k, old⟩ := entry
      by_cases hk : k = key
      · subst hk
        rw [find?, if_pos rfl, Option.some.injEq] at h
        simp [h]
      · rw [find?, if_neg hk] at h
        exact List.mem_cons_of_mem _ (ih h)

/-- Where every key comes once, what is found is what is there. -/
theorem find?_eq_some_iff_mem {key : String} {value : α} {entries : List (String × α)}
    (distinct : (keys entries).Nodup) :
    find? key entries = some value ↔ (key, value) ∈ entries := by
  refine ⟨mem_of_find?_eq_some, fun member => ?_⟩
  induction entries with
  | nil => simp at member
  | cons entry rest ih =>
      obtain ⟨k, old⟩ := entry
      rw [keys_cons, List.nodup_cons] at distinct
      rcases List.mem_cons.mp member with here | later
      · cases here
        rw [find?, if_pos rfl]
      · have hne : k ≠ key := by
          rintro rfl
          exact distinct.1 (List.mem_map_of_mem (f := Prod.fst) later)
        rw [find?, if_neg hne]
        exact ih distinct.2 later

/-! ## Repeated keys -/

theorem has_eq_true_iff {key : String} {entries : List (String × α)} :
    has key entries = true ↔ key ∈ keys entries := by
  rw [has, ← Option.isNone_eq_false_iff, ← Bool.not_eq_true, Option.isNone_iff_eq_none,
    find?_eq_none_iff, not_not]

theorem keysDistinct_iff {entries : List (String × α)} :
    keysDistinct entries = true ↔ (keys entries).Nodup := by
  induction entries with
  | nil => simp [keysDistinct]
  | cons entry rest ih =>
      obtain ⟨key, value⟩ := entry
      rw [keysDistinct, Bool.and_eq_true, Bool.not_eq_true', ← Bool.not_eq_true,
        has_eq_true_iff, ih, keys_cons, List.nodup_cons]

theorem keys_filter (p : String → Bool) (entries : List (String × α)) :
    keys (entries.filter fun entry => p entry.1) = (keys entries).filter p := by
  simp [keys, List.filter_map, Function.comp_def]

/-- Each of the given keys comes at most once exactly when none is counted twice. -/
theorem onceEach_iff {names : List String} {entries : List (String × α)} :
    onceEach names entries = true ↔ ∀ name ∈ names, (keys entries).count name ≤ 1 := by
  rw [onceEach, keysDistinct_iff, keys_filter names.contains, List.nodup_iff_count_le_one]
  constructor
  · intro once name member
    have counted := once name
    rwa [List.count_filter (by simpa using member)] at counted
  · intro once name
    by_cases member : name ∈ names
    · rw [List.count_filter (by simpa using member)]
      exact once name member
    · rw [List.count_eq_zero_of_not_mem (by simp [member])]
      exact Nat.zero_le 1

theorem onceEach_of_nodup {names : List String} {entries : List (String × α)}
    (distinct : (keys entries).Nodup) : onceEach names entries = true :=
  onceEach_iff.mpr fun name _ => List.nodup_iff_count_le_one.mp distinct name

/-! ## Writing -/

theorem keys_insert (key : String) (value : α) (table : Table α) :
    keys (insert key value table) =
      if key ∈ keys table then keys table else keys table ++ [key] := by
  induction table with
  | nil => rfl
  | cons entry rest ih =>
      obtain ⟨k, old⟩ := entry
      by_cases h : k = key
      · simp [insert, h]
      · rw [insert, if_neg h, keys_cons, ih, keys_cons]
        by_cases member : key ∈ keys rest <;> simp [member, Ne.symm h]

theorem nodup_keys_insert (key : String) (value : α) {table : Table α}
    (distinct : (keys table).Nodup) : (keys (insert key value table)).Nodup := by
  rw [keys_insert]
  split
  · exact distinct
  · next absent => exact List.nodup_append.mpr ⟨distinct, List.nodup_singleton key, by
      rintro k member _ hk rfl
      rw [List.mem_singleton] at hk
      exact absent (hk ▸ member)⟩

@[simp]
theorem insertAll_nil (table : Table α) : insertAll table [] = table :=
  rfl

@[simp]
theorem insertAll_cons (table : Table α) (key : String) (value : α)
    (entries : List (String × α)) :
    insertAll table ((key, value) :: entries) = insertAll (insert key value table) entries :=
  rfl

theorem nodup_keys_insertAll (entries : List (String × α)) {table : Table α}
    (distinct : (keys table).Nodup) : (keys (insertAll table entries)).Nodup := by
  induction entries generalizing table with
  | nil => exact distinct
  | cons entry rest ih => exact ih (nodup_keys_insert entry.1 entry.2 distinct)

theorem nodup_keys_ofEntries (entries : List (String × α)) :
    (keys (ofEntries entries)).Nodup :=
  nodup_keys_insertAll entries List.nodup_nil

/-- After writing entries, a key has the value that was written last, else the one
that it had before. -/
theorem find?_insertAll (key : String) (entries : List (String × α)) (table : Table α) :
    find? key (insertAll table entries) =
      (find? key entries.reverse).or (find? key table) := by
  induction entries generalizing table with
  | nil => rfl
  | cons entry rest ih =>
      obtain ⟨k, value⟩ := entry
      rw [insertAll_cons, ih, List.reverse_cons, find?_append, Option.or_assoc]
      congr 1
      by_cases h : k = key
      · subst h
        simp [find?]
      · rw [find?_insert_of_ne h]
        simp [find?, h]

theorem find?_ofEntries (key : String) (entries : List (String × α)) :
    find? key (ofEntries entries) = find? key entries.reverse := by
  rw [ofEntries, find?_insertAll, find?_nil, Option.or_none]

theorem insert_of_not_mem {key : String} (value : α) {table : Table α}
    (absent : key ∉ keys table) : insert key value table = table ++ [(key, value)] := by
  induction table with
  | nil => rfl
  | cons entry rest ih =>
      obtain ⟨k, old⟩ := entry
      rw [keys_cons, List.mem_cons, not_or] at absent
      rw [insert, if_neg (Ne.symm absent.1), ih absent.2]
      rfl

/-- New keys go to the end in their order. -/
theorem insertAll_eq_append {table entries : List (String × α)}
    (distinct : (keys (table ++ entries)).Nodup) :
    insertAll table entries = table ++ entries := by
  induction entries generalizing table with
  | nil => simp
  | cons entry rest ih =>
      obtain ⟨key, value⟩ := entry
      have absent : key ∉ keys table := by
        rw [keys_append, List.nodup_append] at distinct
        exact fun member => distinct.2.2 key member key (by simp) rfl
      rw [insertAll_cons, insert_of_not_mem value absent, ih (by simpa using distinct)]
      simp

/-- Entries with distinct keys are a table already. -/
theorem ofEntries_eq_self {entries : List (String × α)} (distinct : (keys entries).Nodup) :
    ofEntries entries = entries :=
  insertAll_eq_append distinct

/-- Every entry of a table was in it before or was written to it. -/
theorem mem_insertAll {entry : String × α} {entries : List (String × α)} {table : Table α}
    (distinct : (keys table).Nodup) (h : entry ∈ insertAll table entries) :
    entry ∈ table ∨ entry ∈ entries := by
  obtain ⟨key, value⟩ := entry
  rw [← find?_eq_some_iff_mem (nodup_keys_insertAll entries distinct), find?_insertAll,
    Option.or_eq_some_iff] at h
  rcases h with written | ⟨_, before⟩
  · exact Or.inr (List.mem_reverse.mp (mem_of_find?_eq_some written))
  · exact Or.inl (mem_of_find?_eq_some before)

theorem insertAll_append (table : Table α) (left right : List (String × α)) :
    insertAll table (left ++ right) = insertAll (insertAll table left) right :=
  List.foldl_append

theorem mem_keys_ofEntries {key : String} {entries : List (String × α)} :
    key ∈ keys (ofEntries entries) ↔ key ∈ keys entries := by
  rw [← not_iff_not, ← find?_eq_none_iff, find?_ofEntries, find?_eq_none_iff, keys,
    List.map_reverse, List.mem_reverse]
  rfl

theorem length_insert (key : String) (value : α) (table : Table α) :
    table.length ≤ (insert key value table).length := by
  induction table with
  | nil => exact Nat.zero_le _
  | cons entry rest ih =>
      obtain ⟨k, old⟩ := entry
      rw [insert]
      split
      · exact Nat.le_refl _
      · exact Nat.succ_le_succ ih

theorem length_insertAll (entries : List (String × α)) (table : Table α) :
    table.length ≤ (insertAll table entries).length := by
  induction entries generalizing table with
  | nil => exact Nat.le_refl _
  | cons entry rest ih =>
      exact Nat.le_trans (length_insert entry.1 entry.2 table) (ih (insert entry.1 entry.2 table))

/-! ## Removing -/

theorem find?_erase_of_ne {key other : String} (h : key ≠ other) (table : Table α) :
    find? other (erase key table) = find? other table := by
  induction table with
  | nil => rfl
  | cons entry rest ih =>
      obtain ⟨k, value⟩ := entry
      by_cases hk : k = key
      · subst hk
        simp [erase, find?, h]
      · by_cases ho : k = other
        · subst ho
          simp [erase, find?, hk]
        · simp [erase, find?, hk, ho, ih]

/-- Where every key comes once, nothing is left under a removed key. -/
theorem find?_erase_self {key : String} {table : Table α} (distinct : (keys table).Nodup) :
    find? key (erase key table) = none := by
  induction table with
  | nil => rfl
  | cons entry rest ih =>
      obtain ⟨k, value⟩ := entry
      rw [keys_cons, List.nodup_cons] at distinct
      by_cases hk : k = key
      · subst hk
        rw [erase, if_pos rfl]
        exact find?_eq_none_iff.mpr distinct.1
      · rw [erase, if_neg hk, find?, if_neg hk]
        exact ih distinct.2

theorem nodup_keys_erase (key : String) {table : Table α} (distinct : (keys table).Nodup) :
    (keys (erase key table)).Nodup := by
  have sublist : (erase key table).Sublist table := by
    clear distinct
    induction table with
    | nil => exact List.Sublist.refl []
    | cons entry rest ih =>
        rw [erase]
        split
        · exact List.sublist_cons_self entry rest
        · exact ih.cons_cons entry
  exact distinct.sublist (sublist.map Prod.fst)

/-! ## Order by key -/

@[simp]
theorem find?_insertOrdered_self (key : String) (value : α) (table : Table α) :
    find? key (insertOrdered key value table) = some value := by
  induction table with
  | nil => simp [insertOrdered, find?]
  | cons entry rest ih =>
      obtain ⟨k, old⟩ := entry
      by_cases h : k = key
      · simp [insertOrdered, find?, h]
      · by_cases before : key < k
        · simp [insertOrdered, find?, h, before]
        · simp [insertOrdered, find?, h, before, ih]

theorem find?_insertOrdered_of_ne {key other : String} (h : key ≠ other) (value : α)
    (table : Table α) :
    find? other (insertOrdered key value table) = find? other table := by
  induction table with
  | nil => simp [insertOrdered, find?, h]
  | cons entry rest ih =>
      obtain ⟨k, old⟩ := entry
      by_cases hk : k = key
      · subst hk
        simp [insertOrdered, find?, h]
      · by_cases before : key < k
        · simp [insertOrdered, find?, hk, before, h]
        · simp [insertOrdered, find?, hk, before, ih]

theorem mem_keys_insertOrdered {name key : String} {value : α} {table : Table α} :
    name ∈ keys (insertOrdered key value table) ↔ name = key ∨ name ∈ keys table := by
  rw [← not_iff_not, ← find?_eq_none_iff, not_or, ← find?_eq_none_iff]
  by_cases h : key = name
  · subst h
    simp
  · rw [find?_insertOrdered_of_ne h]
    exact (and_iff_right (Ne.symm h)).symm

/-- Putting an entry where it belongs keeps the keys in strictly rising order. -/
theorem pairwise_insertOrdered (key : String) (value : α) {table : Table α}
    (rising : (keys table).Pairwise (· < ·)) :
    (keys (insertOrdered key value table)).Pairwise (· < ·) := by
  induction table with
  | nil => simp [insertOrdered]
  | cons entry rest ih =>
      obtain ⟨k, old⟩ := entry
      rw [keys_cons, List.pairwise_cons] at rising
      by_cases same : k = key
      · subst same
        rw [insertOrdered, if_pos rfl, keys_cons, List.pairwise_cons]
        exact rising
      · by_cases before : key < k
        · rw [insertOrdered, if_neg same, if_pos before, keys_cons, keys_cons,
            List.pairwise_cons, List.pairwise_cons]
          refine ⟨?_, rising⟩
          intro name member
          rcases List.mem_cons.mp member with rfl | later
          · exact before
          · exact lt_trans before (rising.1 name later)
        · have after : k < key := lt_of_le_of_ne (not_lt.mp before) same
          rw [insertOrdered, if_neg same, if_neg before, keys_cons, List.pairwise_cons]
          refine ⟨?_, ih rising.2⟩
          intro name member
          rcases mem_keys_insertOrdered.mp member with rfl | later
          · exact after
          · exact rising.1 name later

theorem sorted_eq_foldl (entries : List (String × α)) :
    sorted entries =
      entries.foldl (fun table entry => insertOrdered entry.1 entry.2 table) [] :=
  rfl

/-- The keys of ordered entries rise strictly. -/
theorem pairwise_sorted (entries : List (String × α)) :
    (keys (sorted entries)).Pairwise (· < ·) := by
  suffices ∀ table : Table α, (keys table).Pairwise (· < ·) →
      (keys (entries.foldl (fun table entry => insertOrdered entry.1 entry.2 table)
        table)).Pairwise (· < ·) from this [] List.Pairwise.nil
  induction entries with
  | nil => exact fun table rising => rising
  | cons entry rest ih =>
      exact fun table rising => ih _ (pairwise_insertOrdered entry.1 entry.2 rising)

/-- Ordering entries finds for each key the value that came last. -/
theorem find?_sorted (key : String) (entries : List (String × α)) :
    find? key (sorted entries) = find? key entries.reverse := by
  suffices ∀ table : Table α,
      find? key (entries.foldl (fun table entry => insertOrdered entry.1 entry.2 table) table) =
        (find? key entries.reverse).or (find? key table) by
    rw [sorted_eq_foldl, this [], find?_nil, Option.or_none]
  induction entries with
  | nil => exact fun table => rfl
  | cons entry rest ih =>
      intro table
      obtain ⟨k, value⟩ := entry
      rw [List.foldl_cons, ih, List.reverse_cons, find?_append, Option.or_assoc]
      congr 1
      by_cases h : k = key
      · subst h
        simp [find?]
      · rw [find?_insertOrdered_of_ne h]
        simp [find?, h]

/-! ## Selecting entries by their values -/

theorem nodup_keys_filter (p : String × α → Bool) {entries : List (String × α)}
    (distinct : (keys entries).Nodup) : (keys (entries.filter p)).Nodup :=
  distinct.sublist (List.filter_sublist.map Prod.fst)

/-- Where every key comes once, selecting entries by value selects what is found. -/
theorem find?_filter_of_nodup (p : α → Bool) (key : String) {entries : List (String × α)}
    (distinct : (keys entries).Nodup) :
    find? key (entries.filter fun entry => p entry.2) = (find? key entries).filter p := by
  ext value
  rw [find?_eq_some_iff_mem (nodup_keys_filter _ distinct), List.mem_filter,
    ← find?_eq_some_iff_mem distinct, Option.filter_eq_some_iff]

theorem find?_reverse_of_nodup (key : String) {entries : List (String × α)}
    (distinct : (keys entries).Nodup) : find? key entries.reverse = find? key entries := by
  have reversed : (keys entries.reverse).Nodup := by
    rw [keys, List.map_reverse, List.nodup_reverse]
    exact distinct
  ext value
  rw [find?_eq_some_iff_mem reversed, find?_eq_some_iff_mem distinct, List.mem_reverse]

/-! ## Entries in another order -/

theorem keys_perm {entries others : List (String × α)} (rearranged : others.Perm entries) :
    (keys others).Perm (keys entries) :=
  rearranged.map Prod.fst

/-- Where every key comes once, the order of the entries does not matter. -/
theorem find?_of_perm (key : String) {entries others : List (String × α)}
    (distinct : (keys entries).Nodup) (rearranged : others.Perm entries) :
    find? key others = find? key entries := by
  ext value
  rw [find?_eq_some_iff_mem ((keys_perm rearranged).nodup_iff.mpr distinct),
    find?_eq_some_iff_mem distinct, rearranged.mem_iff]

end Attest.Table
