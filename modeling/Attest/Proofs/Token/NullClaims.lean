import Attest.Proofs.Json.Outline
import Attest.Proofs.Table
import Attest.Proofs.Token.Rule

/-!
# Claims that are null

A claim that is `null` counts as absent.  Claims that are made from names and values leave it
out, repeated names or not.  Claims that are read from a text keep it, so that it is present,
counted and accepted where it is required.  Whatever claims are made from, `null` is like an
absent claim exactly when no name has `null` as its last value in a text.
-/

namespace Attest.Token.Claims

/-- No claim is `null`. -/
def NullFree (claims : Claims) : Prop :=
  ∀ claim ∈ claims.entries, claim.2 ≠ .null

/-! ## Where claims come from -/

/-- What claims are made from. -/
inductive Origin where
  /-- Nothing at all. -/
  | nothing
  /-- Names and values, one after the other; an object is such a list without repeated names. -/
  | pairs (members : List (String × Json))
  /-- A text with claims in JSON. -/
  | text (source : String)

namespace Origin

/-- The claims that are made. -/
def claims? : Origin → Option Claims
  | .nothing => some default
  | .pairs members => some (ofMembers members)
  | .text source => ofText? source

/-- The values of a name, one after the other. -/
def valuesOf (name : String) (members : List (String × Json)) : List Json :=
  members.filterMap fun member => if member.1 = name then some member.2 else none

/-- The members that a document states: those of an object that is its member `claims`, or its
only item. -/
def stated? : Json → Option (List (String × Json))
  | .object members => (Table.find? "claims" members).bind Json.object?
  | .array [.object members] => some members
  | _ => none

/-- The value that is given for a name, where `null` is none: of names and values the last that
is not `null`, of a text the last. -/
def given? (origin : Origin) (name : String) : Option Json :=
  match origin with
  | .nothing => none
  | .pairs members => ((valuesOf name members).filter fun value => !value.isNull).getLast?
  | .text source => do
      let members ← stated? (← document? source)
      let value ← (valuesOf name members).getLast?
      if value.isNull then none else some value.settle

/-- A text in which `null` is the last value of a name. -/
inductive EndsInNull : Origin → Prop
  | text {source : String} {document : Json} {members : List (String × Json)} {name : String}
      (read : document? source = some document) (stated : stated? document = some members)
      (last : (valuesOf name members).getLast? = some .null) : EndsInNull (.text source)

/-- In the claims, a name with `null` is like a name that is not there. -/
structure NullAbsent (origin : Origin) (claims : Claims) : Prop where
  value : ∀ name, claims.find? name = origin.given? name
  has : ∀ name, claims.has name = (origin.given? name).isSome
  /-- The claims are as many as the names with a value. -/
  size : ∃ names : List String, names.Nodup ∧
    (∀ name, name ∈ names ↔ (origin.given? name).isSome = true) ∧ claims.size = names.length
  /-- A required name needs a value. -/
  required : ∀ names circumstances, Rule.requiredClaims names circumstances claims = .ok () ↔
    ∀ name ∈ names, (origin.given? name).isSome = true
  /-- Those without are reported in the order in which they are required. -/
  missing : ∀ names circumstances, (Rule.requiredClaims names circumstances claims).messages =
    (names.filter fun name => !(origin.given? name).isSome).map fun name =>
      "Required claim '" ++ name ++ "' is missing"

/-! ## Values of a name -/

theorem isNull_iff {value : Json} : value.isNull = true ↔ value = .null := by
  cases value <;> simp [Json.isNull]

theorem isNull_settle (value : Json) : value.settle.isNull = value.isNull := by
  cases value <;> rfl

theorem find?_eq_head?_valuesOf (name : String) (members : List (String × Json)) :
    Table.find? name members = (valuesOf name members).head? := by
  induction members with
  | nil => rfl
  | cons member rest ih =>
      obtain ⟨key, value⟩ := member
      by_cases same : key = name
      · simp [Table.find?, valuesOf, same]
      · simpa [Table.find?, valuesOf, same] using ih

/-- Entries in the order of their names have the last value of each name. -/
theorem find?_sorted_eq_getLast? (name : String) (members : List (String × Json)) :
    Table.find? name (Table.sorted members) = (valuesOf name members).getLast? := by
  rw [Table.find?_sorted, find?_eq_head?_valuesOf, valuesOf, List.filterMap_reverse,
    List.head?_reverse, valuesOf]

theorem valuesOf_filter (name : String) (p : Json → Bool) (members : List (String × Json)) :
    valuesOf name (members.filter fun member => p member.2) = (valuesOf name members).filter p := by
  induction members with
  | nil => rfl
  | cons member rest ih =>
      obtain ⟨key, value⟩ := member
      by_cases same : key = name <;> by_cases kept : p value <;> simp_all [valuesOf]

theorem valuesOf_settleMembers (name : String) (members : List (String × Json)) :
    valuesOf name (Json.settleMembers members) = (valuesOf name members).map Json.settle := by
  induction members with
  | nil => rfl
  | cons member rest ih =>
      obtain ⟨key, value⟩ := member
      by_cases same : key = name <;> simp_all [valuesOf, Json.settleMembers]

/-! ## Claims that are made -/

variable {origin : Origin} {claims : Claims} {document : Json}

/-- Claims that are read are the members that the document states, ordered by name. -/
theorem exists_stated_of_ofJson? (read : ofJson? document = some claims) :
    ∃ members, stated? document = some members ∧
      claims = ⟨Table.sorted (Json.settleMembers members)⟩ := by
  simp only [ofJson?, Option.bind_eq_bind, Option.bind_eq_some_iff, Option.pure_def,
    Option.some.injEq] at read
  obtain ⟨own, isRecord, table, field, rfl⟩ := read
  obtain ⟨value, found, sorted⟩ := Option.bind_eq_some_iff.mp field
  obtain ⟨members, rfl, rfl⟩ : ∃ members, value = .object members ∧
      Table.sorted (Json.settleMembers members) = table := by
    cases value <;> simp_all [Json.Record.sortedObject?]
  refine ⟨members, ?_, rfl⟩
  cases document with
  | object all =>
      rw [Json.Record.members?] at isRecord
      split at isRecord
      · cases isRecord
        simp [stated?, found, Json.object?]
      · cases isRecord
  | array items =>
      rw [Json.Record.members?] at isRecord
      split at isRecord
      · next short =>
          -- An array stands for a record with one field, so it has one item.
          cases isRecord
          rcases items with - | ⟨item, rest⟩
          · cases found
          · have single : rest = [] := by simpa [fields] using short
            subst single
            cases found
            rfl
      · cases isRecord
  | null | bool | int | float | string => cases isRecord

/-- The members that are skipped in a text make no difference where they could be read. -/
theorem ofText?_of_read {source : String} (read : Json.read source = some document) :
    ofText? source = ofJson? document := by
  have made : ∀ document, ofJson? document =
      ((Json.Record.members? fields document).bind
        (Json.Record.required "claims" Json.Record.sortedObject?)).map Claims.mk := by
    intro document
    rw [Option.map_eq_bind, Option.bind_assoc]
    rfl
  have known : "claims" ∈ fields := List.mem_cons_self
  rw [ofText?, document?, Json.readOutlined_of_read fields read, Option.bind_some, made, made,
    Json.required_only known]

theorem find?_of_pairs (members : List (String × Json)) (name : String) :
    (ofMembers members).find? name =
      ((valuesOf name members).filter fun value => !value.isNull).getLast? := by
  rw [find?, ofMembers, find?_sorted_eq_getLast?,
    valuesOf_filter name (fun value => !value.isNull)]

theorem find?_of_text {members : List (String × Json)} (stated : stated? document = some members)
    (read : ofJson? document = some claims) (name : String) :
    claims.find? name = (valuesOf name members).getLast?.map Json.settle := by
  obtain ⟨others, stated', rfl⟩ := exists_stated_of_ofJson? read
  cases stated.symm.trans stated'
  rw [find?, find?_sorted_eq_getLast?, valuesOf_settleMembers, List.getLast?_map]

/-- Each name comes once among the claims. -/
theorem nodup_keys_of_made (made : origin.claims? = some claims) :
    (Table.keys claims.entries).Nodup := by
  have rising : (Table.keys claims.entries).Pairwise (· < ·) := by
    cases origin with
    | nothing =>
        cases made
        exact List.Pairwise.nil
    | pairs members =>
        cases made
        exact Table.pairwise_sorted _
    | text source =>
        obtain ⟨document, -, read⟩ := Option.bind_eq_some_iff.mp made
        obtain ⟨members, -, rfl⟩ := exists_stated_of_ofJson? read
        exact Table.pairwise_sorted _
  exact rising.imp ne_of_lt

/-- The value that is given for a name is that of the claim, unless the claim is `null`. -/
theorem given?_of_made (made : origin.claims? = some claims) (name : String) :
    origin.given? name = (claims.find? name).filter fun value => !value.isNull := by
  cases origin with
  | nothing =>
      cases made
      rfl
  | pairs members =>
      cases made
      rw [given?, find?_of_pairs]
      cases last : ((valuesOf name members).filter fun value => !value.isNull).getLast? with
      | none => rfl
      | some value =>
          have kept := (List.mem_filter.mp (List.mem_of_getLast? last)).2
          rw [Option.filter_some, if_pos kept]
  | text source =>
      obtain ⟨document, parsed, read⟩ := Option.bind_eq_some_iff.mp made
      obtain ⟨members, stated, -⟩ := exists_stated_of_ofJson? read
      rw [find?_of_text stated read]
      simp only [given?, parsed, stated, Option.bind_eq_bind, Option.bind_some]
      cases (valuesOf name members).getLast? with
      | none => rfl
      | some value => cases null : value.isNull <;> simp [null, isNull_settle, Option.filter_some]

/-- Only a text in which `null` is the last value of a name makes a claim that is `null`. -/
theorem endsInNull_iff (made : origin.claims? = some claims) :
    origin.EndsInNull ↔ ∃ name, claims.find? name = some .null := by
  constructor
  · rintro ⟨parsed, stated, last⟩
    obtain ⟨document, parsed', read⟩ := Option.bind_eq_some_iff.mp made
    cases parsed.symm.trans parsed'
    exact ⟨_, by rw [find?_of_text stated read, last]; rfl⟩
  · rintro ⟨name, found⟩
    cases origin with
    | nothing =>
        cases made
        cases found
    | pairs members =>
        cases made
        rw [find?_of_pairs] at found
        cases (List.mem_filter.mp (List.mem_of_getLast? found)).2
    | text source =>
        obtain ⟨document, parsed, read⟩ := Option.bind_eq_some_iff.mp made
        obtain ⟨members, stated, -⟩ := exists_stated_of_ofJson? read
        rw [find?_of_text stated read, Option.map_eq_some_iff] at found
        obtain ⟨value, last, settled⟩ := found
        have null : value = .null := by
          rw [← isNull_iff, ← isNull_settle, settled]
          rfl
        exact .text parsed stated (null ▸ last)

theorem nullFree_iff_of_made (made : origin.claims? = some claims) :
    claims.NullFree ↔ ¬origin.EndsInNull := by
  rw [endsInNull_iff made, not_exists]
  constructor
  · intro free name found
    exact free _ (Table.mem_of_find?_eq_some found) rfl
  · rintro free ⟨name, value⟩ member rfl
    exact free name ((Table.find?_eq_some_iff_mem (nodup_keys_of_made made)).mpr member)

/-! ## Presence of claims -/

/-- Claims whose values are those that are given have a name exactly when it has a value. -/
theorem nullAbsent_of_find?_eq (distinct : (Table.keys claims.entries).Nodup)
    (found : ∀ name, claims.find? name = origin.given? name) : origin.NullAbsent claims := by
  have has : ∀ name, claims.has name = (origin.given? name).isSome :=
    fun name => congrArg Option.isSome (found name)
  constructor
  case value => exact found
  case has => exact has
  case size =>
    refine ⟨Table.keys claims.entries, distinct, fun name => ?_, ?_⟩
    · rw [← has, Claims.has, Table.has_eq_true_iff]
    · rw [Claims.size, Table.keys, List.length_map]
  case required =>
    intro names circumstances
    simp only [Rule.requiredClaims_eq_ok_iff, has]
  case missing =>
    intro names circumstances
    simp only [Rule.requiredClaims_messages, has]

/-- Claims are free of `null`, and treat it like an absent claim, exactly when they do not come
from a text in which `null` is the last value of a name. -/
theorem nulls_absent_iff (made : origin.claims? = some claims) :
    (claims.NullFree ↔ ¬origin.EndsInNull) ∧ (origin.NullAbsent claims ↔ ¬origin.EndsInNull) := by
  refine ⟨nullFree_iff_of_made made, fun absent => ?_, fun clear => ?_⟩
  · rw [endsInNull_iff made]
    rintro ⟨name, null⟩
    have value := absent.value name
    rw [given?_of_made made, null] at value
    cases value
  · apply nullAbsent_of_find?_eq (nodup_keys_of_made made)
    intro name
    have free := (nullFree_iff_of_made made).mpr clear
    rw [given?_of_made made]
    cases found : claims.find? name with
    | none => rfl
    | some value =>
        have kept : (!value.isNull) = true := by
          rw [Bool.not_eq_true', ← Bool.not_eq_true, isNull_iff]
          exact free _ (Table.mem_of_find?_eq_some found)
        rw [Option.filter_some, if_pos kept]

/-- Names with `null` among their values keep the last value that is not. -/
theorem nulls_absent_sample :
    (Origin.pairs [("a", .int 1), ("b", .null), ("a", .null)]).claims? =
      some ⟨[("a", .int 1)]⟩ ∧
    NullFree ⟨[("a", .int 1)]⟩ ∧
    (Origin.pairs [("a", .int 1), ("b", .null), ("a", .null)]).NullAbsent
      ⟨[("a", .int 1)]⟩ := by
  have made : (Origin.pairs [("a", .int 1), ("b", .null), ("a", .null)]).claims? =
      some ⟨[("a", .int 1)]⟩ :=
    rfl
  have clear : ¬(Origin.pairs [("a", .int 1), ("b", .null), ("a", .null)]).EndsInNull := by
    rintro ⟨⟩
  exact ⟨made, (nulls_absent_iff made).1.mpr clear, (nulls_absent_iff made).2.mpr clear⟩

/-- A text whose only claim is `null`. -/
def nullText : String := "\x7b\"claims\":\x7b\"sub\":null\x7d\x7d"

theorem read_nullText :
    Json.read nullText = some (.object [("claims", .object [("sub", .null)])]) := by
  have written : nullText = Json.write (.object [("claims", .object [("sub", .null)])]) := by
    decide
  rw [written]
  apply Json.read_write
  · simp [Json.Every, Json.EveryMember, Json.NumberReadsBack]
  · decide

/-- A claim that is `null` in a text is there, is counted and will do where it is required. -/
theorem null_kept_from_text :
    (Origin.text nullText).claims? = some ⟨[("sub", .null)]⟩ ∧
    ¬NullFree ⟨[("sub", .null)]⟩ ∧
    has ⟨[("sub", .null)]⟩ "sub" = true ∧
    size ⟨[("sub", .null)]⟩ = 1 ∧
    Rule.requiredClaims ["sub"] ⟨Instant.epoch, []⟩ ⟨[("sub", .null)]⟩ = .ok () := by
  refine ⟨?_, ?_, by decide, rfl, ?_⟩
  · rw [claims?, ofText?_of_read read_nullText]
    rfl
  · intro free
    exact free _ List.mem_cons_self rfl
  · exact Rule.requiredClaims_eq_ok_iff.mpr (by decide)

end Origin

end Attest.Token.Claims
