import Attest.Json.Outline
import Attest.Json.Record
import Attest.Proofs.Json.Extent
import Attest.Proofs.Table

/-!
# What skipping leaves out

Whatever is read strictly can be skipped, and ends at the same place.  So a text that is read
strictly is read along an outline too, and what is read are the same members but for those that are
not wanted, which make no difference to a record.
-/

namespace Attest.Json

variable {fuel depth : Nat} {text rest : List Char}

/-! ## Strings and numbers -/

theorem skipString_plain {c : Char} (quote : c ≠ '"') (backslash : c ≠ '\\')
    (printable : ¬c.toNat < 32) (rest : List Char) : skipString (c :: rest) = skipString rest := by
  rw [skipString.eq_def]
  split
  · contradiction
  · simp_all
  · simp_all
  · simp_all
  · next same =>
    cases same
    exact if_neg (not_or.mpr ⟨printable, backslash⟩)

theorem skipString_simple {c d : Char} (stands : simpleEscape? c = some d) (rest : List Char) :
    skipString ('\\' :: c :: rest) = skipString rest := by
  rw [skipString.eq_def]
  split
  · simp_all
  · simp_all
  · next same =>
    cases same
    cases stands
  · next same =>
    cases same
    rw [stands]
    rfl
  · next noEscape same =>
    cases same
    exact absurd rfl (noEscape c rest rfl)

theorem skipString_unit {a b c d : Char} {n : Nat} (unit : hexUnit? a b c d = some n)
    (rest : List Char) : skipString ('\\' :: 'u' :: a :: b :: c :: d :: rest) = skipString rest := by
  rw [skipString, unit]
  rfl

theorem SpellsChar.skip {spelled : List Char} {c : Char} (spells : SpellsChar spelled c)
    (rest : List Char) : skipString (spelled ++ rest) = skipString rest := by
  cases spells with
  | plain quote backslash printable => exact skipString_plain quote backslash printable rest
  | simple stands => exact skipString_simple stands rest
  | unit unit => exact skipString_unit unit rest
  | pair first _ second _ => exact (skipString_unit first _).trans (skipString_unit second rest)

/-- A string that is read can be skipped. -/
theorem skipString_of_readStringChars {chars : List Char}
    (read : readStringChars text = some (chars, rest)) : skipString text = some rest := by
  induction chars generalizing text with
  | nil =>
      rcases readStringChars_cases read with ⟨rfl, -⟩ | ⟨_, _, _, _, _, _, _, none⟩
      · rfl
      · cases none
  | cons c others ih =>
      rcases readStringChars_cases read with
        ⟨-, none⟩ | ⟨spelled, _, after, _, rfl, spells, more, same⟩
      · cases none
      · cases same
        rw [spells.skip, ih more]

theorem skipString_of_readString {content : String}
    (read : readString text = some (content, rest)) : skipString text = some rest := by
  obtain ⟨⟨chars, last⟩, found, same⟩ := Option.map_eq_some_iff.mp read
  cases same
  exact skipString_of_readStringChars found

theorem ne_object_of_number? {negative : Bool} {whole : List Char}
    {fraction : Option (List Char)} {exponent : Option Int} {value : Json}
    (made : number? negative whole fraction exponent = some value)
    (members : List (String × Json)) : value ≠ .object members := by
  rintro rfl
  rcases ite_eq_iff.mp made with ⟨-, same⟩ | ⟨-, same⟩
  · cases same
  · simp at same

/-- A number that is read can be skipped, and is no object. -/
theorem skipNumber_of_readNumber {value : Json} (read : readNumber text = some (value, rest)) :
    skipNumber text = some rest ∧ ∀ members, value ≠ .object members := by
  obtain ⟨c, tail, rfl, -⟩ := head_of_readNumber read
  by_cases minus : c = '-'
  · subst minus
    rw [readNumber_minus] at read
    obtain ⟨whole, _, fraction, _, exponent, wholeRead, fractionRead, exponentRead, made⟩ :=
      readUnsigned_eq_some_iff.mp read
    refine ⟨?_, ne_object_of_number? made⟩
    simp [skipNumber, wholeRead, fractionRead, exponentRead]
  · rw [readNumber_of_ne_minus minus] at read
    obtain ⟨whole, _, fraction, _, exponent, wholeRead, fractionRead, exponentRead, made⟩ :=
      readUnsigned_eq_some_iff.mp read
    refine ⟨?_, ne_object_of_number? made⟩
    simp [skipNumber, minus, wholeRead, fractionRead, exponentRead]

/-! ## Values -/

/-- Values that are read with so much fuel can be skipped. -/
def ValueSkips (fuel : Nat) : Prop :=
  ∀ {depth : Nat} {text rest : List Char} {value : Json},
    readValue fuel depth text = some (value, rest) → skipValue fuel text = some rest

def ItemsSkip (fuel : Nat) : Prop :=
  ∀ {depth : Nat} {text rest : List Char} {items : List Json},
    readItems fuel depth text = some (items, rest) → skipItems fuel text = some rest

def MembersSkip (fuel : Nat) : Prop :=
  ∀ {depth : Nat} {text rest : List Char} {members : List (String × Json)},
    readMembers fuel depth text = some (members, rest) → skipMembers fuel text = some rest

theorem skipValue_of_number {c : Char} (start : c = '-' ∨ c.isDigit = true) (fuel : Nat)
    (text : List Char) : skipValue (fuel + 1) (c :: text) = skipNumber (c :: text) := by
  have other : ∀ d, d = 'n' ∨ d = 't' ∨ d = 'f' ∨ d = '"' ∨ d = '[' ∨ d = '{' → c ≠ d := by
    rintro d bad rfl
    rcases bad with rfl | rfl | rfl | rfl | rfl | rfl <;> rcases start with h | h <;> contradiction
  rw [skipValue.eq_def]
  split
  all_goals simp_all

theorem valueSkips_succ (items : ItemsSkip fuel) (members : MembersSkip fuel) :
    ValueSkips (fuel + 1) := by
  intro depth text rest value read
  cases readsValue_of_readValue read with
  | word isWord => cases isWord <;> rfl
  | string read =>
      rw [skipValue]
      exact skipString_of_readString read
  | emptyArray closed =>
      rw [skipValue, closed]
      rfl
  | array unclosed read =>
      rw [skipValue]
      split
      · next closed => exact absurd closed (unclosed _)
      · exact items read
  | emptyObject closed =>
      rw [skipValue, closed]
      rfl
  | object unclosed read =>
      rw [skipValue]
      split
      · next closed => exact absurd closed (unclosed _)
      · exact members read
  | number read =>
      obtain ⟨c, tail, rfl, start⟩ := head_of_readNumber read
      rw [skipValue_of_number start, (skipNumber_of_readNumber read).1]

theorem itemsSkip_succ (values : ValueSkips fuel) (others : ItemsSkip fuel) :
    ItemsSkip (fuel + 1) := by
  intro depth text rest items read
  obtain ⟨item, after, first, more⟩ := readItems_cases read
  rw [skipItems, values first, Option.bind_eq_bind, Option.bind_some]
  rcases more with ⟨next, items, comma, read, -⟩ | ⟨bracket, -⟩
  · rw [comma]
    exact others read
  · rw [bracket]
    rfl

theorem membersSkip_succ (values : ValueSkips fuel) (others : MembersSkip fuel) :
    MembersSkip (fuel + 1) := by
  intro depth text rest members read
  obtain ⟨name, value, after, ⟨opened, named, valued, quote, nameRead, colon, valueRead⟩, more⟩ :=
    readMembers_cases read
  rw [skipMembers]
  simp only [quote, skipString_of_readString nameRead, colon, values valueRead,
    Option.bind_eq_bind, Option.bind_some]
  rcases more with ⟨next, members, comma, read, -⟩ | ⟨brace, -⟩
  · rw [comma]
    exact others read
  · rw [brace]
    rfl

/-- Whatever is read can be skipped, at every level. -/
theorem skips (fuel : Nat) : ValueSkips fuel ∧ ItemsSkip fuel ∧ MembersSkip fuel := by
  induction fuel with
  | zero =>
      refine ⟨?_, ?_, ?_⟩ <;> intro depth text rest result read <;> cases read
  | succ fuel ih =>
      obtain ⟨values, items, members⟩ := ih
      exact ⟨valueSkips_succ items members, itemsSkip_succ values items,
        membersSkip_succ values members⟩

/-! ## Outlines of records -/

/-- A document without the members that are not wanted. -/
def only (fields : List String) : Json → Json
  | .object members => .object (members.filter fun member => fields.contains member.1)
  | other => other

variable {fields : List String} {members : List (String × Json)} {value : Json}

theorem only_of_ne_object (other : ∀ members, value ≠ .object members) :
    only fields value = value := by
  cases value with
  | object members => exact absurd rfl (other members)
  | null | bool | int | float | string | array => rfl

theorem readAlong_whole (fuel depth : Nat) (text : List Char) :
    readAlong fuel depth .whole text = readValue fuel depth text := by
  cases fuel <;> rfl

/-- Where all items are wanted whole, a row is read like any items. -/
theorem readRow_of_readItems {outlines : List Outline} {items : List Json}
    (whole : ∀ outline ∈ outlines, outline = .whole)
    (read : readItems fuel depth text = some (items, rest)) :
    readRow fuel depth outlines .whole text = some (items, rest) := by
  induction fuel generalizing outlines text items with
  | zero => cases read
  | succ fuel ih =>
      obtain ⟨item, after, first, more⟩ := readItems_cases read
      have head : outlines.headD .whole = .whole := by
        cases outlines with
        | nil => rfl
        | cons outline _ => exact whole outline List.mem_cons_self
      have tail : ∀ outline ∈ outlines.tail, outline = .whole :=
        fun outline member => whole outline (List.mem_of_mem_tail member)
      rw [readRow]
      simp only [head, readAlong_whole, first, Option.bind_eq_bind, Option.bind_some]
      rcases more with ⟨next, others, comma, othersRead, rfl⟩ | ⟨bracket, rfl⟩
      · simp only [comma, ih tail othersRead, Option.bind_some, Option.pure_def]
      · simp only [bracket, Option.pure_def]

theorem find?_ofFields (fields : List String) (name : String) :
    Table.find? name (fields.map fun field => (field, Outline.whole)) =
      if fields.contains name then some .whole else none := by
  induction fields with
  | nil => rfl
  | cons field fields ih =>
      by_cases same : field = name
      · simp [Table.find?, same]
      · simp [Table.find?, same, ih, Ne.symm same]

/-- A member that is not wanted is skipped as far as its value would have been read. -/
theorem readMember_of_readValue (read : readValue fuel depth text = some (value, rest))
    (fields : List String) (name : String) :
    readMember name (readAlong fuel depth) (skipValue fuel)
        (Table.find? name (fields.map fun field => (field, Outline.whole))) text =
      some ([(name, value)].filter fun member => fields.contains member.1, rest) := by
  rw [find?_ofFields, List.filter_singleton]
  cases fields.contains name with
  | true => simp [readMember, readAlong_whole, read]
  | false => simp [readMember, (skips fuel).1 read]

theorem readWanted_of_readMembers (fields : List String)
    (read : readMembers fuel depth text = some (members, rest)) :
    readWanted fuel depth (fields.map fun field => (field, .whole)) text =
      some (members.filter fun member => fields.contains member.1, rest) := by
  induction fuel generalizing text members with
  | zero => cases read
  | succ fuel ih =>
      obtain ⟨name, value, after, ⟨opened, named, valued, quote, nameRead, colon, valueRead⟩, more⟩ :=
        readMembers_cases read
      rw [readWanted]
      simp only [quote, nameRead, colon, readMember_of_readValue valueRead, Option.bind_eq_bind,
        Option.bind_some]
      rcases more with ⟨next, others, comma, othersRead, rfl⟩ | ⟨brace, rfl⟩
      · simp only [comma, ih othersRead, Option.bind_some, Option.pure_def, ← List.filter_append,
          List.singleton_append]
      · simp only [brace, Option.pure_def]

/-- What is no array and no object is read like any value. -/
theorem readAlong_of_head {c : Char} (noObject : c ≠ '{') (noArray : c ≠ '[') (fuel depth : Nat)
    (outline : Outline) (tail : List Char) :
    readAlong (fuel + 1) depth outline (c :: tail) = readValue (fuel + 1) depth (c :: tail) := by
  rw [readAlong.eq_def]
  split <;> simp_all

/-- A value that is read whole is read along the outline of a record. -/
theorem readAlong_ofFields (fields : List String)
    (read : readValue fuel depth text = some (value, rest)) :
    readAlong fuel depth (.ofFields fields) text = some (only fields value, rest) := by
  cases fuel with
  | zero => cases read
  | succ fuel =>
      cases readsValue_of_readValue read with
      | word isWord =>
          cases isWord <;> exact (readAlong_of_head (by decide) (by decide) _ _ _ _).trans read
      | string opened => exact (readAlong_of_head (by decide) (by decide) _ _ _ _).trans read
      | emptyArray closed =>
          rw [Outline.ofFields, readAlong, closed]
          rfl
      | array unclosed items =>
          rw [Outline.ofFields, readAlong]
          split
          · next closed => exact absurd closed (unclosed _)
          · rw [readRow_of_readItems (by simp) items]
            rfl
      | emptyObject closed =>
          rw [Outline.ofFields, readAlong, closed]
          rfl
      | object unclosed inside =>
          rw [Outline.ofFields, readAlong]
          split
          · next closed => exact absurd closed (unclosed _)
          · rw [readWanted_of_readMembers fields inside]
            rfl
      | number isNumber =>
          obtain ⟨c, tail, rfl, start⟩ := head_of_readNumber isNumber
          have noBracket : c ≠ '{' ∧ c ≠ '[' := by
            constructor <;> rintro rfl <;> rcases start with h | h <;> contradiction
          rw [readAlong_of_head noBracket.1 noBracket.2, read,
            only_of_ne_object (skipNumber_of_readNumber isNumber).2]

/-- A text that is read strictly is read along the outline of a record. -/
theorem readOutlined_of_read (fields : List String) {text : String} {document : Json}
    (read : Json.read text = some document) :
    readOutlined (.ofFields fields) text = some (only fields document) := by
  rw [Json.read, readChars] at read
  split at read
  · next value rest whole =>
      split at read
      · next blank =>
          cases read
          rw [readOutlined, readAlong_ofFields fields whole]
          exact if_pos blank
      · cases read
  · cases read

/-! ## Records -/

theorem find?_filter_of_mem {field : String} (known : field ∈ fields)
    (members : List (String × Json)) :
    Table.find? field (members.filter fun member => fields.contains member.1) =
      Table.find? field members := by
  induction members with
  | nil => rfl
  | cons member rest ih =>
      obtain ⟨name, value⟩ := member
      by_cases same : name = field
      · simp [Table.find?, same, known]
      · cases wanted : fields.contains name <;> simp_all [Table.find?]

/-- A required field of a record is the same with the members that are not wanted and without. -/
theorem required_only {α : Type} {field : String} (known : field ∈ fields)
    (read : Json → Option α) (document : Json) :
    (Record.members? fields (only fields document)).bind (Record.required field read) =
      (Record.members? fields document).bind (Record.required field read) := by
  cases document with
  | object members =>
      have once : Table.onceEach fields (members.filter fun member => fields.contains member.1) =
          Table.onceEach fields members := by
        simp only [Table.onceEach, List.filter_filter, Bool.and_self]
      simp only [only, Record.members?, once]
      split
      · simp only [Option.bind_some, Record.required, find?_filter_of_mem known]
      · rfl
  | null | bool | int | float | string | array => rfl

end Attest.Json
