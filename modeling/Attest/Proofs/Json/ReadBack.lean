import Attest.Proofs.Json.Number
import Attest.Proofs.Json.Shape
import Attest.Proofs.Json.Text

/-!
# Written values read back

The compact text of a value reads as the value, provided that its numbers do and that it
nests no deeper than the reader allows.  The argument follows the value: whatever
text comes after a value is left over, as long as it continues no number.
-/

namespace Attest.Json

/-- The text of a number reads back as the number. -/
def NumberReadsBack : Json → Prop
  | .int i => readNumber (intChars i) = some (.int i, [])
  | .float x => readNumber x.documentText = some (.float x, [])
  | _ => True

/-- The text of a double reads back as the double. -/
def FloatReadsBack : Json → Prop
  | .float x => readNumber x.documentText = some (.float x, [])
  | _ => True

theorem numberReadsBack_of_wellFormedAt {value : Json} (wellFormed : WellFormedAt value)
    (float : FloatReadsBack value) : NumberReadsBack value := by
  cases value with
  | int i => exact readNumber_intChars wellFormed.1 wellFormed.2
  | float x => exact float
  | _ => trivial

mutual

theorem Every.imp₂ {p q r : Json → Prop} (h : ∀ {value}, p value → q value → r value) :
    ∀ {value : Json}, value.Every p → value.Every q → value.Every r
  | .null, hp, hq => h hp hq
  | .bool _, hp, hq => h hp hq
  | .int _, hp, hq => h hp hq
  | .float _, hp, hq => h hp hq
  | .string _, hp, hq => h hp hq
  | .array _, hp, hq => ⟨h hp.1 hq.1, EveryItem.imp₂ h hp.2 hq.2⟩
  | .object _, hp, hq => ⟨h hp.1 hq.1, EveryMember.imp₂ h hp.2 hq.2⟩

theorem EveryItem.imp₂ {p q r : Json → Prop} (h : ∀ {value}, p value → q value → r value) :
    ∀ {items : List Json}, EveryItem p items → EveryItem q items → EveryItem r items
  | [], _, _ => trivial
  | _ :: _, hp, hq => ⟨Every.imp₂ h hp.1 hq.1, EveryItem.imp₂ h hp.2 hq.2⟩

theorem EveryMember.imp₂ {p q r : Json → Prop} (h : ∀ {value}, p value → q value → r value) :
    ∀ {members : List (String × Json)}, EveryMember p members → EveryMember q members →
      EveryMember r members
  | [], _, _ => trivial
  | (_, _) :: _, hp, hq => ⟨Every.imp₂ h hp.1 hq.1, EveryMember.imp₂ h hp.2 hq.2⟩

end

/-! ## Single values -/

/-- A character that no written value starts with: a blank or a closing bracket. -/
def startsNoValue (c : Char) : Bool :=
  isSpace c || c == ']' || c == '}'

theorem skipSpace_of_startsNoValue {c : Char} (h : startsNoValue c = false) (text : List Char) :
    skipSpace (c :: text) = c :: text := by
  have noSpace : isSpace c = false := by
    simp only [startsNoValue, Bool.or_eq_false_iff] at h
    exact h.1.1
  simp [skipSpace, noSpace]

theorem startsNoValue_of_number {c : Char} (h : c = '-' ∨ c.isDigit = true) :
    startsNoValue c = false := by
  rcases h with rfl | digit
  · decide
  · rw [← Bool.not_eq_true]
    intro bad
    simp only [startsNoValue, isSpace, Bool.or_eq_true, beq_iff_eq] at bad
    rcases bad with ((((rfl | rfl) | rfl) | rfl) | rfl) | rfl <;> contradiction

theorem chars_eq_cons {value : Json} (reads : value.Every NumberReadsBack) :
    ∃ c tail, chars value = c :: tail ∧ startsNoValue c = false := by
  have number : ∀ {text : List Char} {value : Json}, readNumber text = some (value, []) →
      ∃ c tail, text = c :: tail ∧ startsNoValue c = false := by
    intro text value read
    obtain ⟨c, tail, rfl, start⟩ := head_of_readNumber read
    exact ⟨c, tail, rfl, startsNoValue_of_number start⟩
  match value, reads with
  | .null, _ => exact ⟨_, _, rfl, by decide⟩
  | .bool true, _ => exact ⟨_, _, rfl, by decide⟩
  | .bool false, _ => exact ⟨_, _, rfl, by decide⟩
  | .int _, reads => exact number reads
  | .float _, reads => exact number reads
  | .string _, _ => exact ⟨_, _, rfl, by decide⟩
  | .array [], _ => exact ⟨_, _, rfl, by decide⟩
  | .array (_ :: _), _ => exact ⟨_, _, rfl, by decide⟩
  | .object [], _ => exact ⟨_, _, rfl, by decide⟩
  | .object ((_, _) :: _), _ => exact ⟨_, _, rfl, by decide⟩

/-- No blank stands in front of a written value. -/
theorem skipSpace_chars {value : Json} (reads : value.Every NumberReadsBack)
    (rest : List Char) : skipSpace (chars value ++ rest) = chars value ++ rest := by
  obtain ⟨c, tail, text, start⟩ := chars_eq_cons reads
  rw [text, List.cons_append, skipSpace_of_startsNoValue start]

/-- Where a number starts, a number is read. -/
theorem readValue_of_number {c : Char} (start : c = '-' ∨ c.isDigit = true) (fuel depth : Nat)
    (text : List Char) : readValue (fuel + 1) depth (c :: text) = readNumber (c :: text) := by
  have other : ∀ d, d = 'n' ∨ d = 't' ∨ d = 'f' ∨ d = '"' ∨ d = '[' ∨ d = '{' → c ≠ d := by
    rintro d bad rfl
    rcases bad with rfl | rfl | rfl | rfl | rfl | rfl <;> rcases start with h | h <;> contradiction
  rw [readValue.eq_def]
  split
  all_goals simp_all

theorem readValue_chars_of_number {text : List Char} {value : Json}
    (read : readNumber text = some (value, [])) {fuel : Nat} (enough : text.length ≤ fuel)
    (depth : Nat) {rest : List Char} (ends : EndsNumber rest) :
    readValue fuel depth (text ++ rest) = some (value, rest) := by
  obtain ⟨c, tail, rfl, start⟩ := head_of_readNumber read
  cases fuel with
  | zero => simp at enough
  | succ fuel =>
      rw [List.cons_append, readValue_of_number start]
      exact readNumber_append read ends

/-! ## Arrays and objects -/

theorem endsNumber_of_closing {c : Char} (h : c = ',' ∨ c = ']' ∨ c = '}') (rest : List Char) :
    EndsNumber (c :: rest) := by
  rintro d member
  rw [List.head?_cons, Option.mem_some_iff] at member
  subst member
  rcases h with rfl | rfl | rfl <;> decide

theorem endsNumber_restItemChars (items : List Json) (rest : List Char) :
    EndsNumber (restItemChars items ++ rest) := by
  cases items with
  | nil => exact endsNumber_of_closing (by decide) _
  | cons item items => exact endsNumber_of_closing (by decide) _

theorem endsNumber_restMemberChars (members : List (String × Json)) (rest : List Char) :
    EndsNumber (restMemberChars members ++ rest) := by
  cases members with
  | nil => exact endsNumber_of_closing (by decide) _
  | cons member members => exact endsNumber_of_closing (by decide) _

@[simp]
theorem skipSpace_comma (text : List Char) : skipSpace (',' :: text) = ',' :: text :=
  rfl

/-- Where an item starts, the items of an array are read. -/
theorem readValue_array {text : List Char} {c : Char} {tail : List Char} (starts : text = c :: tail)
    (start : startsNoValue c = false) (fuel depth : Nat) :
    readValue (fuel + 1) (depth + 1) ('[' :: text) =
      (readItems fuel depth text).map fun (items, rest) => (.array items, rest) := by
  subst starts
  have notClosing : c ≠ ']' := by
    rintro rfl
    contradiction
  rw [readValue, skipSpace_of_startsNoValue start]
  split
  · simp_all
  · rfl

/-- Where a name starts, the members of an object are read. -/
theorem readValue_object (name : String) (text : List Char) (fuel depth : Nat) :
    readValue (fuel + 1) (depth + 1) ('{' :: (stringChars name ++ text)) =
      (readMembers fuel depth (stringChars name ++ text)).map
        fun (members, rest) => (.object members, rest) :=
  rfl

/-- The first member is read as its name and its value, and the rest goes on from there. -/
theorem readMembers_member (name : String) (text : List Char) (fuel depth : Nat) :
    readMembers (fuel + 1) depth (stringChars name ++ ':' :: text) =
      (readValue fuel depth (skipSpace text)).bind fun (value, rest) =>
        match skipSpace rest with
        | ',' :: rest => (readMembers fuel depth rest).map
            fun (members, rest) => ((name, value) :: members, rest)
        | '}' :: rest => some ([(name, value)], rest)
        | _ => none := by
  rw [readMembers, stringChars, List.cons_append, List.append_assoc, List.cons_append,
    List.nil_append, skipSpace_of_startsNoValue (by decide)]
  simp only [Option.bind_eq_bind, readString_escaped, Option.bind_some]
  rw [skipSpace_of_startsNoValue (by decide)]
  simp only [Option.map_eq_bind]
  rfl

theorem length_chars_pos {value : Json} (reads : value.Every NumberReadsBack) :
    0 < (chars value).length := by
  obtain ⟨c, tail, text, _⟩ := chars_eq_cons reads
  simp [text]

-- The induction is on the size of the value.  It is carried by the fuel, which covers the
-- text that is still to be read, and by what follows, which continues no number.
mutual

/-- A written value is read, and what follows it is left over. -/
theorem readValue_chars : ∀ (value : Json) {fuel depth : Nat} {rest : List Char},
    value.Every NumberReadsBack → (chars value).length ≤ fuel → nesting value ≤ depth →
      EndsNumber rest → readValue fuel depth (chars value ++ rest) = some (value, rest)
  | value, 0, _, _, reads, enough, _, _ => by
      have := length_chars_pos reads
      omega
  | .array items, _ + 1, 0, _, _, _, shallow, _ => by
      simp [nesting] at shallow
  | .object members, _ + 1, 0, _, _, _, shallow, _ => by
      simp [nesting] at shallow
  | .null, fuel + 1, _, _, _, _, _, _ => rfl
  | .bool true, fuel + 1, _, _, _, _, _, _ => rfl
  | .bool false, fuel + 1, _, _, _, _, _, _ => rfl
  | .int _, _ + 1, _, _, reads, enough, _, ends => readValue_chars_of_number reads enough _ ends
  | .float _, _ + 1, _, _, reads, enough, _, ends => readValue_chars_of_number reads enough _ ends
  | .string text, fuel + 1, _, rest, _, _, _, _ => by
      rw [chars, stringChars, List.cons_append, List.append_assoc, List.cons_append,
        List.nil_append, readValue, readString_escaped, Option.map_some]
  | .array [], fuel + 1, depth + 1, _, _, _, _, _ => rfl
  | .object [], fuel + 1, depth + 1, _, _, _, _, _ => rfl
  | .array (item :: items), fuel + 1, depth + 1, rest, reads, enough, shallow, ends => by
      obtain ⟨c, tail, text, start⟩ := chars_eq_cons reads.2.1
      have starts : chars item ++ (restItemChars items ++ rest) =
          c :: (tail ++ (restItemChars items ++ rest)) := by rw [text, List.cons_append]
      have fits : (chars item ++ restItemChars items).length ≤ fuel := by
        simpa [chars] using enough
      have shallowItems : max (nesting item) (nestingOfItems items) ≤ depth := by
        simpa [nesting, nestingOfItems] using shallow
      rw [chars, List.cons_append, List.append_assoc, readValue_array starts start,
        readItems_chars item items reads.2.1 reads.2.2 fits shallowItems, Option.map_some]
  | .object ((name, value) :: members), fuel + 1, depth + 1, rest, reads, enough, shallow, ends => by
      have fits : (stringChars name ++ ':' :: (chars value ++ restMemberChars members)).length ≤
          fuel := by
        simpa [chars] using enough
      have shallowMembers : max (nesting value) (nestingOfMembers members) ≤ depth := by
        simpa [nesting, nestingOfMembers] using shallow
      rw [chars, List.cons_append, List.append_assoc, List.cons_append, List.append_assoc,
        readValue_object, readMembers_chars name value members reads.2.1 reads.2.2 fits
          shallowMembers, Option.map_some]
termination_by value => sizeOf value

theorem readItems_chars : ∀ (item : Json) (items : List Json) {fuel depth : Nat}
    {rest : List Char}, item.Every NumberReadsBack → EveryItem NumberReadsBack items →
      (chars item ++ restItemChars items).length ≤ fuel →
      max (nesting item) (nestingOfItems items) ≤ depth →
      readItems fuel depth (chars item ++ (restItemChars items ++ rest)) =
        some (item :: items, rest)
  | _, _, 0, _, _, reads, _, enough, _ => by
      have pos := length_chars_pos reads
      rw [List.length_append] at enough
      omega
  | item, [], fuel + 1, depth, rest, reads, _, enough, shallow => by
      have fits : (chars item).length ≤ fuel := by
        simp [restItemChars] at enough
        omega
      have first := readValue_chars item reads fits ((le_max_left _ _).trans shallow)
        (endsNumber_restItemChars [] rest)
      rw [readItems, skipSpace_chars reads, first]
      rfl
  | item, next :: items, fuel + 1, depth, rest, reads, more, enough, shallow => by
      have fits : (chars item).length ≤ fuel ∧ (chars next ++ restItemChars items).length ≤ fuel := by
        have pos := length_chars_pos reads
        simp [restItemChars] at enough
        simp
        omega
      have first := readValue_chars item reads fits.1 ((le_max_left _ _).trans shallow)
        (endsNumber_restItemChars (next :: items) rest)
      have others : readItems fuel depth (chars next ++ (restItemChars items ++ rest)) =
          some (next :: items, rest) :=
        readItems_chars next items more.1 more.2 fits.2 ((le_max_right _ _).trans shallow)
      rw [readItems, skipSpace_chars reads, first, restItemChars, List.cons_append,
        List.append_assoc]
      simp only [Option.bind_eq_bind, Option.bind_some, skipSpace_comma, others]
      rfl
termination_by item items => sizeOf (item :: items)

theorem readMembers_chars : ∀ (name : String) (value : Json) (members : List (String × Json))
    {fuel depth : Nat} {rest : List Char}, value.Every NumberReadsBack →
      EveryMember NumberReadsBack members →
      (stringChars name ++ ':' :: (chars value ++ restMemberChars members)).length ≤ fuel →
      max (nesting value) (nestingOfMembers members) ≤ depth →
      readMembers fuel depth
          (stringChars name ++ ':' :: (chars value ++ (restMemberChars members ++ rest))) =
        some ((name, value) :: members, rest)
  | _, _, _, 0, _, _, _, _, enough, _ => by
      simp at enough
  | name, value, [], fuel + 1, depth, rest, reads, _, enough, shallow => by
      have fits : (chars value).length ≤ fuel := by
        simp [restMemberChars] at enough
        omega
      have first := readValue_chars value reads fits ((le_max_left _ _).trans shallow)
        (endsNumber_restMemberChars [] rest)
      rw [readMembers_member, skipSpace_chars reads, first]
      rfl
  | name, value, (nextName, nextValue) :: members, fuel + 1, depth, rest, reads, more, enough,
      shallow => by
      have fits : (chars value).length ≤ fuel ∧
          (stringChars nextName ++ ':' :: (chars nextValue ++ restMemberChars members)).length ≤
            fuel := by
        simp [restMemberChars] at enough
        simp
        omega
      have first := readValue_chars value reads fits.1 ((le_max_left _ _).trans shallow)
        (endsNumber_restMemberChars ((nextName, nextValue) :: members) rest)
      have others : readMembers fuel depth (stringChars nextName ++
          ':' :: (chars nextValue ++ (restMemberChars members ++ rest))) =
            some ((nextName, nextValue) :: members, rest) :=
        readMembers_chars nextName nextValue members more.1 more.2 fits.2
          ((le_max_right _ _).trans shallow)
      rw [readMembers_member, skipSpace_chars reads, first, restMemberChars]
      simp only [Option.bind_some, List.cons_append, List.append_assoc, skipSpace_comma, others]
      rfl
termination_by name value members => sizeOf ((name, value) :: members)

end

/-- The text of a value reads as the value, when its numbers do. -/
theorem read_write {value : Json} (reads : value.Every NumberReadsBack)
    (shallow : nesting value ≤ depthLimit) : read (write value) = some value := by
  have whole : readValue (2 * (chars value).length + 2) depthLimit (chars value ++ []) =
      some (value, []) :=
    readValue_chars value reads (by omega) shallow endsNumber_nil
  have noSpace := skipSpace_chars reads []
  rw [List.append_nil] at whole noSpace
  rw [read, write, String.toList_ofList, readChars, noSpace, whole]
  rfl

end Attest.Json
