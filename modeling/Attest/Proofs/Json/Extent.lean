import Attest.Proofs.Json.ReadBack
import Mathlib.Data.List.DropRight

/-!
# How far reading goes

What is read from a text is read from some first characters of it, and the same is read from these
characters whatever comes after them.  So an object is the texts of its members with commas
between them, and any list of such texts is an object with their members.
-/

namespace Attest.Json

variable {text spelled rest : List Char}

/-! ## Blanks -/

/-- JSON blanks. -/
def Blank (text : List Char) : Prop :=
  ∀ c ∈ text, isSpace c = true

theorem skipSpace_append {blanks : List Char} (blank : Blank blanks) (text : List Char) :
    skipSpace (blanks ++ text) = skipSpace text :=
  List.dropWhile_append_of_pos blank

/-- What is left by skipping blanks is met behind them, whatever comes after it. -/
theorem exists_blank_of_skipSpace (nonempty : spelled ≠ [])
    (skipped : skipSpace text = spelled ++ rest) :
    ∃ blanks, Blank blanks ∧ text = blanks ++ (spelled ++ rest) ∧
      ∀ after, skipSpace (blanks ++ (spelled ++ after)) = spelled ++ after := by
  have blank : Blank (text.takeWhile isSpace) := fun c member =>
    List.all_eq_true.mp List.all_takeWhile c member
  refine ⟨text.takeWhile isSpace, blank, ?_, ?_⟩
  · rw [← skipped]
    exact List.takeWhile_append_dropWhile.symm
  · intro after
    obtain ⟨c, tail, rfl⟩ := List.exists_cons_of_ne_nil nonempty
    have visible : ¬isSpace c = true := by
      have kept := List.head?_dropWhile_not isSpace text
      rw [← skipSpace, skipped] at kept
      simpa using kept
    rw [skipSpace_append blank]
    exact List.dropWhile_cons_of_neg visible

theorem exists_blank_of_skipSpace_cons {c : Char} (skipped : skipSpace text = c :: rest) :
    ∃ blanks, Blank blanks ∧ text = blanks ++ ([c] ++ rest) ∧
      ∀ after, skipSpace (blanks ++ ([c] ++ after)) = [c] ++ after :=
  exists_blank_of_skipSpace (List.cons_ne_nil c []) skipped

/-! ## Items, members and values -/

section Steps

variable {fuel depth : Nat} {item value : Json} {items : List Json} {name : String}
  {members : List (String × Json)} {after next : List Char}

/-- The first item is read, and then the other items or the end of the array. -/
theorem readItems_cases (read : readItems (fuel + 1) depth text = some (items, rest)) :
    ∃ item after, readValue fuel depth (skipSpace text) = some (item, after) ∧
      ((∃ next others, skipSpace after = ',' :: next ∧
          readItems fuel depth next = some (others, rest) ∧ items = item :: others) ∨
        (skipSpace after = ']' :: rest ∧ items = [item])) := by
  rw [readItems] at read
  obtain ⟨⟨item, after⟩, first, read⟩ := Option.bind_eq_some_iff.mp read
  refine ⟨item, after, first, ?_⟩
  simp only at read
  split at read
  · next next comma =>
      obtain ⟨⟨others, last⟩, more, same⟩ := Option.bind_eq_some_iff.mp read
      cases same
      exact .inl ⟨next, others, comma, more, rfl⟩
  · next bracket =>
      cases read
      exact .inr ⟨bracket, rfl⟩
  · cases read

theorem readItems_of_comma (first : readValue fuel depth (skipSpace text) = some (item, after))
    (comma : skipSpace after = ',' :: next)
    (more : readItems fuel depth next = some (items, rest)) :
    readItems (fuel + 1) depth text = some (item :: items, rest) := by
  rw [readItems]
  simp only [first, Option.bind_eq_bind, Option.bind_some, comma, more]
  rfl

theorem readItems_of_bracket (first : readValue fuel depth (skipSpace text) = some (item, after))
    (bracket : skipSpace after = ']' :: rest) :
    readItems (fuel + 1) depth text = some ([item], rest) := by
  rw [readItems]
  simp only [first, Option.bind_eq_bind, Option.bind_some, bracket]
  rfl

/-- The name and the value of a member are read, each behind blanks. -/
def ReadsMember (fuel depth : Nat) (text : List Char) (name : String) (value : Json)
    (rest : List Char) : Prop :=
  ∃ opened named valued, skipSpace text = '"' :: opened ∧
    readString opened = some (name, named) ∧ skipSpace named = ':' :: valued ∧
    readValue fuel depth (skipSpace valued) = some (value, rest)

/-- The first member is read, and then the other members or the end of the object. -/
theorem readMembers_cases (read : readMembers (fuel + 1) depth text = some (members, rest)) :
    ∃ name value after, ReadsMember fuel depth text name value after ∧
      ((∃ next others, skipSpace after = ',' :: next ∧
          readMembers fuel depth next = some (others, rest) ∧ members = (name, value) :: others) ∨
        (skipSpace after = '}' :: rest ∧ members = [(name, value)])) := by
  rw [readMembers] at read
  split at read
  · next opened quote =>
      obtain ⟨⟨name, named⟩, nameRead, read⟩ := Option.bind_eq_some_iff.mp read
      simp only at read
      split at read
      · next valued colon =>
          obtain ⟨⟨value, after⟩, first, read⟩ := Option.bind_eq_some_iff.mp read
          refine ⟨name, value, after, ⟨opened, named, valued, quote, nameRead, colon, first⟩, ?_⟩
          simp only at read
          split at read
          · next next comma =>
              obtain ⟨⟨others, last⟩, more, same⟩ := Option.bind_eq_some_iff.mp read
              cases same
              exact .inl ⟨next, others, comma, more, rfl⟩
          · next brace =>
              cases read
              exact .inr ⟨brace, rfl⟩
          · cases read
      · cases read
  · cases read

theorem readMembers_of_comma (first : ReadsMember fuel depth text name value after)
    (comma : skipSpace after = ',' :: next)
    (more : readMembers fuel depth next = some (members, rest)) :
    readMembers (fuel + 1) depth text = some ((name, value) :: members, rest) := by
  obtain ⟨opened, named, valued, quote, nameRead, colon, first⟩ := first
  rw [readMembers]
  simp only [quote, nameRead, colon, first, Option.bind_eq_bind, Option.bind_some, comma, more]
  rfl

theorem readMembers_of_brace (first : ReadsMember fuel depth text name value after)
    (brace : skipSpace after = '}' :: rest) :
    readMembers (fuel + 1) depth text = some ([(name, value)], rest) := by
  obtain ⟨opened, named, valued, quote, nameRead, colon, first⟩ := first
  rw [readMembers]
  simp only [quote, nameRead, colon, first, Option.bind_eq_bind, Option.bind_some, brace]
  rfl

/-- Texts that are values by themselves. -/
inductive Word : List Char → Json → Prop where
  | null : Word ['n', 'u', 'l', 'l'] .null
  | true : Word ['t', 'r', 'u', 'e'] (.bool true)
  | false : Word ['f', 'a', 'l', 's', 'e'] (.bool false)

/-- How a value is read: by its first character, as a word, a string, an array, an object or a
number. -/
inductive ReadsValue (fuel : Nat) : Nat → List Char → Json → List Char → Prop where
  | word {depth : Nat} {word rest : List Char} {value : Json} (isWord : Word word value) :
      ReadsValue fuel depth (word ++ rest) value rest
  | string {depth : Nat} {opened rest : List Char} {content : String}
      (read : readString opened = some (content, rest)) :
      ReadsValue fuel depth ('"' :: opened) (.string content) rest
  | emptyArray {depth : Nat} {opened rest : List Char}
      (closed : skipSpace opened = ']' :: rest) :
      ReadsValue fuel (depth + 1) ('[' :: opened) (.array []) rest
  | array {depth : Nat} {opened rest : List Char} {items : List Json}
      (unclosed : ∀ next, skipSpace opened ≠ ']' :: next)
      (read : readItems fuel depth (skipSpace opened) = some (items, rest)) :
      ReadsValue fuel (depth + 1) ('[' :: opened) (.array items) rest
  | emptyObject {depth : Nat} {opened rest : List Char}
      (closed : skipSpace opened = '}' :: rest) :
      ReadsValue fuel (depth + 1) ('{' :: opened) (.object []) rest
  | object {depth : Nat} {opened rest : List Char} {members : List (String × Json)}
      (unclosed : ∀ next, skipSpace opened ≠ '}' :: next)
      (read : readMembers fuel depth (skipSpace opened) = some (members, rest)) :
      ReadsValue fuel (depth + 1) ('{' :: opened) (.object members) rest
  | number {depth : Nat} {text rest : List Char} {value : Json}
      (read : readNumber text = some (value, rest)) : ReadsValue fuel depth text value rest

theorem readsValue_of_readValue (read : readValue (fuel + 1) depth text = some (value, rest)) :
    ReadsValue fuel depth text value rest := by
  rw [readValue.eq_def] at read
  split at read
  · contradiction
  · cases read
    exact .word .null
  · cases read
    exact .word .true
  · cases read
    exact .word .false
  · obtain ⟨⟨content, last⟩, found, same⟩ := Option.map_eq_some_iff.mp read
    cases same
    exact .string found
  · next sameFuel =>
    cases sameFuel
    split at read
    · next closed =>
      cases read
      exact .emptyArray closed
    · next unclosed =>
      obtain ⟨⟨items, last⟩, found, same⟩ := Option.map_eq_some_iff.mp read
      cases same
      exact .array unclosed found
  · next sameFuel =>
    cases sameFuel
    split at read
    · next closed =>
      cases read
      exact .emptyObject closed
    · next unclosed =>
      obtain ⟨⟨members, last⟩, found, same⟩ := Option.map_eq_some_iff.mp read
      cases same
      exact .object unclosed found
  · exact .number read

theorem readValue_of_readsValue (reads : ReadsValue fuel depth text value rest) :
    readValue (fuel + 1) depth text = some (value, rest) := by
  cases reads with
  | word isWord => cases isWord <;> rfl
  | string read => rw [readValue, read, Option.map_some]
  | emptyArray closed =>
      rw [readValue, closed]
      rfl
  | array unclosed read =>
      rw [readValue]
      split
      · next closed => exact absurd closed (unclosed _)
      · rw [read, Option.map_some]
  | emptyObject closed =>
      rw [readValue, closed]
      rfl
  | object unclosed read =>
      rw [readValue]
      split
      · next closed => exact absurd closed (unclosed _)
      · rw [read, Option.map_some]
  | number read =>
      obtain ⟨c, tail, rfl, start⟩ := head_of_readNumber read
      rw [readValue_of_number start, read]

end Steps

/-! ## How far reading goes -/

variable {α : Type}

/-- Reading stops behind some characters of the text, and reads the same from these characters
with whatever may follow and as much fuel as there are characters. -/
def Extent (read : Nat → List Char → Option (α × List Char)) (follows : List Char → Prop)
    (text : List Char) (value : α) (rest : List Char) : Prop :=
  ∃ spelled, text = spelled ++ rest ∧ ∀ fuel after, spelled.length ≤ fuel → follows after →
    read fuel (spelled ++ after) = some (value, after)

/-- A reader that needs fuel reads at least one character. -/
theorem ne_nil_of_reads {read : Nat → List Char → Option (α × List Char)}
    {follows : List Char → Prop} {value : α} (empty : ∀ text, read 0 text = none)
    (nothing : follows [])
    (reads : ∀ fuel after, spelled.length ≤ fuel → follows after →
      read fuel (spelled ++ after) = some (value, after)) : spelled ≠ [] := by
  rintro rfl
  have none := reads 0 [] (Nat.le_refl 0) nothing
  rw [empty] at none
  cases none

/-- What may follow an array or an object: anything. -/
def Anything (_ : List Char) : Prop := True

def ValueExtent (fuel : Nat) : Prop :=
  ∀ {depth : Nat} {text rest : List Char} {value : Json},
    readValue fuel depth text = some (value, rest) →
      Extent (fun fuel => readValue fuel depth) EndsNumber text value rest

def ItemsExtent (fuel : Nat) : Prop :=
  ∀ {depth : Nat} {text rest : List Char} {items : List Json},
    readItems fuel depth text = some (items, rest) →
      Extent (fun fuel => readItems fuel depth) Anything text items rest

def MembersExtent (fuel : Nat) : Prop :=
  ∀ {depth : Nat} {text rest : List Char} {members : List (String × Json)},
    readMembers fuel depth text = some (members, rest) →
      Extent (fun fuel => readMembers fuel depth) Anything text members rest

/-- Blanks continue no number when what comes after them does not. -/
theorem endsNumber_append {blanks : List Char} (blank : Blank blanks) (ends : EndsNumber rest) :
    EndsNumber (blanks ++ rest) := by
  cases blanks with
  | nil => exact ends
  | cons c tail =>
      intro d member
      cases member
      have space := blank c List.mem_cons_self
      simp only [isSpace, Bool.or_eq_true, beq_iff_eq] at space
      rcases space with ((rfl | rfl) | rfl) | rfl <;> decide

/-- The first of several elements, as `first` reads it with some fuel up to what comes after it,
is read from its own characters with whatever may follow. -/
def FirstExtent (first : Nat → List Char → List Char → Prop) (text rest : List Char) : Prop :=
  ∃ spelled, text = spelled ++ rest ∧ spelled ≠ [] ∧ ∀ fuel after, spelled.length ≤ fuel →
    EndsNumber after → first fuel (spelled ++ after) after

/-- An item is read from its own characters and the blanks before them. -/
theorem ValueExtent.item {fuel depth : Nat} {value : Json} (values : ValueExtent fuel)
    (read : readValue fuel depth (skipSpace text) = some (value, rest)) :
    FirstExtent (fun fuel text after => readValue fuel depth (skipSpace text) = some (value, after))
      text rest := by
  obtain ⟨spelled, parts, reads⟩ := values read
  have nonempty := ne_nil_of_reads (fun _ => rfl) endsNumber_nil reads
  obtain ⟨blanks, -, rfl, skips⟩ := exists_blank_of_skipSpace nonempty parts
  refine ⟨blanks ++ spelled, (List.append_assoc _ _ _).symm,
    List.append_ne_nil_of_right_ne_nil blanks nonempty, fun fuel after enough ends => ?_⟩
  rw [List.length_append] at enough
  rw [List.append_assoc, skips]
  exact reads fuel after (by omega) ends

/-- So is a member, with the blanks inside it. -/
theorem ValueExtent.member {fuel depth : Nat} {name : String} {value : Json}
    (values : ValueExtent fuel) (read : ReadsMember fuel depth text name value rest) :
    FirstExtent (fun fuel text after => ReadsMember fuel depth text name value after)
      text rest := by
  obtain ⟨opened, named, valued, quote, nameRead, colon, valueRead⟩ := read
  obtain ⟨lead, -, rfl, leadSkips⟩ := exists_blank_of_skipSpace_cons quote
  obtain ⟨inside, rfl, nameReads⟩ := readString_local nameRead
  obtain ⟨gap, -, rfl, gapSkips⟩ := exists_blank_of_skipSpace_cons colon
  obtain ⟨spelled, rfl, -, reads⟩ := values.item valueRead
  refine ⟨lead ++ (['"'] ++ (inside ++ (gap ++ ([':'] ++ spelled)))),
    by simp only [List.append_assoc], by simp, fun fuel after enough ends => ?_⟩
  simp only [List.length_append] at enough
  simp only [List.append_assoc]
  exact ⟨_, _, _, leadSkips _, nameReads _, gapSkips _, reads fuel after (by omega) ends⟩

section Elements

variable {β : Type} {read : Nat → List Char → Option (List β × List Char)}
  {first : Nat → List Char → List Char → Prop} {element : β} {elements : List β} {close : Char}
  {after : List Char}

/-- Elements are read as far as they go when the first one is and, after a comma, the others are,
or the first one is the last. -/
theorem extent_of_elements
    (comma : ∀ {fuel text after next others rest}, first fuel text after →
      skipSpace after = ',' :: next → read fuel next = some (others, rest) →
        read (fuel + 1) text = some (element :: others, rest))
    (closed : ∀ {fuel text after rest}, first fuel text after →
      skipSpace after = close :: rest → read (fuel + 1) text = some ([element], rest))
    (closing : close = ']' ∨ close = '}') (extent : FirstExtent first text after)
    (following : (∃ next others, skipSpace after = ',' :: next ∧
        Extent read Anything next others rest ∧ elements = element :: others) ∨
      (skipSpace after = close :: rest ∧ elements = [element])) :
    Extent read Anything text elements rest := by
  obtain ⟨spelled, rfl, nonempty, reads⟩ := extent
  have positive := List.length_pos_iff.mpr nonempty
  rcases following with ⟨next, others, found, ⟨last, rfl, lastReads⟩, rfl⟩ | ⟨found, rfl⟩
  · obtain ⟨gap, blank, rfl, skips⟩ := exists_blank_of_skipSpace_cons found
    refine ⟨spelled ++ (gap ++ ([','] ++ last)), by simp only [List.append_assoc], ?_⟩
    intro fuel after enough anything
    simp only [List.length_append, List.length_singleton] at enough
    obtain ⟨fuel, rfl⟩ := Nat.exists_eq_add_one_of_ne_zero (n := fuel) (by omega)
    simp only [List.append_assoc]
    have ends : EndsNumber (gap ++ ([','] ++ (last ++ after))) :=
      endsNumber_append blank (endsNumber_of_closing (.inl rfl) _)
    exact comma (reads fuel _ (by omega) ends) (skips _) (lastReads fuel after (by omega) anything)
  · obtain ⟨gap, blank, rfl, skips⟩ := exists_blank_of_skipSpace_cons found
    refine ⟨spelled ++ (gap ++ [close]), by simp only [List.append_assoc], ?_⟩
    intro fuel after enough anything
    simp only [List.length_append, List.length_singleton] at enough
    obtain ⟨fuel, rfl⟩ := Nat.exists_eq_add_one_of_ne_zero (n := fuel) (by omega)
    simp only [List.append_assoc]
    have ends : EndsNumber (gap ++ ([close] ++ after)) :=
      endsNumber_append blank (endsNumber_of_closing (.inr closing) _)
    exact closed (reads fuel _ (by omega) ends) (skips _)

/-- Behind an opening bracket or brace the elements are read as far as they go, and what is read
is not the end. -/
theorem exists_spelled_of_unclosed {value : α} {reader : Nat → List Char → Option (α × List Char)}
    {opened : List Char} (empty : ∀ text, reader 0 text = none)
    (unclosed : ∀ next, skipSpace opened ≠ close :: next)
    (extent : Extent reader Anything (skipSpace opened) value rest) :
    ∃ spelled, opened = spelled ++ rest ∧ ∀ fuel after, spelled.length ≤ fuel →
      (∀ next, skipSpace (spelled ++ after) ≠ close :: next) ∧
        reader fuel (skipSpace (spelled ++ after)) = some (value, after) := by
  obtain ⟨spelled, parts, reads⟩ := extent
  have nonempty := ne_nil_of_reads empty trivial reads
  obtain ⟨gap, -, rfl, skips⟩ := exists_blank_of_skipSpace nonempty parts
  refine ⟨gap ++ spelled, (List.append_assoc _ _ _).symm, fun fuel after enough => ?_⟩
  rw [List.length_append] at enough
  rw [List.append_assoc, skips]
  refine ⟨fun next same => ?_, reads fuel after (by omega) trivial⟩
  obtain ⟨c, tail, rfl⟩ := List.exists_cons_of_ne_nil nonempty
  cases same
  exact unclosed _ parts

end Elements

theorem itemsExtent_succ {fuel : Nat} (values : ValueExtent fuel) (others : ItemsExtent fuel) :
    ItemsExtent (fuel + 1) := by
  intro depth text rest items read
  obtain ⟨item, after, itemRead, following⟩ := readItems_cases read
  refine extent_of_elements readItems_of_comma readItems_of_bracket (.inl rfl)
    (values.item itemRead) (following.imp ?_ id)
  rintro ⟨next, more, comma, moreRead, same⟩
  exact ⟨next, more, comma, others moreRead, same⟩

theorem membersExtent_succ {fuel : Nat} (values : ValueExtent fuel)
    (others : MembersExtent fuel) : MembersExtent (fuel + 1) := by
  intro depth text rest members read
  obtain ⟨name, value, after, memberRead, following⟩ := readMembers_cases read
  refine extent_of_elements readMembers_of_comma readMembers_of_brace (.inr rfl)
    (values.member memberRead) (following.imp ?_ id)
  rintro ⟨next, more, comma, moreRead, same⟩
  exact ⟨next, more, comma, others moreRead, same⟩

theorem valueExtent_succ {fuel : Nat} (items : ItemsExtent fuel) (members : MembersExtent fuel) :
    ValueExtent (fuel + 1) := by
  intro depth text rest value read
  -- Every way of reading a value takes one unit of fuel for the first character.
  have extent : ∀ {c spelled}, (∀ fuel after, spelled.length ≤ fuel → EndsNumber after →
      ReadsValue fuel depth (c :: (spelled ++ after)) value after) →
        ∀ fuel after, (c :: spelled).length ≤ fuel → EndsNumber after →
          readValue fuel depth (c :: spelled ++ after) = some (value, after) := by
    intro c spelled reads fuel after enough ends
    rw [List.length_cons] at enough
    obtain ⟨fuel, rfl⟩ := Nat.exists_eq_add_one_of_ne_zero (n := fuel) (by omega)
    exact readValue_of_readsValue (reads fuel after (by omega) ends)
  cases readsValue_of_readValue read with
  | word isWord =>
      refine ⟨_, rfl, ?_⟩
      cases isWord with
      | null => exact extent fun fuel after _ _ => .word .null
      | true => exact extent fun fuel after _ _ => .word .true
      | false => exact extent fun fuel after _ _ => .word .false
  | string read =>
      obtain ⟨spelled, rfl, reads⟩ := readString_local read
      exact ⟨'"' :: spelled, rfl, extent fun fuel after _ _ => .string (reads after)⟩
  | emptyArray closed =>
      obtain ⟨gap, -, rfl, skips⟩ := exists_blank_of_skipSpace_cons closed
      refine ⟨'[' :: (gap ++ [']']), by simp, extent fun fuel after _ _ => ?_⟩
      rw [List.append_assoc]
      exact .emptyArray (skips after)
  | array unclosed read =>
      obtain ⟨spelled, rfl, reads⟩ :=
        exists_spelled_of_unclosed (fun _ => rfl) unclosed (items read)
      refine ⟨'[' :: spelled, rfl, extent fun fuel after enough _ => ?_⟩
      obtain ⟨unclosed, again⟩ := reads fuel after enough
      exact .array unclosed again
  | emptyObject closed =>
      obtain ⟨gap, -, rfl, skips⟩ := exists_blank_of_skipSpace_cons closed
      refine ⟨'{' :: (gap ++ ['}']), by simp, extent fun fuel after _ _ => ?_⟩
      rw [List.append_assoc]
      exact .emptyObject (skips after)
  | object unclosed read =>
      obtain ⟨spelled, rfl, reads⟩ :=
        exists_spelled_of_unclosed (fun _ => rfl) unclosed (members read)
      refine ⟨'{' :: spelled, rfl, extent fun fuel after enough _ => ?_⟩
      obtain ⟨unclosed, again⟩ := reads fuel after enough
      exact .object unclosed again
  | number read =>
      obtain ⟨spelled, rfl, reads⟩ := readNumber_local read
      cases spelled with
      | nil => cases reads [] endsNumber_nil
      | cons c spelled =>
          exact ⟨c :: spelled, rfl, extent fun fuel after _ ends => .number (reads after ends)⟩

/-- Reading goes as far as its text does, at every level. -/
theorem extents (fuel : Nat) : ValueExtent fuel ∧ ItemsExtent fuel ∧ MembersExtent fuel := by
  induction fuel with
  | zero =>
      refine ⟨?_, ?_, ?_⟩ <;> intro depth text rest result read <;> cases read
  | succ fuel ih =>
      obtain ⟨values, items, members⟩ := ih
      exact ⟨valueExtent_succ items members, itemsExtent_succ values items,
        membersExtent_succ values members⟩

/-! ## Texts of members -/

/-- The characters of a member between braces or commas: closed by a brace they read as the
member alone, with `depth` more levels of nesting allowed in its value. -/
structure MemberText (depth : Nat) where
  chars : List Char
  name : String
  value : Json
  reads : readMembers (chars.length + 2) depth (chars ++ ['}']) = some ([(name, value)], [])

namespace MemberText

variable {depth fuel : Nat}

/-- The member that the characters read as. -/
def member (part : MemberText depth) : String × Json :=
  (part.name, part.value)

theorem exists_reads (part : MemberText depth) :
    ∃ spelled gap, Blank gap ∧ part.chars = spelled ++ gap ∧ ∀ fuel after,
      spelled.length ≤ fuel → EndsNumber after →
        ReadsMember fuel depth (spelled ++ after) part.name part.value after := by
  obtain ⟨name, value, after, first, next⟩ := readMembers_cases part.reads
  rcases next with ⟨next, others, -, more, same⟩ | ⟨brace, same⟩
  · cases same
    obtain ⟨_, _, _, -, ⟨_, _, -, -, none⟩ | ⟨-, none⟩⟩ := readMembers_cases more <;> cases none
  · cases same
    obtain ⟨spelled, parts, -, reads⟩ := ValueExtent.member (extents _).1 first
    obtain ⟨gap, gapBlank, rfl, -⟩ := exists_blank_of_skipSpace_cons brace
    rw [List.append_nil, ← List.append_assoc] at parts
    exact ⟨spelled, gap, gapBlank, List.append_cancel_right parts, reads⟩

/-- The written text of a member whose value reads back. -/
def written (name : String) (value : Json) (reads : value.Every NumberReadsBack)
    (shallow : nesting value ≤ depth) : MemberText depth where
  chars := stringChars name ++ ':' :: Json.chars value
  name := name
  value := value
  reads := by
    have fits : (stringChars name ++ ':' :: (Json.chars value ++ restMemberChars [])).length ≤
        (stringChars name ++ ':' :: Json.chars value).length + 2 := by
      simp only [restMemberChars, List.length_append, List.length_cons, List.length_nil]
      omega
    have read : readMembers ((stringChars name ++ ':' :: Json.chars value).length + 2) depth
        (stringChars name ++ ':' :: (Json.chars value ++ (restMemberChars [] ++ []))) =
          some ([(name, value)], []) :=
      readMembers_chars name value [] reads trivial fits
        (Nat.max_le.mpr ⟨shallow, Nat.zero_le depth⟩)
    rw [List.append_assoc, List.cons_append]
    simpa only [restMemberChars, List.append_nil] using read

/-- Characters that are read as a member up to some blanks. -/
theorem exists_of_readsMember {name : String} {value : Json} {after : List Char}
    (read : ReadsMember fuel depth text name value after) :
    ∃ spelled, text = spelled ++ after ∧ ∀ gap, Blank gap →
      ∃ part : MemberText depth, part.chars = spelled ++ gap ∧ part.member = (name, value) := by
  obtain ⟨spelled, rfl, -, reads⟩ := ValueExtent.member (extents _).1 read
  refine ⟨spelled, rfl, fun gap gapBlank => ⟨⟨spelled ++ gap, name, value, ?_⟩, rfl, rfl⟩⟩
  rw [List.append_assoc]
  refine readMembers_of_brace (reads _ _ ?_ ?_) ?_
  · rw [List.length_append]
    omega
  · exact endsNumber_append gapBlank (endsNumber_of_closing (.inr (.inr rfl)) _)
  · rw [skipSpace_append gapBlank]
    rfl

end MemberText

/-- The texts of members with commas between them. -/
def joined {depth : Nat} (parts : List (MemberText depth)) : List Char :=
  [','].intercalate (parts.map MemberText.chars)

/-- The members of an object are read one after the other from their texts. -/
theorem readMembers_joined {depth : Nat} {parts : List (MemberText depth)} (nonempty : parts ≠ [])
    (rest : List Char) : ∀ fuel, (joined parts).length < fuel →
      readMembers fuel depth (joined parts ++ '}' :: rest) =
        some (parts.map MemberText.member, rest) := by
  induction parts with
  | nil => exact absurd rfl nonempty
  | cons part others ih =>
      obtain ⟨spelled, gap, gapBlank, chars, reads⟩ := part.exists_reads
      intro fuel enough
      obtain ⟨fuel, rfl⟩ := Nat.exists_eq_add_one_of_ne_zero (n := fuel) (by omega)
      cases others with
      | nil =>
          have whole : joined [part] = spelled ++ gap := chars ▸ List.intercalate_singleton
          rw [whole, List.length_append] at enough
          rw [whole, List.append_assoc]
          refine readMembers_of_brace (reads fuel _ (by omega) ?_) ?_
          · exact endsNumber_append gapBlank (endsNumber_of_closing (.inr (.inr rfl)) _)
          · rw [skipSpace_append gapBlank]
            rfl
      | cons next others =>
          have whole : joined (part :: next :: others) =
              spelled ++ (gap ++ ',' :: joined (next :: others)) := by
            rw [joined, List.map_cons, List.map_cons, List.intercalate_cons_cons, chars]
            simp only [List.append_assoc]
            rfl
          rw [whole, List.length_append, List.length_append, List.length_cons] at enough
          rw [whole, List.append_assoc, List.append_assoc]
          refine readMembers_of_comma (reads fuel _ (by omega) ?_) ?_
            (ih (List.cons_ne_nil _ _) fuel (by omega))
          · exact endsNumber_append gapBlank (endsNumber_of_closing (.inl rfl) _)
          · rw [skipSpace_append gapBlank]
            rfl

/-- The members of an object that is read have texts with commas between them. -/
theorem exists_parts_of_readMembers {fuel depth : Nat} {members : List (String × Json)}
    (read : readMembers fuel depth text = some (members, rest)) :
    ∃ parts : List (MemberText depth), parts ≠ [] ∧ parts.map MemberText.member = members ∧
      text = joined parts ++ '}' :: rest := by
  induction fuel generalizing text members with
  | zero => cases read
  | succ fuel ih =>
      obtain ⟨name, value, after, first, next⟩ := readMembers_cases read
      obtain ⟨spelled, rfl, made⟩ := MemberText.exists_of_readsMember first
      rcases next with ⟨next, members, comma, more, rfl⟩ | ⟨brace, rfl⟩
      · obtain ⟨gap, gapBlank, rfl, -⟩ := exists_blank_of_skipSpace_cons comma
        obtain ⟨part, chars, member⟩ := made gap gapBlank
        obtain ⟨parts, nonempty, members, rfl⟩ := ih more
        obtain ⟨second, others, rfl⟩ := List.exists_cons_of_ne_nil nonempty
        refine ⟨part :: second :: others, List.cons_ne_nil _ _, ?_, ?_⟩
        · rw [List.map_cons, member, members]
        · rw [joined, joined, List.map_cons, List.map_cons, List.map_cons,
            List.intercalate_cons_cons, chars]
          simp only [List.append_assoc]
      · obtain ⟨gap, gapBlank, rfl, -⟩ := exists_blank_of_skipSpace_cons brace
        obtain ⟨part, chars, member⟩ := made gap gapBlank
        refine ⟨[part], List.cons_ne_nil _ _, by rw [List.map_singleton, member], ?_⟩
        rw [joined, List.map_singleton, List.intercalate_singleton, chars]
        simp only [List.append_assoc]
        rfl

/-! ## Objects -/

/-- How deep arrays and objects may nest in a member of a whole object. -/
def memberDepth : Nat := 126

theorem depthLimit_eq : depthLimit = memberDepth + 1 :=
  rfl

/-- The text of a member of a whole object. -/
abbrev OuterMember := MemberText memberDepth

/-- An object with the given texts of members. -/
def objectChars (parts : List OuterMember) : List Char :=
  '{' :: (joined parts ++ ['}'])

theorem readMembers_skipSpace (fuel depth : Nat) (text : List Char) :
    readMembers fuel depth (skipSpace text) = readMembers fuel depth text := by
  cases fuel with
  | zero => rfl
  | succ fuel =>
      have twice : skipSpace (skipSpace text) = skipSpace text :=
        List.dropWhile_idempotent isSpace text
      rw [readMembers, readMembers, twice]

/-- Behind a brace the members of an object are read, if there are any. -/
theorem readMembers_of_readValue {fuel depth : Nat} {opened : List Char} {value : Json}
    (read : readValue (fuel + 1) (depth + 1) ('{' :: opened) = some (value, rest)) :
    (skipSpace opened = '}' :: rest ∧ value = .object []) ∨
      ∃ members, readMembers fuel depth opened = some (members, rest) ∧
        value = .object members := by
  rw [readValue] at read
  split at read
  · next closed =>
      cases read
      exact .inl ⟨closed, rfl⟩
  · obtain ⟨⟨members, last⟩, found, same⟩ := Option.map_eq_some_iff.mp read
    cases same
    rw [readMembers_skipSpace] at found
    exact .inr ⟨members, found, rfl⟩

/-- Texts of members with commas between them and braces around them read as their members. -/
theorem readChars_objectChars {parts : List OuterMember} (nonempty : parts ≠ []) :
    readChars (objectChars parts) = some (.object (parts.map MemberText.member)) := by
  have read : readMembers (2 * (objectChars parts).length + 1) memberDepth
      (joined parts ++ ['}']) = some (parts.map MemberText.member, []) := by
    apply readMembers_joined nonempty
    simp only [objectChars, List.length_cons, List.length_append]
    omega
  have unclosed : ∀ next, skipSpace (joined parts ++ ['}']) ≠ '}' :: next := by
    obtain ⟨_, _, _, ⟨_, _, _, quote, -⟩, -⟩ := readMembers_cases read
    intro next closed
    rw [quote] at closed
    cases closed
  rw [← readMembers_skipSpace] at read
  have whole : readValue (2 * (objectChars parts).length + 2) depthLimit (objectChars parts) =
      some (.object (parts.map MemberText.member), []) :=
    readValue_of_readsValue (.object unclosed read)
  have start : skipSpace (objectChars parts) = objectChars parts := rfl
  rw [readChars, start, whole]
  rfl

/-- An object with members that is read is made of the texts of its members. -/
theorem exists_parts_of_readChars {opened : List Char} {members : List (String × Json)}
    (read : readChars ('{' :: opened) = some (.object members)) (nonempty : members ≠ []) :
    ∃ (parts : List OuterMember) (blanks : List Char), Blank blanks ∧
      parts.map MemberText.member = members ∧ '{' :: opened = objectChars parts ++ blanks := by
  have start : skipSpace ('{' :: opened) = '{' :: opened := rfl
  rw [readChars, start] at read
  split at read
  · next value rest found =>
      split at read
      · next blank =>
          cases read
          have rests : Blank rest := by
            rw [List.isEmpty_iff] at blank
            exact List.dropWhile_eq_nil_iff.mp blank
          rw [depthLimit_eq] at found
          rcases readMembers_of_readValue found with ⟨-, same⟩ | ⟨others, inside, same⟩
          · cases same
            exact absurd rfl nonempty
          · cases same
            obtain ⟨parts, -, same, rfl⟩ := exists_parts_of_readMembers inside
            exact ⟨parts, rest, rests, same, by simp [objectChars]⟩
      · cases read
  · cases read

end Attest.Json
