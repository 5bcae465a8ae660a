import Attest.Json.Reader
import Attest.Json.Writer

/-!
# Written strings read back

A string is recovered from its escaped characters, whatever follows the closing
quotation mark.  Any string that is read goes as far as its closing quotation mark and is the
same string whatever follows that.
-/

namespace Attest.Json

theorem hexValue?_digitChar : ∀ n < 16, Octets.hexValue? (Nat.digitChar n) = some n := by
  decide

theorem hexUnit?_of_lt {n : Nat} (small : n < 32) :
    hexUnit? '0' '0' (hexDigit (n / 16)) (hexDigit n) = some n := by
  have high := hexValue?_digitChar (n / 16 % 16) (Nat.mod_lt _ (by decide))
  have low := hexValue?_digitChar (n % 16) (Nat.mod_lt _ (by decide))
  have zero : Octets.hexValue? '0' = some 0 := by decide
  have sum : n / 16 % 16 * 16 + n % 16 = n := by omega
  simp [hexUnit?, hexDigit, zero, high, low, sum]

theorem not_surrogate_of_lt {n : Nat} (small : n < 32) :
    isLowSurrogate n = false ∧ isHighSurrogate n = false := by
  constructor
  · rw [isLowSurrogate, Bool.and_eq_false_iff]
    exact Or.inl (decide_eq_false (by omega))
  · rw [isHighSurrogate, Bool.and_eq_false_iff]
    exact Or.inl (decide_eq_false (by omega))

/-- A character in front of what a string reads to. -/
def readBefore (c : Char) (text : List Char) : Option (List Char × List Char) :=
  (readStringChars text).map fun read => (c :: read.1, read.2)

/-- A character that stands for itself. -/
theorem readStringChars_plain {c : Char} (quote : c ≠ '"') (backslash : c ≠ '\\')
    (printable : ¬ c.toNat < 32) (text : List Char) :
    readStringChars (c :: text) = readBefore c text := by
  rw [readStringChars.eq_def, readBefore]
  split
  · simp_all
  · simp_all
  · simp_all
  · simp_all
  · simp_all
  · next d rest _ _ _ _ same =>
    cases same
    rw [if_neg (by simp [printable, backslash])]
    cases readStringChars text <;> rfl

/-- A backslash and the character that says what it stands for. -/
theorem readStringChars_simple {c d : Char} (stands : simpleEscape? c = some d)
    (noUnit : c ≠ 'u') (text : List Char) :
    readStringChars ('\\' :: c :: text) = readBefore d text := by
  rw [readStringChars.eq_def, readBefore]
  split
  · simp_all
  · simp_all
  · simp_all
  · simp_all
  · next same =>
    cases same
    rw [stands]
    cases readStringChars text <;> rfl
  · next noEscape same =>
    cases same
    exact absurd rfl (noEscape c text rfl)

/-- A character is escaped by its number, whether or not another escape follows. -/
theorem readStringChars_unit {a b c d : Char} {n : Nat} (unit : hexUnit? a b c d = some n)
    (notLow : isLowSurrogate n = false) (notHigh : isHighSurrogate n = false)
    (text : List Char) :
    readStringChars ('\\' :: 'u' :: a :: b :: c :: d :: text) = readBefore (Char.ofNat n) text := by
  rw [readStringChars.eq_def, readBefore]
  split
  · simp_all
  · simp_all
  · next same =>
    simp only [List.cons.injEq, true_and] at same
    obtain ⟨rfl, rfl, rfl, rfl, rfl⟩ := same
    rw [unit, Option.bind_eq_bind, Option.bind_some, if_neg (by simp [notLow]),
      if_neg (by simp [notHigh])]
    cases readStringChars _ <;> rfl
  · next same =>
    simp only [List.cons.injEq, true_and] at same
    obtain ⟨rfl, rfl, rfl, rfl, rfl⟩ := same
    rw [unit, Option.bind_eq_bind, Option.bind_some, if_neg (by simp [notLow, notHigh])]
    cases readStringChars text <;> rfl
  · next noUnit same =>
    cases same
    exact absurd rfl (noUnit _ _ _ _ text rfl)
  · next noEscape same =>
    cases same
    exact absurd rfl (noEscape _ _ rfl)

/-- A control character is escaped by its number. -/
theorem readStringChars_control {c : Char} (control : c.toNat < 32) (text : List Char) :
    readStringChars ('\\' :: 'u' :: '0' :: '0' :: hexDigit (c.toNat / 16) :: hexDigit c.toNat ::
        text) = readBefore c text := by
  obtain ⟨notLow, notHigh⟩ := not_surrogate_of_lt control
  have char : Char.ofNat c.toNat = c := Char.ofNat_toNat c
  rw [readStringChars_unit (hexUnit?_of_lt control) notLow notHigh, char]

theorem readStringChars_escapedChar (c : Char) (text : List Char) :
    readStringChars (escapedChar c ++ text) = readBefore c text := by
  unfold escapedChar
  split
  · next h => exact readStringChars_simple (by rw [h]; decide) (by decide) text
  split
  · next h => exact readStringChars_simple (by rw [h]; decide) (by decide) text
  split
  · next h => exact readStringChars_simple (by rw [h]; decide) (by decide) text
  split
  · next h => exact readStringChars_simple (by rw [h]; decide) (by decide) text
  split
  · next h => exact readStringChars_simple (by rw [h]; decide) (by decide) text
  split
  · next h => exact readStringChars_simple (by rw [h]; decide) (by decide) text
  split
  · next h => exact readStringChars_simple (by rw [h]; decide) (by decide) text
  split
  · next control => exact readStringChars_control control text
  · next quote backslash _ _ _ _ _ printable =>
    exact readStringChars_plain quote backslash printable text

/-- Reading undoes escaping. -/
theorem readStringChars_escaped (chars rest : List Char) :
    readStringChars (escaped chars ++ '"' :: rest) = some (chars, rest) := by
  induction chars with
  | nil => simp [escaped, readStringChars]
  | cons c chars ih =>
      rw [escaped, List.flatMap_cons, List.append_assoc, readStringChars_escapedChar, readBefore,
        ← escaped, ih]
      rfl

theorem readString_escaped (text : String) (rest : List Char) :
    readString (escaped text.toList ++ '"' :: rest) = some (text, rest) := by
  rw [readString, readStringChars_escaped]
  exact congrArg (fun read => some (read, rest)) String.ofList_toList

/-! ## How far a string goes -/

variable {text spelled rest : List Char}

/-- The spellings of a character in a string. -/
inductive SpellsChar : List Char → Char → Prop where
  | plain {c : Char} (quote : c ≠ '"') (backslash : c ≠ '\\') (printable : ¬c.toNat < 32) :
      SpellsChar [c] c
  | simple {c d : Char} (stands : simpleEscape? c = some d) : SpellsChar ['\\', c] d
  | unit {a b c d : Char} {n : Nat} (unit : hexUnit? a b c d = some n)
      (notLow : isLowSurrogate n = false) (notHigh : isHighSurrogate n = false) :
      SpellsChar ['\\', 'u', a, b, c, d] (Char.ofNat n)
  | pair {a b c d e f g h : Char} {high low : Nat} (first : hexUnit? a b c d = some high)
      (isHigh : isHighSurrogate high = true) (second : hexUnit? e f g h = some low)
      (isLow : isLowSurrogate low = true) :
      SpellsChar ['\\', 'u', a, b, c, d, '\\', 'u', e, f, g, h]
        (Char.ofNat (0x10000 + (high - 0xD800) * 0x400 + (low - 0xDC00)))

theorem not_low_of_high {n : Nat} (high : isHighSurrogate n = true) :
    isLowSurrogate n = false := by
  simp only [isHighSurrogate, isLowSurrogate, Bool.and_eq_true, decide_eq_true_eq,
    Bool.and_eq_false_iff, decide_eq_false_iff_not] at *
  omega

theorem SpellsChar.read {c : Char} (spells : SpellsChar spelled c) (rest : List Char) :
    readStringChars (spelled ++ rest) = readBefore c rest := by
  cases spells with
  | plain quote backslash printable => exact readStringChars_plain quote backslash printable rest
  | simple stands =>
      refine readStringChars_simple stands ?_ rest
      rintro rfl
      cases stands
  | unit unit notLow notHigh => exact readStringChars_unit unit notLow notHigh rest
  | pair first isHigh second isLow =>
      simp only [List.cons_append, List.nil_append]
      rw [readBefore, readStringChars, first, Option.bind_eq_bind, Option.bind_some,
        if_neg (by simp [not_low_of_high isHigh]), if_pos isHigh, second, Option.bind_eq_bind,
        Option.bind_some, if_pos isLow]
      cases readStringChars rest <;> rfl

/-- A string that is read is closed, or begins with the spelling of its first character. -/
theorem readStringChars_cases {chars : List Char}
    (read : readStringChars text = some (chars, rest)) :
    (text = '"' :: rest ∧ chars = []) ∨
      ∃ spelled c after others, text = spelled ++ after ∧ SpellsChar spelled c ∧
        readStringChars after = some (others, rest) ∧ chars = c :: others := by
  rw [readStringChars.eq_def] at read
  split at read
  · cases read
  · cases read
    exact .inl ⟨rfl, rfl⟩
  · next a b c d e f g h after =>
    obtain ⟨n, unit, read⟩ := Option.bind_eq_some_iff.mp read
    split at read
    · cases read
    · next notLow =>
      split at read
      · next isHigh =>
        obtain ⟨low, second, read⟩ := Option.bind_eq_some_iff.mp read
        split at read
        · next isLow =>
          obtain ⟨⟨others, last⟩, more, same⟩ := Option.bind_eq_some_iff.mp read
          cases same
          exact .inr ⟨_, _, after, others, rfl, .pair unit isHigh second isLow, more, rfl⟩
        · cases read
      · next notHigh =>
        obtain ⟨⟨others, last⟩, more, same⟩ := Option.bind_eq_some_iff.mp read
        cases same
        exact .inr ⟨['\\', 'u', a, b, c, d], _, _, others, rfl,
          .unit unit (eq_false_of_ne_true notLow) (eq_false_of_ne_true notHigh),
          more, rfl⟩
  · next a b c d after _ =>
    obtain ⟨n, unit, read⟩ := Option.bind_eq_some_iff.mp read
    split at read
    · cases read
    · next plain =>
      rw [not_or] at plain
      obtain ⟨⟨others, last⟩, more, same⟩ := Option.bind_eq_some_iff.mp read
      cases same
      exact .inr ⟨['\\', 'u', a, b, c, d], _, after, others, rfl,
        .unit unit (eq_false_of_ne_true plain.1) (eq_false_of_ne_true plain.2),
        more, rfl⟩
  · next c after _ _ =>
    obtain ⟨d, stands, read⟩ := Option.bind_eq_some_iff.mp read
    obtain ⟨⟨others, last⟩, more, same⟩ := Option.bind_eq_some_iff.mp read
    cases same
    exact .inr ⟨['\\', c], d, after, others, rfl, .simple stands, more, rfl⟩
  · next c after quote _ _ _ =>
    split at read
    · cases read
    · next plain =>
      rw [not_or] at plain
      obtain ⟨⟨others, last⟩, more, same⟩ := Option.bind_eq_some_iff.mp read
      cases same
      exact .inr ⟨[c], c, after, others, rfl, .plain quote plain.2 plain.1, more, rfl⟩

theorem readStringChars_local {chars : List Char}
    (read : readStringChars text = some (chars, rest)) :
    ∃ spelled, text = spelled ++ rest ∧
      ∀ after, readStringChars (spelled ++ after) = some (chars, after) := by
  induction chars generalizing text with
  | nil =>
      rcases readStringChars_cases read with ⟨rfl, -⟩ | ⟨_, _, _, _, _, _, _, none⟩
      · exact ⟨['"'], rfl, fun after => by rw [List.singleton_append, readStringChars]⟩
      · cases none
  | cons c others ih =>
      rcases readStringChars_cases read with
        ⟨-, none⟩ | ⟨first, _, after, _, rfl, spells, more, same⟩
      · cases none
      · cases same
        obtain ⟨spelled, rfl, reads⟩ := ih more
        refine ⟨first ++ spelled, (List.append_assoc first spelled rest).symm, fun after => ?_⟩
        rw [List.append_assoc, spells.read, readBefore, reads, Option.map_some]

theorem readString_local {value : String} (read : readString text = some (value, rest)) :
    ∃ spelled, text = spelled ++ rest ∧
      ∀ after, readString (spelled ++ after) = some (value, after) := by
  obtain ⟨⟨chars, last⟩, found, same⟩ := Option.map_eq_some_iff.mp read
  cases same
  obtain ⟨spelled, rfl, reads⟩ := readStringChars_local found
  exact ⟨spelled, rfl, fun after => by rw [readString, reads, Option.map_some]⟩

end Attest.Json
