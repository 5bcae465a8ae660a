import Attest.Octets
import Mathlib.Algebra.Group.Nat.Defs
import Mathlib.Data.List.Induction

/-!
# Octets read back

A text is recovered from its UTF-8 spelling, the spelling of a text of ASCII
characters is character by character and no other text has such a spelling, and a number is
recovered from its shortest spelling, which is the only one that does not begin with a zero.
-/

namespace Attest.Octets

/-! ## Texts -/

@[simp]
theorem toText?_ofText (text : String) : toText? (ofText text) = some text := by
  change String.fromUTF8? ⟨text.toUTF8.data.toList.toArray⟩ = some text
  rw [Array.toArray_toList]
  exact dif_pos text.isValidUTF8

/-- The octet of an ASCII character. -/
def ofAscii (c : Char) : UInt8 :=
  UInt8.ofNat c.toNat

theorem toNat_ofAscii {c : Char} (ascii : c.toNat < 128) : (ofAscii c).toNat = c.toNat := by
  rw [ofAscii, UInt8.toNat_ofNat', Nat.mod_eq_of_lt (Nat.lt_trans ascii (by decide))]

theorem ofNat_toNat_ofAscii {c : Char} (ascii : c.toNat < 128) :
    Char.ofNat (ofAscii c).toNat = c := by
  rw [toNat_ofAscii ascii]
  exact Char.ofNat_toNat c

theorem utf8EncodeChar_of_ascii {c : Char} (ascii : c.toNat < 128) :
    String.utf8EncodeChar c = [ofAscii c] := by
  rw [String.utf8EncodeChar]
  exact if_pos (Nat.le_of_lt_succ ascii)

theorem ofText_ofList (chars : List Char) :
    ofText (String.ofList chars) = chars.flatMap String.utf8EncodeChar := by
  rw [ofText, String.toUTF8_eq_toByteArray, String.toByteArray_ofList, List.utf8Encode,
    List.toList_data_toByteArray]

theorem ofText_ofList_of_ascii {chars : List Char} (ascii : ∀ c ∈ chars, c.toNat < 128) :
    ofText (String.ofList chars) = chars.map ofAscii := by
  rw [ofText_ofList]
  induction chars with
  | nil => rfl
  | cons c rest ih =>
      rw [List.flatMap_cons, utf8EncodeChar_of_ascii (ascii c List.mem_cons_self), List.map_cons,
        ih fun d member => ascii d (List.mem_cons_of_mem c member)]
      rfl

/-- The spelling of any other character ends with a large octet. -/
theorem utf8EncodeChar_of_not_ascii {c : Char} (large : ¬c.toNat < 128) :
    ∃ front octet, String.utf8EncodeChar c = front ++ [octet] ∧ 128 ≤ octet.toNat := by
  have high : 128 ≤ (UInt8.ofNat (c.val.toNat % 64 + 128)).toNat := by
    rw [UInt8.toNat_ofNat']
    omega
  have several : ¬c.val.toNat ≤ 127 := fun small => large (Nat.lt_succ_of_le small)
  rw [String.utf8EncodeChar]
  simp only [several, if_false]
  split
  · exact ⟨[_], _, rfl, high⟩
  · split
    · exact ⟨[_, _], _, rfl, high⟩
    · exact ⟨[_, _, _], _, rfl, high⟩

theorem ofText_injective : Function.Injective ofText := by
  intro first second same
  have read := toText?_ofText first
  rw [same, toText?_ofText] at read
  exact (Option.some.inj read).symm

theorem eq_of_map_ofAscii {chars others : List Char} (ascii : ∀ c ∈ chars, c.toNat < 128)
    (othersAscii : ∀ c ∈ others, c.toNat < 128)
    (same : chars.map ofAscii = others.map ofAscii) : chars = others := by
  rw [← ofText_ofList_of_ascii ascii, ← ofText_ofList_of_ascii othersAscii] at same
  exact String.ofList_injective (ofText_injective same)

/-- Small octets at the end of a spelling are those of ASCII characters at the end of the text. -/
theorem exists_ascii_suffix {chars : List Char} {front suffix : Octets}
    (small : ∀ octet ∈ suffix, octet.toNat < 128)
    (spelled : ofText (String.ofList chars) = front ++ suffix) :
    ∃ before after, chars = before ++ after ∧ (∀ c ∈ after, c.toNat < 128) ∧
      after.map ofAscii = suffix := by
  induction suffix using List.reverseRecOn generalizing chars with
  | nil => exact ⟨chars, [], (List.append_nil chars).symm, List.forall_mem_nil _, rfl⟩
  | append_singleton suffix last ih =>
      rcases List.eq_nil_or_concat chars with rfl | ⟨rest, c, rfl⟩
      · rw [ofText_ofList, List.flatMap_nil, ← List.append_assoc] at spelled
        exact absurd spelled.symm (List.concat_ne_nil last (front ++ suffix))
      · rw [List.concat_eq_append, ofText_ofList, List.flatMap_append, List.flatMap_singleton,
          ← List.append_assoc] at spelled
        have ascii : c.toNat < 128 := by
          refine Decidable.byContradiction fun large => ?_
          obtain ⟨beginning, octet, ends, high⟩ := utf8EncodeChar_of_not_ascii large
          rw [ends, ← List.append_assoc] at spelled
          have same : octet = last := List.singleton_inj.mp (List.append_inj_right' spelled rfl)
          have low := small last (List.mem_append_right suffix List.mem_cons_self)
          rw [← same] at low
          omega
        rw [utf8EncodeChar_of_ascii ascii] at spelled
        obtain ⟨whole, same⟩ := List.append_inj' spelled rfl
        rw [← ofText_ofList] at whole
        obtain ⟨before, after, rfl, afterAscii, afterSpelled⟩ := ih (fun octet member =>
          small octet (List.mem_append_left _ member)) whole
        refine ⟨before, after ++ [c], by rw [List.concat_eq_append, List.append_assoc], ?_, ?_⟩
        · exact List.forall_mem_append.mpr ⟨afterAscii, List.forall_mem_singleton.mpr ascii⟩
        · rw [List.map_append, afterSpelled, List.map_singleton, same]

/-! ## Numbers -/

theorem lt_pow_width (n : Nat) : n < Nat.pow 256 (width n) := by
  rw [Nat.pow_eq, width]
  split
  · next h => simp [h]
  · next h =>
      calc
        n < 2 ^ (n.log2 + 1) := Nat.lt_log2_self
        _ ≤ 2 ^ (8 * (n.log2 / 8 + 1)) := Nat.pow_le_pow_right (by decide) (by omega)
        _ = 256 ^ (n.log2 / 8 + 1) := Nat.pow_mul 2 8 _

/-- A number that fits in the width is recovered from its spelling. -/
theorem toNat_ofNat_of_lt {width n : Nat} (fits : n < Nat.pow 256 width) :
    toNat (ofNat width n) = n := by
  rw [toNat_ofNat, Nat.mod_eq_of_lt fits]

@[simp]
theorem toNat_ofNatShortest (n : Nat) : toNat (ofNatShortest n) = n :=
  toNat_ofNat_of_lt (lt_pow_width n)

@[simp]
theorem toNat_ofNatNonempty (n : Nat) : toNat (ofNatNonempty n) = n := by
  rw [ofNatNonempty]
  split
  · next zero =>
      rw [zero]
      rfl
  · exact toNat_ofNatShortest n

/-! ## Digits -/

/-- A number that is read on from `total` has the digits of `total` in front. -/
theorem foldl_eq (octets : Octets) (total : Nat) :
    octets.foldl (fun total octet => total * 256 + octet.toNat) total =
      total * 256 ^ octets.length + toNat octets := by
  induction octets generalizing total with
  | nil => simp
  | cons octet rest ih =>
      have here : toNat (octet :: rest) = octet.toNat * 256 ^ rest.length + toNat rest := by
        rw [toNat, List.foldl_cons, ih, Nat.zero_mul, Nat.zero_add]
      rw [List.foldl_cons, ih, here, List.length_cons, Nat.pow_succ', Nat.add_mul, Nat.mul_assoc,
        Nat.add_assoc]

theorem toNat_cons (octet : UInt8) (octets : Octets) :
    toNat (octet :: octets) = octet.toNat * 256 ^ octets.length + toNat octets := by
  rw [toNat, List.foldl_cons, foldl_eq, Nat.zero_mul, Nat.zero_add]

theorem toNat_lt (octets : Octets) : toNat octets < 256 ^ octets.length := by
  induction octets with
  | nil => exact Nat.one_pos
  | cons octet rest ih =>
      have bound := octet.toNat_lt
      rw [toNat_cons, List.length_cons, Nat.pow_succ]
      calc
        octet.toNat * 256 ^ rest.length + toNat rest
            < octet.toNat * 256 ^ rest.length + 256 ^ rest.length := Nat.add_lt_add_left ih _
        _ = (octet.toNat + 1) * 256 ^ rest.length := by rw [Nat.succ_mul]
        _ ≤ 256 * 256 ^ rest.length := Nat.mul_le_mul_right _ bound
        _ = 256 ^ rest.length * 256 := Nat.mul_comm _ _

theorem pow_width_le {n : Nat} (positive : n ≠ 0) : 256 ^ (width n - 1) ≤ n := by
  rw [width, if_neg positive, Nat.add_sub_cancel]
  calc
    256 ^ (n.log2 / 8) = 2 ^ (8 * (n.log2 / 8)) := (Nat.pow_mul 2 8 _).symm
    _ ≤ 2 ^ n.log2 := Nat.pow_le_pow_right (by decide) (Nat.mul_div_le _ _)
    _ ≤ n := Nat.log2_self_le positive

@[simp]
theorem length_ofNatShortest (n : Nat) : (ofNatShortest n).length = width n :=
  length_ofNat (width n) n

/-- The shortest spelling of a number does not begin with a zero. -/
theorem ne_zero_of_ofNatShortest_eq_cons {n : Nat} {first : UInt8} {rest : Octets}
    (spelling : ofNatShortest n = first :: rest) : first ≠ 0 := by
  rintro rfl
  have value : toNat rest = n := by
    rw [← toNat_ofNatShortest n, spelling, toNat_cons]
    simp
  have length : rest.length + 1 = width n := by
    rw [← length_ofNatShortest, spelling, List.length_cons]
  have positive : n ≠ 0 := by
    rintro rfl
    cases spelling
  have small := toNat_lt rest
  have large := pow_width_le positive
  rw [← length, Nat.add_sub_cancel] at large
  omega

/-- A number other than zero has a first octet other than zero. -/
theorem exists_ofNatShortest_eq_cons {n : Nat} (positive : n ≠ 0) :
    ∃ first rest, ofNatShortest n = first :: rest ∧ first ≠ 0 := by
  cases spelling : ofNatShortest n with
  | nil =>
      have zero := toNat_ofNatShortest n
      rw [spelling] at zero
      exact absurd zero.symm positive
  | cons first rest => exact ⟨first, rest, rfl, ne_zero_of_ofNatShortest_eq_cons spelling⟩

/-- The octets that spell a number are its spelling in their width. -/
theorem ofNat_toNat (octets : Octets) : ofNat octets.length (toNat octets) = octets := by
  induction octets using List.reverseRecOn with
  | nil => rfl
  | append_singleton front last ih =>
      have small := last.toNat_lt
      have quotient : (toNat front * 256 + last.toNat) / 256 = toNat front := by omega
      have remainder : (toNat front * 256 + last.toNat) % 256 = last.toNat := by omega
      rw [List.length_append, List.length_singleton, toNat_append_singleton, ofNat_succ, quotient,
        remainder, ih, UInt8.ofNat_toNat]

theorem width_le_of_lt {n k : Nat} (small : n < 256 ^ k) : width n ≤ k := by
  refine Decidable.byContradiction fun long => ?_
  have positive : n ≠ 0 := by
    rintro rfl
    exact long (Nat.zero_le k)
  have large := pow_width_le positive
  have steps : 256 ^ k ≤ 256 ^ (width n - 1) := Nat.pow_le_pow_right (by decide) (by omega)
  omega

theorem width_mono {m n : Nat} (below : m ≤ n) : width m ≤ width n :=
  width_le_of_lt (Nat.lt_of_le_of_lt below (lt_pow_width n))

/-- Octets that do not begin with a zero are the shortest spelling of their number. -/
theorem ofNatShortest_toNat {first : UInt8} {rest : Octets} (leading : first ≠ 0) :
    ofNatShortest (toNat (first :: rest)) = first :: rest := by
  have width_eq : width (toNat (first :: rest)) = (first :: rest).length := by
    apply Nat.le_antisymm (width_le_of_lt (toNat_lt (first :: rest)))
    refine Decidable.byContradiction fun short => ?_
    have positive : 1 ≤ first.toNat :=
      Nat.one_le_iff_ne_zero.mpr fun zero => leading (UInt8.toNat_inj.mp zero)
    have large : 256 ^ rest.length ≤ toNat (first :: rest) := by
      rw [toNat_cons]
      exact Nat.le_add_right_of_le (Nat.le_mul_of_pos_left _ positive)
    have small : toNat (first :: rest) < 256 ^ rest.length :=
      Nat.lt_of_lt_of_le (lt_pow_width _)
        (Nat.pow_le_pow_right (by decide) (Nat.le_of_lt_succ (Nat.not_le.mp short)))
    omega
  rw [ofNatShortest, width_eq, ofNat_toNat]

end Attest.Octets
