import Attest.Der
import Attest.Proofs.Octets

/-!
# Elements read back

An element is recovered from its spelling and whatever follows it, so elements that are
written one after the other are recovered in their order, as long as the size limit is kept.
Numbers and bit strings are recovered from the contents of their elements.
-/

namespace Attest.Der

/-! ## Lengths -/

theorem width_le_of_le_sizeLimit {n : Nat} (fits : n ≤ sizeLimit) : Octets.width n ≤ 4 :=
  Octets.width_le_of_lt (Nat.lt_of_le_of_lt fits (by decide))

theorem readLength?_short {n : Nat} (small : n < 128) (rest : Octets) :
    readLength? (UInt8.ofNat n :: rest) = some (n, rest) := by
  have value : (UInt8.ofNat n).toNat = n :=
    UInt8.toNat_ofNat_of_lt (Nat.lt_trans small (by decide))
  have short : UInt8.ofNat n < 0x80 := UInt8.lt_iff_toNat_lt.mpr (by rw [value]; exact small)
  rw [readLength?, if_pos short, value]

theorem readLength?_long {n : Nat} (large : ¬n < 128) (fits : n ≤ sizeLimit) (rest : Octets) :
    readLength? (UInt8.ofNat (128 + Octets.width n) :: (Octets.ofNatShortest n ++ rest)) =
      some (n, rest) := by
  have narrow := width_le_of_le_sizeLimit fits
  have wide : 1 ≤ Octets.width n := by
    rw [Octets.width, if_neg (by omega)]
    omega
  have value : (UInt8.ofNat (128 + Octets.width n)).toNat = 128 + Octets.width n :=
    UInt8.toNat_ofNat_of_lt (Nat.lt_of_le_of_lt (Nat.add_le_add_left narrow 128) (by decide))
  have long : ¬UInt8.ofNat (128 + Octets.width n) < 0x80 := by
    rw [UInt8.lt_iff_toNat_lt, value]
    exact Nat.not_lt.mpr (Nat.le_add_right 128 _)
  have digits : (Octets.ofNatShortest n ++ rest).take (Octets.width n) = Octets.ofNatShortest n :=
    List.take_left' (Octets.length_ofNatShortest n)
  have others : (Octets.ofNatShortest n ++ rest).drop (Octets.width n) = rest :=
    List.drop_left' (Octets.length_ofNatShortest n)
  simp only [readLength?, long, if_false, value, Nat.add_sub_cancel_left, digits, others,
    Octets.toNat_ofNatShortest, Octets.length_ofNatShortest]
  rw [if_pos ⟨wide, narrow, trivial, by omega, trivial⟩]

/-- A length is recovered from its spelling. -/
theorem readLength?_lengthOctets {n : Nat} (fits : n ≤ sizeLimit) (rest : Octets) :
    readLength? (lengthOctets n ++ rest) = some (n, rest) := by
  rw [lengthOctets]
  split
  · next small => exact readLength?_short small rest
  · next large => exact readLength?_long large fits rest

theorem length_lengthOctets_le {n : Nat} (fits : n ≤ sizeLimit) : (lengthOctets n).length ≤ 5 := by
  have narrow := width_le_of_le_sizeLimit fits
  rw [lengthOctets]
  split
  · exact Nat.succ_le_succ (Nat.zero_le 4)
  · rw [List.length_cons, Octets.length_ofNatShortest]
    exact Nat.succ_le_succ narrow

theorem withinLimit?_eq_some_iff {octets found : Octets} :
    withinLimit? octets = some found ↔ octets = found ∧ found.length ≤ sizeLimit := by
  rw [withinLimit?]
  constructor
  · intro within
    split at within
    · next fits =>
        cases within
        exact ⟨rfl, fits⟩
    · cases within
  · rintro ⟨rfl, fits⟩
    exact if_pos fits

/-! ## Elements -/

/-- The spelling of an element. -/
def Element.octets (element : Element) : Octets :=
  Der.write element.tag element.content

theorem Element.octets_ne_nil (element : Element) : element.octets ≠ [] :=
  List.cons_ne_nil _ _

theorem length_write (tag : UInt8) (content : Octets) :
    (write tag content).length = 1 + (lengthOctets content.length).length + content.length := by
  rw [write, List.length_cons, List.length_append]
  omega

theorem length_content_lt_length_octets (element : Element) :
    element.content.length < element.octets.length := by
  rw [Element.octets, length_write]
  omega

/-- Tag and length take at most six octets. -/
theorem length_octets_le {tag : UInt8} {content : Octets} {k : Nat} (short : content.length ≤ k)
    (fits : k ≤ sizeLimit) : (Element.octets ⟨tag, content⟩).length ≤ k + 6 := by
  have head := length_lengthOctets_le (Nat.le_trans short fits)
  rw [Element.octets, length_write]
  dsimp only
  omega

/-- An element is recovered from its spelling and what follows. -/
theorem readElement?_octets {element : Element} (tagged : isTag element.tag = true)
    (fits : element.content.length ≤ sizeLimit) (rest : Octets) :
    readElement? (element.octets ++ rest) = some (element, rest) := by
  obtain ⟨tag, content⟩ := element
  have enough : content.length ≤ (content ++ rest).length := by
    rw [List.length_append]
    omega
  simp only [Element.octets, write, List.cons_append, List.append_assoc, readElement?,
    readLength?_lengthOctets fits, Option.bind_eq_bind, Option.bind_some]
  rw [if_pos ⟨tagged, enough⟩, List.take_left, List.drop_left]

theorem readElementsWith_octets {elements : List Element}
    (tagged : ∀ element ∈ elements, isTag element.tag = true)
    (fits : (elements.flatMap Element.octets).length ≤ sizeLimit) {fuel : Nat}
    (enough : elements.length ≤ fuel) :
    readElementsWith fuel (elements.flatMap Element.octets) = some elements := by
  induction elements generalizing fuel with
  | nil => simp [readElementsWith]
  | cons element rest ih =>
      obtain ⟨fuel, rfl⟩ : ∃ less, fuel = less + 1 :=
        Nat.exists_eq_add_one.mpr (Nat.lt_of_lt_of_le (Nat.succ_pos _) enough)
      rw [List.flatMap_cons, List.length_append] at fits
      have short := length_content_lt_length_octets element
      have first := readElement?_octets (tagged element List.mem_cons_self) (by omega)
        (rest.flatMap Element.octets)
      have later := ih (fun other member => tagged other (List.mem_cons_of_mem _ member)) (by omega)
        (Nat.le_of_succ_le_succ enough)
      have nonempty : element.octets ++ rest.flatMap Element.octets ≠ [] :=
        List.append_ne_nil_of_left_ne_nil element.octets_ne_nil _
      rw [List.flatMap_cons, readElementsWith, first]
      · simp only [Option.bind_eq_bind, Option.bind_some, later]
        rfl
      · exact nonempty

theorem length_le_length_flatMap_octets (elements : List Element) :
    elements.length ≤ (elements.flatMap Element.octets).length := by
  induction elements with
  | nil => exact Nat.le_refl 0
  | cons element rest ih =>
      have short := length_content_lt_length_octets element
      rw [List.flatMap_cons, List.length_append, List.length_cons]
      omega

/-- Elements are recovered from their spellings. -/
theorem readElements?_octets {elements : List Element}
    (tagged : ∀ element ∈ elements, isTag element.tag = true)
    (fits : (elements.flatMap Element.octets).length ≤ sizeLimit) :
    readElements? (elements.flatMap Element.octets) = some elements := by
  rw [readElements?, if_pos fits]
  exact readElementsWith_octets tagged fits (length_le_length_flatMap_octets elements)

@[simp]
theorem contentOf?_mk (tag : UInt8) (content : Octets) :
    (Element.mk tag content).contentOf? tag = some content :=
  if_pos rfl

theorem readOnly?_octets {element : Element} (tagged : isTag element.tag = true)
    (fits : element.octets.length ≤ sizeLimit) : readOnly? element.octets = some element := by
  have alone : readElements? ([element].flatMap Element.octets) = some [element] := by
    apply readElements?_octets
    · intro other member
      rw [List.mem_singleton.mp member]
      exact tagged
    · rw [List.flatMap_singleton]
      exact fits
  rw [List.flatMap_singleton] at alone
  rw [readOnly?, alone]

/-- The element of a sequence of elements. -/
def Element.sequence (elements : List Element) : Element :=
  ⟨sequenceTag, elements.flatMap Element.octets⟩

theorem writeSequence_eq (elements : List Element) :
    writeSequence (elements.map Element.octets) = (Element.sequence elements).octets := by
  rw [writeSequence, Element.octets, Element.sequence, List.flatMap_def]

/-- The elements of a sequence are recovered from its spelling. -/
theorem readSequence?_octets {elements : List Element}
    (tagged : ∀ element ∈ elements, isTag element.tag = true)
    (fits : (Element.sequence elements).octets.length ≤ sizeLimit) :
    readSequence? (Element.sequence elements).octets = some elements := by
  have short := length_content_lt_length_octets (Element.sequence elements)
  have sequence : isTag (Element.sequence elements).tag = true := rfl
  rw [readSequence?, readOnly?_octets sequence fits]
  simp only [Option.bind_eq_bind, Option.bind_some]
  rw [Element.sequence, if_pos rfl]
  exact readElements?_octets tagged (Nat.le_of_lt (Nat.lt_of_lt_of_le short fits))

/-- Octets beyond the size limit are no sequence. -/
theorem readSequence?_of_long {octets : Octets} (long : ¬octets.length ≤ sizeLimit) :
    readSequence? octets = none := by
  rw [readSequence?, readOnly?, readElements?, if_neg long]
  rfl

/-! ## Numbers and bit strings -/

/-- The element of a number. -/
def Element.unsigned (n : Nat) : Element :=
  ⟨integerTag, unsignedContent n⟩

theorem unsigned?_unsignedContent (n : Nat) : unsigned? (unsignedContent n) = some n := by
  have value := Octets.toNat_ofNatShortest n
  rw [unsignedContent]
  cases spelling : Octets.ofNatShortest n with
  | nil =>
      rw [spelling] at value
      rw [← value]
      rfl
  | cons first rest =>
      have nonzero := Octets.ne_zero_of_ofNatShortest_eq_cons spelling
      rw [spelling] at value
      by_cases signed : 0x80 ≤ first
      · have unsigned : ¬first < 0x80 := UInt8.not_lt.mpr signed
        have plain : Octets.toNat (0 :: first :: rest) = n := by
          rw [Octets.toNat_cons, value]
          simp
        simp only [signed, if_true, unsigned?, unsigned, and_false, if_false, plain]
        rfl
      · simp only [signed, if_false, unsigned?]
        cases rest with
        | nil => rw [← value, Octets.toNat_cons]; simp
        | cons second others => simp only [nonzero, false_and, if_false, value]

theorem length_unsignedContent_le (n : Nat) : (unsignedContent n).length ≤ Octets.width n + 1 := by
  have length := Octets.length_ofNatShortest n
  rw [unsignedContent]
  cases spelling : Octets.ofNatShortest n with
  | nil => exact Nat.le_add_left 1 _
  | cons first rest =>
      rw [spelling] at length
      dsimp only
      split
      · exact Nat.le_of_eq (congrArg Nat.succ length)
      · exact Nat.le_trans (Nat.le_of_eq length) (Nat.le_succ _)

theorem length_unsigned_le {n k : Nat} (narrow : Octets.width n ≤ k) (small : k < sizeLimit) :
    (Element.unsigned n).octets.length ≤ k + 7 :=
  length_octets_le (Nat.le_trans (length_unsignedContent_le n) (Nat.succ_le_succ narrow)) small

/-- A number is recovered from its element. -/
@[simp]
theorem unsigned?_unsigned (n : Nat) : (Element.unsigned n).unsigned? = some n :=
  unsigned?_unsignedContent n

/-- The element of a bit string of whole octets. -/
def Element.bitString (octets : Octets) : Element :=
  ⟨bitStringTag, 0 :: octets⟩

@[simp]
theorem bitString?_bitString (octets : Octets) :
    (Element.bitString octets).bitString? = some octets :=
  rfl

end Attest.Der
