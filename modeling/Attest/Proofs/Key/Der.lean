import Attest.Proofs.Der
import Attest.Proofs.Key.Admission
import Attest.Proofs.P256

/-!
# Keys in distinguished encoding read back

What is written of a key is the spelling of a sequence of elements, and reading it gives the
elements back; so the numbers of a key come back, and with them the key, if it is admitted.
Curve keys and admitted public keys are far below the size limit, a private RSA key is
written only within it.  A public envelope has too few elements to be read as a private one.
-/

namespace Attest.Key

open Der

/-! ## Algorithms -/

theorem KeyAlgorithm.write_eq (algorithm : KeyAlgorithm) :
    algorithm.write = (Element.sequence algorithm.elements).octets :=
  writeSequence_eq algorithm.elements

theorem KeyAlgorithm.length_octets_le (algorithm : KeyAlgorithm) :
    (Element.sequence algorithm.elements).octets.length ≤ 21 := by
  cases algorithm <;> decide

/-- An algorithm is recovered from the element that names it. -/
@[simp]
theorem KeyAlgorithm.ofElement?_sequence (algorithm : KeyAlgorithm) :
    KeyAlgorithm.ofElement? (Element.sequence algorithm.elements) = some algorithm := by
  cases algorithm <;> rfl

/-! ## Curve keys -/

/-- The field of the public point in the bare form of a private curve key. -/
def pointField (point : P256.Point) : Element :=
  ⟨contextTag 1, (Element.bitString point.octets).octets⟩

@[simp]
theorem tag_pointField (point : P256.Point) : (pointField point).tag = contextTag 1 :=
  rfl

/-- The elements of the bare form of a private curve key. -/
def curveElements (key : P256.PrivateKey) : List Element :=
  [.unsigned 1, ⟨octetStringTag, P256.octetsOf key.scalar⟩, pointField key.point]

theorem writeCurveKey_eq (key : P256.PrivateKey) :
    writeCurveKey key = (Element.sequence (curveElements key)).octets :=
  writeSequence_eq (curveElements key)

theorem length_bitString_point_le (point : P256.Point) :
    (Element.bitString point.octets).octets.length ≤ 72 :=
  length_octets_le (Nat.le_of_eq (congrArg Nat.succ point.length_octets)) (by decide)

theorem length_writeCurveKey_le (key : P256.PrivateKey) : (writeCurveKey key).length ≤ 129 := by
  have version : (Element.unsigned 1).octets.length = 3 := by decide
  have scalar : (Element.mk octetStringTag (P256.octetsOf key.scalar)).octets.length ≤ 38 :=
    length_octets_le (Nat.le_of_eq (P256.length_octetsOf key.scalar)) (by decide)
  have point : (pointField key.point).octets.length ≤ 78 :=
    length_octets_le (length_bitString_point_le key.point) (by decide)
  have content : ((curveElements key).flatMap Element.octets).length ≤ 123 := by
    simp only [curveElements, List.flatMap_cons, List.flatMap_nil, List.length_append,
      List.length_nil]
    omega
  rw [writeCurveKey_eq]
  exact length_octets_le content (by decide)

theorem splitField_zero_pointField (point : P256.Point) :
    splitField 0 [pointField point] = (none, [pointField point]) := by
  have other : ¬(isContextTag (contextTag 1) = true ∧ contextNumber (contextTag 1) = 0) := by decide
  rw [splitField, tag_pointField, if_neg other]

theorem splitField_one_pointField (point : P256.Point) :
    splitField 1 (skipFieldsBelow 1 [pointField point]) = (some (pointField point), []) := by
  have same : isContextTag (contextTag 1) = true ∧ contextNumber (contextTag 1) = 1 := by decide
  have kept : skipFieldsBelow 1 [pointField point] = [pointField point] := by
    rw [skipFieldsBelow, List.dropWhile_cons, tag_pointField, same.2]
    simp
  rw [kept, splitField, tag_pointField, if_pos same]

theorem pointFieldFine_pointField (point : P256.Point) :
    pointFieldFine point (some (pointField point)) = true := by
  have tagged : isTag (Element.bitString point.octets).tag = true := rfl
  have fits := Nat.le_trans (length_bitString_point_le point) (by decide : 72 ≤ sizeLimit)
  simp only [pointFieldFine, wrapped?, pointField, contentOf?_mk, Option.bind_some,
    readOnly?_octets tagged fits, bitString?_bitString, spellsPoint, beq_self_eq_true, Bool.true_or]

/-- A private curve key is recovered from its bare form. -/
@[simp]
theorem readCurveKey?_writeCurveKey (key : P256.PrivateKey) :
    readCurveKey? (writeCurveKey key) = some key := by
  have fits : (Element.sequence (curveElements key)).octets.length ≤ sizeLimit := by
    rw [← writeCurveKey_eq]
    exact Nat.le_trans (length_writeCurveKey_le key) (by decide)
  have tagged : ∀ element ∈ curveElements key, isTag element.tag = true := by
    apply List.all_eq_true.mp
    simp only [curveElements, List.all_cons, tag_pointField]
    rfl
  have scalar : p256OfScalar? (P256.octetsOf key.scalar) = some key := by
    rw [p256OfScalar?, P256.length_octetsOf, if_pos (by decide), P256.toNat_octetsOf_scalar,
      P256.PrivateKey.ofScalar?_scalar]
  rw [readCurveKey?, writeCurveKey_eq, readSequence?_octets tagged fits]
  simp only [Option.bind_eq_bind, Option.bind_some, curveElements, Element.contentOf?, if_true,
    unsigned?_unsigned, ne_eq, not_true_eq_false, if_false, scalar, splitField_zero_pointField,
    splitField_one_pointField, pointFieldFine_pointField]
  rfl

/-! ## RSA keys -/

theorem writeRsaPublicKey_eq (key : Rsa.PublicKey) :
    writeRsaPublicKey key =
      (Element.sequence [.unsigned key.modulus, .unsigned key.exponent]).octets :=
  writeSequence_eq [.unsigned key.modulus, .unsigned key.exponent]

theorem length_writeRsaPublicKey_le {key : Rsa.PublicKey} (admitted : key.check = .ok ()) :
    (writeRsaPublicKey key).length ≤ 537 := by
  have modulus := length_unsigned_le (Rsa.PublicKey.width_modulus_le admitted) (by decide)
  have exponent := length_unsigned_le (Rsa.PublicKey.width_exponent_le admitted) (by decide)
  have content : ([Element.unsigned key.modulus, .unsigned key.exponent].flatMap
      Element.octets).length ≤ 531 := by
    simp only [List.flatMap_cons, List.flatMap_nil, List.length_append, List.length_nil]
    omega
  rw [writeRsaPublicKey_eq]
  exact length_octets_le content (by decide)

/-- The numbers of a public RSA key are recovered from its bare form, which is refused like the
numbers when it is beyond the size limit. -/
theorem readRsaPublicKey?_writeRsaPublicKey (key : Rsa.PublicKey) :
    readRsaPublicKey? (writeRsaPublicKey key) =
      (Rsa.PublicKey.ofNumbers key.modulus key.exponent).toOption := by
  by_cases fits : (writeRsaPublicKey key).length ≤ sizeLimit
  · have tagged : ∀ element ∈ [Element.unsigned key.modulus, .unsigned key.exponent],
        isTag element.tag = true := List.all_eq_true.mp rfl
    rw [writeRsaPublicKey_eq] at fits ⊢
    rw [readRsaPublicKey?, readSequence?_octets tagged fits]
    simp only [Option.bind_eq_bind, Option.bind_some, unsigned?_unsigned]
  · rw [readRsaPublicKey?, readSequence?_of_long fits]
    cases made : Rsa.PublicKey.ofNumbers key.modulus key.exponent with
    | error fault => rfl
    | ok other =>
        rcases Rsa.PublicKey.ofNumbers_eq_ok_iff.mp made with ⟨rfl, admitted⟩
        exact absurd (Nat.le_trans (length_writeRsaPublicKey_le admitted) (by decide)) fits

/-- The private RSA key with the numbers of a bare form, unchecked. -/
def rsaKeyOfNumbers? : List Nat → Option Rsa.PrivateKey
  | [0, modulus, exponent, privateExponent, firstFactor, secondFactor, _, _, _] =>
      some ⟨⟨modulus, exponent⟩, privateExponent, firstFactor, secondFactor⟩
  | _ => none

/-- The private RSA key that a bare form states, its numbers unchecked. -/
def statedRsaKey? (octets : Octets) : Option Rsa.PrivateKey := do
  rsaKeyOfNumbers? (← (← readSequence? octets).mapM Element.unsigned?)

/-- Reading a private RSA key is finding its numbers and then checking them. -/
theorem readRsaPrivateKey?_eq (octets : Octets) :
    readRsaPrivateKey? octets = (statedRsaKey? octets).bind Rsa.PrivateKey.remade? := by
  rw [readRsaPrivateKey?, statedRsaKey?]
  simp only [Option.bind_eq_bind, Option.bind_assoc]
  congr 1
  funext elements
  congr 1
  funext numbers
  cases stated : rsaKeyOfNumbers? numbers with
  | none =>
      split
      · cases stated
      · rfl
  | some key =>
      split
      · cases stated
        rfl
      · next other =>
          rw [rsaKeyOfNumbers?] at stated
          · cases stated
          · exact other

/-- The numbers that follow the factors in the bare form of a private RSA key.  They only
shorten computations with the key. -/
structure Shortcuts where
  firstExponent : Nat
  secondExponent : Nat
  coefficient : Nat

/-- The numbers of the bare form of a private RSA key. -/
def bareNumbers (key : Rsa.PrivateKey) (shortcuts : Shortcuts) : List Nat :=
  [0, key.publicKey.modulus, key.publicKey.exponent, key.privateExponent, key.firstFactor,
    key.secondFactor, shortcuts.firstExponent, shortcuts.secondExponent, shortcuts.coefficient]

/-- Write the bare form of a private RSA key with any shortcuts, when it is not too long. -/
def writeBare? (key : Rsa.PrivateKey) (shortcuts : Shortcuts) : Option Octets :=
  withinLimit? (writeSequence ((bareNumbers key shortcuts).map writeUnsigned))

theorem mapM_unsigned? (numbers : List Nat) :
    (numbers.map Element.unsigned).mapM Element.unsigned? = some numbers := by
  induction numbers with
  | nil => rfl
  | cons n rest ih =>
      rw [List.map_cons, List.mapM_cons, unsigned?_unsigned, ih]
      rfl

theorem writeSequence_map_writeUnsigned (numbers : List Nat) :
    writeSequence (numbers.map writeUnsigned) =
      (Element.sequence (numbers.map Element.unsigned)).octets := by
  rw [← writeSequence_eq, List.map_map]
  rfl

/-- The numbers of a private RSA key are recovered from its bare form. -/
theorem statedRsaKey?_of_writeBare? {key : Rsa.PrivateKey} {shortcuts : Shortcuts}
    {octets : Octets} (written : writeBare? key shortcuts = some octets) :
    statedRsaKey? octets = some key := by
  rw [writeBare?, writeSequence_map_writeUnsigned, withinLimit?_eq_some_iff] at written
  rcases written with ⟨rfl, fits⟩
  have tagged : ∀ element ∈ (bareNumbers key shortcuts).map Element.unsigned,
      isTag element.tag = true := by
    intro element member
    rcases List.mem_map.mp member with ⟨n, -, rfl⟩
    rfl
  rw [statedRsaKey?, readSequence?_octets tagged fits]
  simp only [Option.bind_eq_bind, Option.bind_some, mapM_unsigned?, bareNumbers]
  rfl

theorem readRsaPrivateKey?_of_writeBare? {key : Rsa.PrivateKey} {shortcuts : Shortcuts}
    {octets : Octets} (written : writeBare? key shortcuts = some octets) :
    readRsaPrivateKey? octets = key.remade? := by
  rw [readRsaPrivateKey?_eq, statedRsaKey?_of_writeBare? written, Option.bind_some]

/-- The bare form that is written has the shortcuts of the key. -/
theorem exists_shortcuts_of_write {key : Rsa.PrivateKey} {octets : Octets}
    (written : writeRsaPrivateKey? key = some octets) :
    ∃ shortcuts, writeBare? key shortcuts = some octets := by
  rcases Option.bind_eq_some_iff.mp written with ⟨coefficient, -, bare⟩
  exact ⟨⟨key.privateExponent % (key.firstFactor - 1), key.privateExponent % (key.secondFactor - 1),
    coefficient⟩, bare⟩

/-- The numbers of a private RSA key are recovered from its written form. -/
theorem readRsaPrivateKey?_of_write {key : Rsa.PrivateKey} {octets : Octets}
    (written : writeRsaPrivateKey? key = some octets) :
    readRsaPrivateKey? octets = key.remade? := by
  rcases exists_shortcuts_of_write written with ⟨shortcuts, bare⟩
  exact readRsaPrivateKey?_of_writeBare? bare

/-! ## Envelopes -/

theorem writePrivateEnvelope_eq (algorithm : KeyAlgorithm) (bare : Octets) :
    writePrivateEnvelope algorithm bare =
      (Element.sequence [.unsigned 0, .sequence algorithm.elements,
        ⟨octetStringTag, bare⟩]).octets := by
  rw [writePrivateEnvelope, KeyAlgorithm.write_eq]
  exact writeSequence_eq [.unsigned 0, .sequence algorithm.elements, ⟨octetStringTag, bare⟩]

theorem readSequence?_privateEnvelope {algorithm : KeyAlgorithm} {bare : Octets}
    (fits : (writePrivateEnvelope algorithm bare).length ≤ sizeLimit) :
    readSequence? (writePrivateEnvelope algorithm bare) =
      some [.unsigned 0, .sequence algorithm.elements, ⟨octetStringTag, bare⟩] := by
  rw [writePrivateEnvelope_eq] at fits ⊢
  exact readSequence?_octets (List.all_eq_true.mp rfl) fits

/-- Algorithm and bare form are recovered from the envelope of a private key. -/
theorem readPrivateEnvelope?_write {algorithm : KeyAlgorithm} {bare : Octets}
    (fits : (writePrivateEnvelope algorithm bare).length ≤ sizeLimit) :
    readPrivateEnvelope? (writePrivateEnvelope algorithm bare) = some (algorithm, bare) := by
  rw [readPrivateEnvelope?, readSequence?_privateEnvelope fits]
  simp only [Option.bind_eq_bind, Option.bind_some, unsigned?_unsigned,
    KeyAlgorithm.ofElement?_sequence, contentOf?_mk]
  rfl

/-- The envelope of a private key is none of a public key. -/
theorem readPublicKey?_privateEnvelope {algorithm : KeyAlgorithm} {bare : Octets}
    (fits : (writePrivateEnvelope algorithm bare).length ≤ sizeLimit) :
    readPublicKey? (writePrivateEnvelope algorithm bare) = none := by
  rw [readPublicKey?, readPublicEnvelope?, readSequence?_privateEnvelope fits]
  rfl

/-- The envelope of a public key of an algorithm. -/
def publicEnvelope (algorithm : KeyAlgorithm) (bare : Octets) : Element :=
  .sequence [.sequence algorithm.elements, .bitString bare]

theorem writePublicEnvelope_eq (algorithm : KeyAlgorithm) (bare : Octets) :
    writeSequence [algorithm.write, writeBitString bare] =
      (publicEnvelope algorithm bare).octets := by
  rw [KeyAlgorithm.write_eq]
  exact writeSequence_eq [.sequence algorithm.elements, .bitString bare]

theorem readSequence?_publicEnvelope {algorithm : KeyAlgorithm} {bare : Octets}
    (fits : (publicEnvelope algorithm bare).octets.length ≤ sizeLimit) :
    readSequence? (publicEnvelope algorithm bare).octets =
      some [.sequence algorithm.elements, .bitString bare] := by
  exact readSequence?_octets (List.all_eq_true.mp rfl) fits

/-- Algorithm and bare form are recovered from the envelope of a public key. -/
theorem readPublicEnvelope?_octets {algorithm : KeyAlgorithm} {bare : Octets}
    (fits : (publicEnvelope algorithm bare).octets.length ≤ sizeLimit) :
    readPublicEnvelope? (publicEnvelope algorithm bare).octets = some (algorithm, bare) := by
  rw [readPublicEnvelope?, readSequence?_publicEnvelope fits]
  simp only [Option.bind_eq_bind, Option.bind_some, KeyAlgorithm.ofElement?_sequence,
    bitString?_bitString]
  rfl

/-- The envelope of a public key is none of a private key. -/
theorem readPrivateKey?_publicEnvelope {algorithm : KeyAlgorithm} {bare : Octets}
    (fits : (publicEnvelope algorithm bare).octets.length ≤ sizeLimit) :
    readPrivateKey? (publicEnvelope algorithm bare).octets = none := by
  rw [readPrivateKey?, readPrivateEnvelope?, readSequence?_publicEnvelope fits]
  rfl

/-! ## Keys -/

theorem length_writePrivateEnvelope_le {algorithm : KeyAlgorithm} {bare : Octets} {k : Nat}
    (short : bare.length ≤ k) (small : k + 30 ≤ sizeLimit) :
    (writePrivateEnvelope algorithm bare).length ≤ k + 36 := by
  have version : (Element.unsigned 0).octets.length = 3 := by decide
  have name := algorithm.length_octets_le
  have last : (Element.octets ⟨octetStringTag, bare⟩).length ≤ k + 6 :=
    length_octets_le short (by omega)
  have content : ([Element.unsigned 0, .sequence algorithm.elements,
      ⟨octetStringTag, bare⟩].flatMap Element.octets).length ≤ k + 30 := by
    simp only [List.flatMap_cons, List.flatMap_nil, List.length_append, List.length_nil]
    omega
  rw [writePrivateEnvelope_eq]
  exact length_octets_le content small

/-- What is written of a private key is an envelope within the size limit, and its bare form
reads as the key that the numbers make. -/
theorem exists_envelope_of_writePrivateKey? {key : PrivateKey} {octets : Octets}
    (written : writePrivateKey? key = some octets) :
    ∃ algorithm bare, octets = writePrivateEnvelope algorithm bare ∧ octets.length ≤ sizeLimit ∧
      readPrivateKey? octets = key.remade? := by
  cases key with
  | p256 key =>
      simp only [writePrivateKey?, Option.some.injEq] at written
      subst written
      have fits : (writePrivateEnvelope .p256 (writeCurveKey key)).length ≤ sizeLimit :=
        Nat.le_trans (length_writePrivateEnvelope_le (length_writeCurveKey_le key) (by decide))
          (by decide)
      refine ⟨.p256, writeCurveKey key, rfl, fits, ?_⟩
      rw [readPrivateKey?, readPrivateEnvelope?_write fits]
      simp only [Option.bind_eq_bind, Option.bind_some, readCurveKey?_writeCurveKey]
      rfl
  | rsa key =>
      simp only [writePrivateKey?, Option.bind_eq_bind, Option.bind_eq_some_iff,
        withinLimit?_eq_some_iff] at written
      obtain ⟨bare, bareWritten, rfl, fits⟩ := written
      refine ⟨.rsa, bare, rfl, fits, ?_⟩
      rw [readPrivateKey?, readPrivateEnvelope?_write fits]
      simp only [Option.bind_eq_bind, Option.bind_some, readRsaPrivateKey?_of_write bareWritten]
      rfl

/-- What is written of a private key reads as the key that its numbers make. -/
theorem readPrivateKey?_of_write {key : PrivateKey} {octets : Octets}
    (written : writePrivateKey? key = some octets) : readPrivateKey? octets = key.remade? := by
  obtain ⟨-, -, -, -, read⟩ := exists_envelope_of_writePrivateKey? written
  exact read

theorem readPublicKey?_of_writePrivateKey? {key : PrivateKey} {octets : Octets}
    (written : writePrivateKey? key = some octets) : readPublicKey? octets = none := by
  obtain ⟨algorithm, bare, rfl, fits, -⟩ := exists_envelope_of_writePrivateKey? written
  exact readPublicKey?_privateEnvelope fits

theorem ne_nil_of_writePrivateKey? {key : PrivateKey} {octets : Octets}
    (written : writePrivateKey? key = some octets) : octets ≠ [] := by
  obtain ⟨algorithm, bare, rfl, -, -⟩ := exists_envelope_of_writePrivateKey? written
  rw [writePrivateEnvelope_eq]
  exact Element.octets_ne_nil _

/-- The bare form of a public key with the algorithm it is for. -/
def publicBare : PublicKey → KeyAlgorithm × Octets
  | .p256 point => (.p256, point.octets)
  | .rsa key => (.rsa, writeRsaPublicKey key)

theorem writePublicKey_eq (key : PublicKey) :
    writePublicKey key = (publicEnvelope (publicBare key).1 (publicBare key).2).octets := by
  cases key with
  | p256 point => exact writePublicEnvelope_eq .p256 point.octets
  | rsa key => exact writePublicEnvelope_eq .rsa (writeRsaPublicKey key)

/-- An admitted public key is far below the size limit. -/
theorem length_writePublicKey_le {key : PublicKey} (admitted : key.Admitted) :
    (writePublicKey key).length ≤ sizeLimit := by
  have short : (publicBare key).2.length ≤ 537 := by
    cases key with
    | p256 point => exact Nat.le_trans (Nat.le_of_eq point.length_octets) (by decide)
    | rsa key => exact length_writeRsaPublicKey_le admitted
  have name := (publicBare key).1.length_octets_le
  have last : (Element.bitString (publicBare key).2).octets.length ≤ 538 + 6 :=
    length_octets_le (Nat.succ_le_succ short) (by decide)
  have content : ([.sequence (publicBare key).1.elements,
      .bitString (publicBare key).2].flatMap Element.octets).length ≤ 565 := by
    simp only [List.flatMap_cons, List.flatMap_nil, List.length_append, List.length_nil]
    omega
  have whole : (publicEnvelope (publicBare key).1 (publicBare key).2).octets.length ≤ 565 + 6 :=
    length_octets_le content (by decide)
  rw [writePublicKey_eq]
  exact Nat.le_trans whole (by decide)

/-- What is written of a public key reads as the key that its numbers make. -/
theorem readPublicKey?_writePublicKey (key : PublicKey) :
    readPublicKey? (writePublicKey key) = key.remade? := by
  by_cases fits : (writePublicKey key).length ≤ sizeLimit
  · rw [writePublicKey_eq] at fits ⊢
    rw [readPublicKey?, readPublicEnvelope?_octets fits]
    cases key with
    | p256 point =>
        simp only [Option.bind_eq_bind, Option.bind_some, publicBare, P256.Point.ofOctets?_octets]
        rfl
    | rsa key =>
        simp only [Option.bind_eq_bind, Option.bind_some, publicBare,
          readRsaPublicKey?_writeRsaPublicKey]
        rfl
  · rw [readPublicKey?, readPublicEnvelope?, readSequence?_of_long fits]
    cases made : key.remade? with
    | none => rfl
    | some other => exact absurd (length_writePublicKey_le (PublicKey.admitted_of_remade? made)) fits

theorem readPrivateKey?_writePublicKey (key : PublicKey) :
    readPrivateKey? (writePublicKey key) = none := by
  by_cases fits : (writePublicKey key).length ≤ sizeLimit
  · rw [writePublicKey_eq] at fits ⊢
    exact readPrivateKey?_publicEnvelope fits
  · rw [readPrivateKey?, readPrivateEnvelope?, readSequence?_of_long fits]
    rfl

theorem writePublicKey_ne_nil (key : PublicKey) : writePublicKey key ≠ [] := by
  rw [writePublicKey_eq]
  exact Element.octets_ne_nil _

end Attest.Key
