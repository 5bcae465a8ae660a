import Attest.Octets

/-!
# Distinguished encoding

Elements of a tag and its content, with definite lengths of the shortest form.
Reading is strict: a length that could be shorter, an integer with a superfluous
leading octet or a negative one, and octets after the last element are refused,
so every element has one spelling.  Neither reading nor writing goes beyond a size
limit.
-/

namespace Attest.Der

/-- A tag and its content. -/
structure Element where
  tag : UInt8
  content : Octets
  deriving DecidableEq, Repr

/-- The greatest number of octets that an encoding may have. -/
def sizeLimit : Nat := 0xFFFFFFF

/-! ## Tags -/

def integerTag : UInt8 := 0x02
def bitStringTag : UInt8 := 0x03
def octetStringTag : UInt8 := 0x04
def nullTag : UInt8 := 0x05
def objectIdTag : UInt8 := 0x06
def sequenceTag : UInt8 := 0x30

/-- The tag of a constructed field with a number in its context. -/
def contextTag (number : UInt8) : UInt8 := 0xA0 + number

/-- The tag of a primitive field with a number in its context. -/
def primitiveContextTag (number : UInt8) : UInt8 := 0x80 + number

/-- Whether an octet is a known universal tag, or a tag of another class whose
number fits into the octet. -/
def isTag (octet : UInt8) : Bool :=
  if octet < 0x40 then
    [0x01, 0x02, 0x03, 0x04, 0x05, 0x06, 0x09, 0x0A, 0x0C, 0x12, 0x13, 0x14, 0x15, 0x16, 0x17,
      0x18, 0x1A, 0x1E, 0x30, 0x31].contains octet
  else octet % 32 != 31

/-- Whether a tag numbers a field in its context. -/
def isContextTag (tag : UInt8) : Bool := 0x80 ≤ tag && tag < 0xC0

/-- The number of a context tag. -/
def contextNumber (tag : UInt8) : Nat := tag.toNat % 32

/-- Whether a tag is the one of a constructed field. -/
def isConstructed (tag : UInt8) : Bool := tag.toNat / 32 % 2 = 1

/-! ## Writing -/

/-- The spelling of a length. -/
def lengthOctets (n : Nat) : Octets :=
  if n < 128 then [UInt8.ofNat n]
  else UInt8.ofNat (128 + Octets.width n) :: Octets.ofNatShortest n

/-- The spelling of an element. -/
def write (tag : UInt8) (content : Octets) : Octets :=
  tag :: (lengthOctets content.length ++ content)

/-- The content of an integer that is not negative: a leading zero keeps the sign
bit clear. -/
def unsignedContent (n : Nat) : Octets :=
  match Octets.ofNatShortest n with
  | [] => [0]
  | first :: rest => if 0x80 ≤ first then 0 :: first :: rest else first :: rest

/-- An integer that is not negative. -/
def writeUnsigned (n : Nat) : Octets :=
  write integerTag (unsignedContent n)

/-- A sequence of elements that are written already. -/
def writeSequence (parts : List Octets) : Octets :=
  write sequenceTag parts.flatten

/-- A bit string of whole octets. -/
def writeBitString (octets : Octets) : Octets :=
  write bitStringTag (0 :: octets)

/-- An encoding, unless it has too many octets. -/
def withinLimit? (octets : Octets) : Option Octets :=
  if octets.length ≤ sizeLimit then some octets else none

/-! ## Reading -/

/-- A length and what follows it. -/
def readLength? : Octets → Option (Nat × Octets)
  | [] => none
  | first :: rest =>
      if first < 0x80 then some (first.toNat, rest)
      else
        let count := first.toNat - 128
        let digits := rest.take count
        let n := Octets.toNat digits
        if 1 ≤ count ∧ count ≤ 4 ∧ digits.length = count ∧ 128 ≤ n ∧ Octets.width n = count then
          some (n, rest.drop count)
        else none

/-- An element and what follows it. -/
def readElement? : Octets → Option (Element × Octets)
  | [] => none
  | tag :: rest => do
      let (length, rest) ← readLength? rest
      if isTag tag ∧ length ≤ rest.length then
        some (⟨tag, rest.take length⟩, rest.drop length)
      else none

/-- At most `fuel` elements that fill the octets. -/
def readElementsWith : (fuel : Nat) → Octets → Option (List Element)
  | _, [] => some []
  | 0, _ => none
  | fuel + 1, octets => do
      let (element, rest) ← readElement? octets
      let elements ← readElementsWith fuel rest
      return element :: elements

/-- The elements that fill the octets. -/
def readElements? (octets : Octets) : Option (List Element) :=
  if octets.length ≤ sizeLimit then readElementsWith octets.length octets else none

/-- The only element of the octets. -/
def readOnly? (octets : Octets) : Option Element :=
  match readElements? octets with
  | some [element] => some element
  | _ => none

/-- The elements of a sequence that fills the octets. -/
def readSequence? (octets : Octets) : Option (List Element) := do
  let element ← readOnly? octets
  if element.tag = sequenceTag then readElements? element.content else none

/-- The content of an element with the expected tag. -/
def Element.contentOf? (element : Element) (tag : UInt8) : Option Octets :=
  if element.tag = tag then some element.content else none

/-- The value of an integer that is not negative. -/
def unsigned? : Octets → Option Nat
  | [] => none
  | first :: rest =>
      if 0x80 ≤ first then none
      else
        match rest with
        | second :: _ =>
            if first = 0 ∧ second < 0x80 then none else some (Octets.toNat (first :: rest))
        | [] => some first.toNat

/-- The value of an integer element that is not negative. -/
def Element.unsigned? (element : Element) : Option Nat :=
  (element.contentOf? integerTag).bind Der.unsigned?

/-- The octets of a bit string without unused bits. -/
def wholeOctets? : Octets → Option Octets
  | 0 :: octets => some octets
  | _ => none

/-- The octets of a bit string element without unused bits. -/
def Element.bitString? (element : Element) : Option Octets :=
  (element.contentOf? bitStringTag).bind wholeOctets?

/-- Whether the arcs of an object identifier after the first two are complete,
`digits` base-128 digits of the present one being read.  An arc has at most five
digits, the fifth of which is below 16. -/
def arcsComplete : (digits : Nat) → Octets → Bool
  | digits, [] => digits = 0
  | digits, octet :: rest =>
      (digits < 4 || octet < 0x10) &&
        arcsComplete (if octet < 0x80 then 0 else digits + 1) rest

/-- Whether octets are the content of an object identifier. -/
def isObjectId : Octets → Bool
  | first :: rest =>
      first < 120 && 2 ≤ rest.length && rest.length ≤ 38 && arcsComplete 0 rest
  | [] => false

end Attest.Der
