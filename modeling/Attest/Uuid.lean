import Attest.Octets

/-!
# Random identifiers

The text of a version 4 identifier: sixteen octets, six bits of which are fixed, in
lower-case hexadecimal with hyphens.
-/

namespace Attest.Uuid

/-- The octet at a position with the bits that a version 4 identifier fixes. -/
def marked (index : Nat) (octet : UInt8) : UInt8 :=
  if index = 6 then 0x40 ||| (octet &&& 0x0F)
  else if index = 8 then 0x80 ||| (octet &&& 0x3F)
  else octet

/-- The sixteen octets of an identifier: the first sixteen of the random ones, zeros
where they are too few. -/
def octets (random : Octets) : Octets :=
  (List.range 16).map fun index => marked index (random.getD index 0)

/-- The text of the identifier that random octets give. -/
def text (random : Octets) : String :=
  let part (start count : Nat) := Octets.toHex ((octets random).drop start |>.take count)
  String.intercalate "-" [part 0 4, part 4 2, part 6 2, part 8 2, part 10 6]

end Attest.Uuid
