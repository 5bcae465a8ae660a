/-!
# Octets and the numbers they spell

An octet string is a list of bytes.  Numbers are spelled big-endian, either in
a given width or in the least width that holds them; texts are spelled in
UTF-8.  `toNat_ofNat` says that spelling a number that fits and reading it
again gives the number.
-/

namespace Attest

/-- A string of octets. -/
abbrev Octets := List UInt8

namespace Octets

/-- The number that the octets spell, most significant octet first. -/
def toNat (octets : Octets) : Nat :=
  octets.foldl (fun total octet => total * 256 + octet.toNat) 0

/-- Put the last `width` base-256 digits of a number in front of `rest`. -/
def ofNatOnto : (width n : Nat) → (rest : Octets) → Octets
  | 0, _, rest => rest
  | width + 1, n, rest => ofNatOnto width (n / 256) (UInt8.ofNat (n % 256) :: rest)

/-- The last `width` base-256 digits of a number, most significant first. -/
def ofNat (width n : Nat) : Octets :=
  ofNatOnto width n []

/-- The least number of octets that hold a number: none for zero. -/
def width (n : Nat) : Nat :=
  if n = 0 then 0 else n.log2 / 8 + 1

/-- The shortest spelling of a number. -/
def ofNatShortest (n : Nat) : Octets :=
  ofNat (width n) n

/-- A number in the fewest octets, of which even zero has one. -/
def ofNatNonempty (n : Nat) : Octets :=
  if n = 0 then [0] else ofNatShortest n

theorem ofNatOnto_eq_append (width n : Nat) (rest : Octets) :
    ofNatOnto width n rest = ofNat width n ++ rest := by
  induction width generalizing n rest with
  | zero => rfl
  | succ width ih =>
      simp only [ofNat, ofNatOnto]
      rw [ih, ih (n / 256) [UInt8.ofNat (n % 256)]]
      simp

@[simp]
theorem ofNat_zero (n : Nat) : ofNat 0 n = [] :=
  rfl

theorem ofNat_succ (width n : Nat) :
    ofNat (width + 1) n = ofNat width (n / 256) ++ [UInt8.ofNat (n % 256)] := by
  simp only [ofNat, ofNatOnto]
  rw [ofNatOnto_eq_append]
  rfl

@[simp]
theorem length_ofNat (width n : Nat) : (ofNat width n).length = width := by
  induction width generalizing n with
  | zero => rfl
  | succ width ih => simp [ofNat_succ, ih]

@[simp]
theorem toNat_nil : toNat [] = 0 :=
  rfl

theorem toNat_append_singleton (octets : Octets) (octet : UInt8) :
    toNat (octets ++ [octet]) = toNat octets * 256 + octet.toNat := by
  simp [toNat]

/-- Reading a spelled number gives its remainder by the width. -/
theorem toNat_ofNat (width n : Nat) : toNat (ofNat width n) = n % Nat.pow 256 width := by
  rw [Nat.pow_eq]
  induction width generalizing n with
  | zero => simp [Nat.mod_one]
  | succ width ih =>
      rw [ofNat_succ, toNat_append_singleton, ih, Nat.pow_succ, Nat.mul_comm (256 ^ width) 256,
        Nat.mod_mul]
      simp
      omega

/-- The two digits of an octet, in lower case. -/
def hexDigits (octet : UInt8) : List Char :=
  [Nat.digitChar (octet.toNat / 16), Nat.digitChar (octet.toNat % 16)]

/-- Two lower-case hexadecimal digits for each octet. -/
def toHex (octets : Octets) : String :=
  String.ofList (octets.flatMap hexDigits)

/-- The value of a hexadecimal digit, in either case. -/
def hexValue? (c : Char) : Option Nat :=
  if '0' ≤ c ∧ c ≤ '9' then some (c.toNat - '0'.toNat)
  else if 'a' ≤ c ∧ c ≤ 'f' then some (c.toNat - 'a'.toNat + 10)
  else if 'A' ≤ c ∧ c ≤ 'F' then some (c.toNat - 'A'.toNat + 10)
  else none

/-- The UTF-8 spelling of a text. -/
def ofText (text : String) : Octets :=
  text.toUTF8.data.toList

/-- The text that the octets spell in UTF-8, when they spell one. -/
def toText? (octets : Octets) : Option String :=
  String.fromUTF8? ⟨octets.toArray⟩

/-- How many octets a UTF-8 sequence has by its first octet, with the range that
its second octet must lie in; nothing when no sequence starts with the octet. -/
def sequenceShape? (first : UInt8) : Option (Nat × UInt8 × UInt8) :=
  if first < 0x80 then some (1, 0x80, 0xBF)
  else if first < 0xC2 then none
  else if first < 0xE0 then some (2, 0x80, 0xBF)
  else if first == 0xE0 then some (3, 0xA0, 0xBF)
  else if first == 0xED then some (3, 0x80, 0x9F)
  else if first < 0xF0 then some (3, 0x80, 0xBF)
  else if first == 0xF0 then some (4, 0x90, 0xBF)
  else if first < 0xF4 then some (4, 0x80, 0xBF)
  else if first == 0xF4 then some (4, 0x80, 0x8F)
  else none

/-- How many of the octets after a first octet belong to its sequence: the second
must lie in `[low, high]`, the later ones are continuation octets. -/
def continuationLength : (wanted : Nat) → (low high : UInt8) → Octets → Nat
  | 0, _, _, _ => 0
  | _ + 1, _, _, [] => 0
  | wanted + 1, low, high, octet :: rest =>
      if low ≤ octet && octet ≤ high then
        continuationLength wanted 0x80 0xBF rest + 1
      else 0

/-- UTF-8 with every ill-formed part replaced by U+FFFD, the octets that could
start a sequence together counting as one part. -/
def lenientCharsWith : (fuel : Nat) → Octets → List Char
  | 0, _ => []
  | _ + 1, [] => []
  | fuel + 1, first :: rest =>
      match sequenceShape? first with
      | none => '\uFFFD' :: lenientCharsWith fuel rest
      | some (size, low, high) =>
          let found := continuationLength (size - 1) low high rest
          let next := lenientCharsWith fuel (rest.drop found)
          if found + 1 = size then
            match toText? (first :: rest.take found) with
            | some text => text.toList ++ next
            | none => '\uFFFD' :: next
          else '\uFFFD' :: next

/-- Read UTF-8, replacing every ill-formed part by U+FFFD. -/
def toTextLenient (octets : Octets) : String :=
  String.ofList (lenientCharsWith octets.length octets)

end Octets

end Attest
