import Attest.Octets

/-!
# Base64

Six-bit groups written as symbols.  An encoding fixes the two symbols beside
letters and digits and whether the last group is padded to four symbols with
`=`.  Decoding is strict: no foreign symbol, no missing or superfluous padding
and no set bit beyond the last octet, so that every octet string has one
spelling.  A refusal says what was wrong and where.
-/

namespace Attest

/-- A base64 encoding: its last two symbols, and whether it pads. -/
structure Base64 where
  /-- The symbol of 62. -/
  symbol62 : Char
  /-- The symbol of 63. -/
  symbol63 : Char
  /-- Whether the last group is filled up with `=`. -/
  padded : Bool
  deriving DecidableEq, Repr

namespace Base64

/-- The encoding of armoured keys: `+`, `/` and padding. -/
def standard : Base64 := ⟨'+', '/', true⟩

/-- The encoding of tokens and JSON web keys: `-`, `_` and no padding. -/
def urlSafe : Base64 := ⟨'-', '_', false⟩

/-- The padding symbol. -/
def pad : UInt8 := 0x3D

/-- Why octets are no base64 text. -/
inductive Fault where
  /-- An octet that is no symbol of the encoding. -/
  | symbol (octet : UInt8) (offset : Nat)
  /-- A last group of a single symbol. -/
  | length (symbols : Nat)
  /-- A last symbol with set bits beyond the last octet. -/
  | lastSymbol (octet : UInt8) (offset : Nat)
  /-- Missing or superfluous padding. -/
  | padding
  deriving DecidableEq, Repr

/-- The text of a fault. -/
def Fault.message : Fault → String
  | .symbol octet offset => s!"Invalid symbol {octet.toNat}, offset {offset}."
  | .length symbols => s!"Invalid input length: {symbols}"
  | .lastSymbol octet offset => s!"Invalid last symbol {octet.toNat}, offset {offset}."
  | .padding => "Invalid padding"

/-- The symbol of a six-bit group. -/
def symbol (base : Base64) (group : Nat) : Char :=
  if group < 26 then Char.ofNat ('A'.toNat + group)
  else if group < 52 then Char.ofNat ('a'.toNat + (group - 26))
  else if group < 62 then Char.ofNat ('0'.toNat + (group - 52))
  else if group = 62 then base.symbol62
  else base.symbol63

/-- The six-bit group of a symbol. -/
def group? (base : Base64) (octet : UInt8) : Option Nat :=
  let code := octet.toNat
  if 'A'.toNat ≤ code ∧ code ≤ 'Z'.toNat then some (code - 'A'.toNat)
  else if 'a'.toNat ≤ code ∧ code ≤ 'z'.toNat then some (code - 'a'.toNat + 26)
  else if '0'.toNat ≤ code ∧ code ≤ '9'.toNat then some (code - '0'.toNat + 52)
  else if code = base.symbol62.toNat then some 62
  else if code = base.symbol63.toNat then some 63
  else none

/-- The padding written after a last group of fewer than four symbols. -/
def padding (base : Base64) (count : Nat) : List Char :=
  if base.padded then List.replicate count '=' else []

/-- The symbols of an octet string, three octets at a time. -/
def symbols (base : Base64) : Octets → List Char
  | a :: b :: c :: rest =>
      let bits := a.toNat * 65536 + b.toNat * 256 + c.toNat
      base.symbol (bits / 262144) :: base.symbol (bits / 4096 % 64) ::
        base.symbol (bits / 64 % 64) :: base.symbol (bits % 64) :: symbols base rest
  | [a, b] =>
      let bits := a.toNat * 256 + b.toNat
      base.symbol (bits / 1024) :: base.symbol (bits / 16 % 64) ::
        base.symbol (bits % 16 * 4) :: base.padding 1
  | [a] =>
      base.symbol (a.toNat / 4) :: base.symbol (a.toNat % 4 * 16) :: base.padding 2
  | [] => []

/-- The base64 text of an octet string. -/
def encode (base : Base64) (octets : Octets) : String :=
  String.ofList (base.symbols octets)

/-- The group of the octet at `offset`, or the fault that it is no symbol. -/
def groupAt (base : Base64) (offset : Nat) (octet : UInt8) : Except Fault Nat :=
  match base.group? octet with
  | some group => .ok group
  | none => .error (.symbol octet offset)

/-- The groups of the octets from `offset` on, every octet being a symbol. -/
def groupsAt (base : Base64) : (offset : Nat) → Octets → Except Fault (List Nat)
  | _, [] => .ok []
  | offset, octet :: rest => do
      let group ← base.groupAt offset octet
      let groups ← base.groupsAt (offset + 1) rest
      return group :: groups

/-- The octets of a last group of two, three or four six-bit groups, the last of
which was read from `last` at `offset`. -/
def finish (groups : List Nat) (last : UInt8) (offset : Nat) : Except Fault Octets :=
  match groups with
  | [a, b] =>
      if b % 16 = 0 then .ok [UInt8.ofNat (a * 4 + b / 16)]
      else .error (.lastSymbol last offset)
  | [a, b, c] =>
      if c % 4 = 0 then
        .ok [UInt8.ofNat (a * 4 + b / 16), UInt8.ofNat (b % 16 * 16 + c / 4)]
      else .error (.lastSymbol last offset)
  | [a, b, c, d] =>
      .ok [UInt8.ofNat (a * 4 + b / 16), UInt8.ofNat (b % 16 * 16 + c / 4),
        UInt8.ofNat (c % 4 * 64 + d)]
  | _ => .ok []

/-- Decode the last group, of one to four octets, that starts at `offset`: its
symbols, then nothing but padding. -/
def decodeLast (base : Base64) (offset : Nat) (octets : Octets) : Except Fault Octets := do
  let symbols := octets.takeWhile (· != pad)
  let tail := octets.dropWhile (· != pad)
  let groups ← base.groupsAt offset symbols
  let firstPad := offset + symbols.length
  if !tail.isEmpty && symbols.length < 2 then
    throw (.symbol pad firstPad)
  if tail.any (· != pad) then
    throw (.symbol pad firstPad)
  if symbols.length < 2 then
    throw (.length firstPad)
  if base.padded then
    if (symbols.length + tail.length) % 4 ≠ 0 then throw .padding
  else if !tail.isEmpty then
    throw .padding
  finish groups (symbols.getLastD pad) (firstPad - 1)

/-- Decode from `offset` on, four symbols at a time. -/
def decodeFrom (base : Base64) : (offset : Nat) → Octets → Except Fault Octets
  | offset, a :: b :: c :: d :: next :: rest => do
      let groups ← base.groupsAt offset [a, b, c, d]
      let head ← finish groups d (offset + 3)
      let tail ← base.decodeFrom (offset + 4) (next :: rest)
      return head ++ tail
  | _, [] => .ok []
  | offset, last => base.decodeLast offset last

/-- Read an octet string as base64.  An octet that stands alone after the last
full group is looked at first: when it is no symbol, nothing before it counts. -/
def decodeOctets (base : Base64) (octets : Octets) : Except Fault Octets :=
  match octets.getLast? with
  | some last =>
      if octets.length % 4 = 1 ∧ last ≠ pad ∧ base.group? last = none then
        .error (.symbol last (octets.length - 1))
      else base.decodeFrom 0 octets
  | none => .ok []

/-- Read a text as base64. -/
def decode (base : Base64) (text : String) : Except Fault Octets :=
  base.decodeOctets (Octets.ofText text)

end Base64

end Attest
