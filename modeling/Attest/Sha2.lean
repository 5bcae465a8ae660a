import Attest.Octets

/-!
# SHA-2 digests

The family of hash functions on 32-bit and 64-bit words.  Both word widths share
one algorithm: they differ in the number of rounds and in the rotations.  The
constants are the leading fractional bits of square and cube roots of the first
primes and are computed as such.
-/

namespace Attest.Sha2

/-! ## Constants -/

/-- The greatest number whose `k`-th power is at most `n`, found bit by bit from
`bits` bits; `found` is what the higher bits amount to. -/
def integerRoot (k n : Nat) : (bits found : Nat) → Nat
  | 0, found => found
  | bits + 1, found =>
      let candidate := found + Nat.pow 2 bits
      integerRoot k n bits (if Nat.pow candidate k ≤ n then candidate else found)

/-- The first `w` fractional bits of the `k`-th root of a number. -/
def rootFraction (w k n : Nat) : BitVec w :=
  BitVec.ofNat w (integerRoot k (n * Nat.pow 2 (k * w)) (w + 8) 0)

/-- Whether a number has no divisor between one and itself. -/
def isPrime (n : Nat) : Bool :=
  2 ≤ n && (List.range n).all fun d => d < 2 || n % d != 0

/-- The primes below 410, eighty of them. -/
def primes : List Nat :=
  (List.range 410).filter isPrime

/-! ## The compression function -/

/-- Three rotations of a word, added bitwise. -/
structure Rotations where
  first : Nat
  second : Nat
  third : Nat

/-- A member of the family with words of `w` bits. -/
structure Variant (w : Nat) where
  rounds : Nat
  stateA : Rotations
  stateE : Rotations
  /-- Two rotations and a shift of the message schedule. -/
  scheduleOld : Rotations
  /-- Two rotations and a shift of the message schedule. -/
  scheduleNew : Rotations
  /-- The primes whose square roots give the initial state. -/
  statePrimes : List Nat
  /-- The number of octets of a digest. -/
  digestWidth : Nat

variable {w : Nat}

/-- The sum of three rotations. -/
def rotated (r : Rotations) (x : BitVec w) : BitVec w :=
  x.rotateRight r.first ^^^ x.rotateRight r.second ^^^ x.rotateRight r.third

/-- The sum of two rotations and a shift. -/
def shifted (r : Rotations) (x : BitVec w) : BitVec w :=
  x.rotateRight r.first ^^^ x.rotateRight r.second ^^^ (x >>> r.third)

/-- Extend a message schedule by so many words. -/
def extendSchedule (v : Variant w) : (count : Nat) → Array (BitVec w) → Array (BitVec w)
  | 0, words => words
  | count + 1, words =>
      let size := words.size
      let word (back : Nat) := words.getD (size - back) 0
      extendSchedule v count
        (words.push (shifted v.scheduleNew (word 2) + word 7 + shifted v.scheduleOld (word 15) +
          word 16))

/-- The eight words of the state. -/
structure State (w : Nat) where
  a : BitVec w
  b : BitVec w
  c : BitVec w
  d : BitVec w
  e : BitVec w
  f : BitVec w
  g : BitVec w
  h : BitVec w

/-- One round. -/
def round (v : Variant w) (s : State w) (word constant : BitVec w) : State w :=
  let choice := (s.e &&& s.f) ^^^ (~~~s.e &&& s.g)
  let majority := (s.a &&& s.b) ^^^ (s.a &&& s.c) ^^^ (s.b &&& s.c)
  let first := s.h + rotated v.stateE s.e + choice + constant + word
  let second := rotated v.stateA s.a + majority
  ⟨first + second, s.a, s.b, s.c, s.d + first, s.e, s.f, s.g⟩

/-- The sum of two states. -/
def State.add (s t : State w) : State w :=
  ⟨s.a + t.a, s.b + t.b, s.c + t.c, s.d + t.d, s.e + t.e, s.f + t.f, s.g + t.g, s.h + t.h⟩

/-- The words of a state. -/
def State.words (s : State w) : List (BitVec w) :=
  [s.a, s.b, s.c, s.d, s.e, s.f, s.g, s.h]

/-- The state of eight words. -/
def State.ofWords (words : List (BitVec w)) : State w :=
  let word (i : Nat) := words.getD i 0
  ⟨word 0, word 1, word 2, word 3, word 4, word 5, word 6, word 7⟩

/-- Cut octets into pieces of `size`; at most `fuel` pieces. -/
def pieces (size : Nat) : (fuel : Nat) → Octets → List Octets
  | 0, _ => []
  | fuel + 1, octets =>
      if octets.isEmpty then []
      else octets.take size :: pieces size fuel (octets.drop size)

/-- Put one block into the state. -/
def absorb (v : Variant w) (constants : List (BitVec w)) (s : State w) (block : Octets) :
    State w :=
  let words := (pieces (w / 8) 16 block).map fun piece => BitVec.ofNat w (Octets.toNat piece)
  let schedule := extendSchedule v (v.rounds - 16) words.toArray
  let steps := schedule.toList.zip constants
  s.add (steps.foldl (fun s (word, constant) => round v s word constant) s)

/-- The octets of a block. -/
def blockWidth (w : Nat) : Nat := 2 * w

/-- A message with the closing bit, zeros and its length in bits. -/
def padded (w : Nat) (message : Octets) : Octets :=
  let lengthWidth := w / 4
  let used := (message.length + 1 + lengthWidth) % blockWidth w
  let zeros := (blockWidth w - used) % blockWidth w
  message ++ 0x80 :: List.replicate zeros 0 ++ Octets.ofNat lengthWidth (8 * message.length)

/-- The digest of a message. -/
def digestWith (v : Variant w) (constants : List (BitVec w)) (initial : State w)
    (message : Octets) : Octets :=
  let blocks := pieces (blockWidth w) (message.length + 2) (padded w message)
  let final := blocks.foldl (absorb v constants) initial
  (final.words.flatMap fun word => Octets.ofNat (w / 8) word.toNat).take v.digestWidth

/-- The round constants of a variant. -/
def Variant.constants (v : Variant w) : List (BitVec w) :=
  (primes.take v.rounds).map (rootFraction w 3)

/-- The initial state of a variant. -/
def Variant.initial (v : Variant w) : State w :=
  State.ofWords (v.statePrimes.map (rootFraction w 2))

/-! ## The three functions -/

/-- The variant on 32-bit words. -/
def variant256 : Variant 32 where
  rounds := 64
  stateA := ⟨2, 13, 22⟩
  stateE := ⟨6, 11, 25⟩
  scheduleOld := ⟨7, 18, 3⟩
  scheduleNew := ⟨17, 19, 10⟩
  statePrimes := primes.take 8
  digestWidth := 32

/-- The variant on 64-bit words. -/
def variant512 : Variant 64 where
  rounds := 80
  stateA := ⟨28, 34, 39⟩
  stateE := ⟨14, 18, 41⟩
  scheduleOld := ⟨1, 8, 7⟩
  scheduleNew := ⟨19, 61, 6⟩
  statePrimes := primes.take 8
  digestWidth := 64

/-- The variant on 64-bit words with another initial state and a shorter digest. -/
def variant384 : Variant 64 :=
  { variant512 with
    statePrimes := (primes.drop 8).take 8
    digestWidth := 48 }

/-- The round constants on 32-bit words. -/
def constants32 : List (BitVec 32) := variant256.constants

/-- The round constants on 64-bit words. -/
def constants64 : List (BitVec 64) := variant512.constants

def initial256 : State 32 := variant256.initial
def initial384 : State 64 := variant384.initial
def initial512 : State 64 := variant512.initial

end Attest.Sha2

namespace Attest

/-- The hash functions that signatures use. -/
inductive Hash where
  | sha256
  | sha384
  | sha512
  deriving DecidableEq, Repr

namespace Hash

/-- The digest of a message. -/
def digest : Hash → Octets → Octets
  | .sha256 => Sha2.digestWith Sha2.variant256 Sha2.constants32 Sha2.initial256
  | .sha384 => Sha2.digestWith Sha2.variant384 Sha2.constants64 Sha2.initial384
  | .sha512 => Sha2.digestWith Sha2.variant512 Sha2.constants64 Sha2.initial512

/-- The octets of a digest. -/
def width : Hash → Nat
  | .sha256 => 32
  | .sha384 => 48
  | .sha512 => 64

/-- The octets of a block. -/
def blockWidth : Hash → Nat
  | .sha256 => 64
  | .sha384 => 128
  | .sha512 => 128

/-- Octets combined with a repeated one. -/
def masked (mask : UInt8) (octets : Octets) : Octets :=
  octets.map fun octet => octet ^^^ mask

/-- The authentication code of a message under a key. -/
def authenticate (hash : Hash) (key message : Octets) : Octets :=
  let short := if hash.blockWidth < key.length then hash.digest key else key
  let full := short ++ List.replicate (hash.blockWidth - short.length) 0
  hash.digest (masked 0x5C full ++ hash.digest (masked 0x36 full ++ message))

end Hash

end Attest
