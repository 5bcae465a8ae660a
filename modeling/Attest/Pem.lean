import Attest.Base64
import Attest.Text.Blank

/-!
# Armoured text

A base64 body between a line that begins with a label and a line that ends with
it.  Every line of the body but the last has exactly 64 symbols; a line ends with
a line feed, a carriage return or both.  Reading refuses headers, other line
lengths, labels that differ and anything after the last line.
-/

namespace Attest.Pem

/-- What stands before the label of the first line. -/
def beginMark : Octets := Octets.ofText "-----BEGIN "

/-- What stands before the label of the last line. -/
def endMark : Octets := Octets.ofText "-----END "

/-- What stands after a label. -/
def dashes : Octets := Octets.ofText "-----"

/-- The number of symbols in a full line. -/
def lineWidth : Nat := 64

def lineFeed : UInt8 := 0x0A
def carriageReturn : UInt8 := 0x0D
def hyphen : UInt8 := 0x2D

/-- What follows the end of a line at the beginning. -/
def afterLineEnd? : Octets → Option Octets
  | 0x0D :: 0x0A :: rest => some rest
  | 0x0A :: rest => some rest
  | 0x0D :: rest => some rest
  | _ => none

/-- What precedes the end of a line at the end. -/
def beforeLineEnd? (octets : Octets) : Option Octets :=
  match octets.reverse with
  | 0x0A :: 0x0D :: rest => some rest.reverse
  | 0x0A :: rest => some rest.reverse
  | 0x0D :: rest => some rest.reverse
  | _ => none

/-- Skip text before a line that begins the armour. -/
def skipPreamble : Octets → Option Octets
  | [] => none
  | octet :: rest =>
      if octet = 0 then none
      else if octet = lineFeed ∧ beginMark.isPrefixOf rest then some rest
      else skipPreamble rest

/-- The octets from the line that begins the armour on. -/
def fromBegin? (octets : Octets) : Option Octets :=
  if beginMark.isPrefixOf octets then some octets else skipPreamble octets

/-- Whether an octet is a visible character other than the hyphen. -/
def isLabelSymbol (octet : UInt8) : Bool :=
  0x21 ≤ octet && octet ≤ 0x7E && octet != hyphen

/-- Whether an octet is a space or a tab. -/
def isLabelBlank (octet : UInt8) : Bool :=
  octet == 0x20 || octet == 0x09

/-- A label up to the next hyphen: words with single blanks between them.  `word`
tells whether a blank may come. -/
def readLabel : (word : Bool) → Octets → Option (Octets × Octets)
  | _, [] => none
  | word, octet :: rest =>
      if octet = hyphen then some ([], octet :: rest)
      else if isLabelSymbol octet then
        (readLabel true rest).map fun (label, rest) => (octet :: label, rest)
      else if word ∧ isLabelBlank octet then
        (readLabel false rest).map fun (label, rest) => (octet :: label, rest)
      else none

/-- The label of the armour, and its text from the second line to the line before
the last. -/
def parts? (octets : Octets) : Option (Octets × Octets) := do
  let octets ← fromBegin? octets
  let octets ← beginMark.isPrefixOf? octets
  let (label, octets) ← readLabel false octets
  let octets ← dashes.isPrefixOf? octets
  let octets ← afterLineEnd? octets
  let octets ← dashes.isSuffixOf? ((beforeLineEnd? octets).getD octets)
  let octets ← label.isSuffixOf? octets
  let octets ← endMark.isSuffixOf? octets
  let body ← beforeLineEnd? octets
  return (label, body)

/-- The symbols of the lines of a body; at most `fuel` lines. -/
def joinLines : (fuel : Nat) → Octets → Option Octets
  | 0, _ => none
  | fuel + 1, octets =>
      if octets.length ≤ lineWidth then
        let last := (beforeLineEnd? octets).getD octets
        if last.isEmpty then none else some last
      else do
        let rest ← afterLineEnd? (octets.drop lineWidth)
        if rest.isEmpty then return octets.take lineWidth
        let symbols ← joinLines fuel rest
        return octets.take lineWidth ++ symbols

/-- The octets of a body. -/
def bodyOctets? (body : Octets) : Option Octets := do
  let symbols ← joinLines (body.length + 1) body
  (Base64.standard.decodeOctets symbols).toOption

/-- The octets armoured under the expected label. -/
def read? (label : String) (text : Octets) : Option Octets := do
  let (found, body) ← parts? text
  let octets ← bodyOctets? body
  if found = Octets.ofText label then some octets else none

/-- The symbols in lines, each closed by a line feed; at most `fuel` lines. -/
def breakLines : (fuel : Nat) → List Char → List Char
  | 0, _ => []
  | fuel + 1, symbols =>
      if symbols.isEmpty then []
      else symbols.take lineWidth ++ '\n' :: breakLines fuel (symbols.drop lineWidth)

/-- Octets armoured under a label. -/
def write (label : String) (octets : Octets) : String :=
  let symbols := Base64.standard.symbols octets
  "-----BEGIN " ++ label ++ "-----\n" ++ String.ofList (breakLines symbols.length symbols) ++
    "-----END " ++ label ++ "-----\n"

end Attest.Pem
