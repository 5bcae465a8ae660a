import Attest.Config.Yaml.Token
import Attest.Text.Number

/-!
# Scanning indented documents

The scanner goes through the text once and keeps the indentation of the open
blocks, the depth of brackets, and for each depth the place where a key may have
begun.  When a colon shows that it did, the tokens for the key, and for the block
that it opens, are put there.
-/

namespace Attest.Config.Yaml

/-! ## Characters -/

/-- Space and tab. -/
def isBlank (c : Char) : Bool :=
  c == ' ' || c == '\t'

/-- Line feed and carriage return. -/
def isBreak (c : Char) : Bool :=
  c == '\n' || c == '\r'

/-- The character that stands for the end of the text. -/
def endChar : Char := '\x00'

/-- A line break or the end. -/
def isBreakOrEnd (c : Char) : Bool :=
  isBreak c || c == endChar

/-- A blank, a line break or the end. -/
def isGap (c : Char) : Bool :=
  isBlank c || isBreakOrEnd c

/-- The characters that brackets are made of, and the comma. -/
def isFlow (c : Char) : Bool :=
  c == ',' || c == '[' || c == ']' || c == '{' || c == '}'

/-- The characters of the names of directives and handles. -/
def isNameChar (c : Char) : Bool :=
  c.isAlphanum || c == '_' || c == '-'

/-- The characters of the names of anchors. -/
def isAnchorChar (c : Char) : Bool :=
  !isGap c && !isFlow c && c != '\uFEFF'

/-- The characters of addresses. -/
def isAddressChar (c : Char) : Bool :=
  c.isAlphanum || "-#;/?:@&=+$,_.!~*'()[]%".toList.contains c

/-- The characters of tags. -/
def isTagChar (c : Char) : Bool :=
  isAddressChar c && !isFlow c && c != '!'

/-! ## The state -/

/-- An indentation that was left for a deeper one. -/
structure Indent where
  outer : Int
  /-- Whether leaving the deeper one ends a block. -/
  endsBlock : Bool

/-- A place where a key may have begun. -/
structure PossibleKey where
  possible : Bool := false
  required : Bool := false
  /-- How many tokens were before it. -/
  tokens : Nat := 0
  line : Nat := 0
  column : Nat := 0
  index : Nat := 0

/-- The place when no key begins there any more. -/
def PossibleKey.dropped (key : PossibleKey) : PossibleKey :=
  { key with possible := false }

/-- What the scanner knows on its way. -/
structure Scanner where
  rest : List Char
  line : Nat := 0
  column : Nat := 0
  index : Nat := 0
  /-- Whether there were only blanks on the line. -/
  leading : Bool := true
  tokens : Array Token := #[]
  indent : Int := -1
  indents : List Indent := []
  /-- How deep in brackets. -/
  depth : Nat := 0
  /-- The possible keys, the innermost first. -/
  keys : List PossibleKey := [{}]
  keyAllowed : Bool := true
  /-- Where a colon needs no blank after it. -/
  adjacent : Nat := 0
  /-- Whether the innermost table in brackets was opened by one. -/
  inFlowMapping : Bool := false
  /-- For each open list in brackets, whether a single pair in it is open. -/
  pairs : List Bool := []

namespace Scanner

/-- The next character. -/
def char (s : Scanner) : Char :=
  s.rest.headD endChar

/-- A character further on. -/
def charAt (s : Scanner) (distance : Nat) : Char :=
  s.rest.getD distance endChar

/-- Go over a blank. -/
def skipBlank (s : Scanner) : Scanner :=
  { s with rest := s.rest.drop 1, column := s.column + 1, index := s.index + 1 }

/-- Go over a character. -/
def skip (s : Scanner) : Scanner :=
  { s.skipBlank with leading := false }

/-- Go over several characters. -/
def skipMany (s : Scanner) (count : Nat) : Scanner :=
  { s with
    rest := s.rest.drop count
    column := s.column + count
    index := s.index + count
    leading := s.leading && count == 0 }

/-- Go over a line break. -/
def skipBreak (s : Scanner) : Scanner :=
  let width := match s.rest with
    | '\r' :: '\n' :: _ => 2
    | _ => 1
  { s with
    rest := s.rest.drop width
    line := s.line + 1
    column := 0
    index := s.index + width
    leading := true }

/-- Go over characters of a kind, and what they are. -/
def takeWhile (s : Scanner) (p : Char → Bool) : List Char × Scanner :=
  let chars := s.rest.takeWhile p
  (chars, s.skipMany chars.length)

/-- Go to the end of the line. -/
def skipComment (s : Scanner) : Scanner :=
  (s.takeWhile fun c => !isBreakOrEnd c).2

/-- Add a token. -/
def push (s : Scanner) (token : Token) : Scanner :=
  { s with tokens := s.tokens.push token }

/-- Put a token before those that came after the first `place`. -/
def insertAt (s : Scanner) (place : Nat) (token : Token) : Scanner :=
  { s with tokens := (s.tokens.toList.insertIdx place token).toArray }

/-- Whether the text goes on with a mark of three characters on its own. -/
def atMark (s : Scanner) (c : Char) : Bool :=
  s.column == 0 && s.char == c && s.charAt 1 == c && s.charAt 2 == c && isGap (s.charAt 3)

/-- Whether the text goes on with a mark between documents. -/
def atDocumentMark (s : Scanner) : Bool :=
  s.atMark '-' || s.atMark '.'

/-- Whether the column is to the left of the indentation. -/
def isLeft (s : Scanner) : Bool :=
  (s.column : Int) < s.indent

/-! ## Indentation -/

/-- Leave blocks that are indented more than a column. -/
def unrollTo (column : Int) : List Indent → Scanner → Scanner
  | [], s => { s with indents := [] }
  | indent :: rest, s =>
      if column < s.indent then
        let s := { s with indent := indent.outer }
        unrollTo column rest (if indent.endsBlock then s.push .blockEnd else s)
      else { s with indents := indent :: rest }

/-- Leave blocks that are indented more than a column, unless in brackets. -/
def unroll (s : Scanner) (column : Int) : Scanner :=
  if 0 < s.depth then s else unrollTo column s.indents s

/-- Leave the indentations that open no block. -/
def unrollSoft : List Indent → Scanner → Scanner
  | [], s => { s with indents := [] }
  | indent :: rest, s =>
      if indent.endsBlock then { s with indents := indent :: rest }
      else unrollSoft rest { s with indent := indent.outer }

/-- Indent by one column without opening a block. -/
def rollSoft (s : Scanner) : Scanner :=
  match s.indents with
  | indent :: _ =>
      if s.depth == 0 && indent.endsBlock then
        { s with indents := ⟨s.indent, false⟩ :: s.indents, indent := s.indent + 1 }
      else s
  | [] => s

/-- Forget an indentation that opened no block, when a block opens at its column or
to the right. -/
def dropSoft (s : Scanner) (column : Nat) : Scanner :=
  match s.indents with
  | indent :: rest =>
      if s.indent ≤ column && !indent.endsBlock then
        { s with indent := indent.outer, indents := rest }
      else s
  | [] => s

/-- Open a block at a column, with its token at a place, if it is indented more than
the one around it. -/
def roll (s : Scanner) (column place : Nat) (token : Token) : Scanner :=
  if 0 < s.depth then s
  else
    let s := s.dropSoft column
    if s.indent < column then
      { s with indents := ⟨s.indent, true⟩ :: s.indents, indent := column }.insertAt place token
    else s

/-! ## Possible keys -/

/-- Note that a key may begin here. -/
def saveKey (s : Scanner) : Scanner :=
  if s.keyAllowed then
    let inBlock := match s.indents with
      | indent :: _ => indent.endsBlock
      | [] => false
    let key : PossibleKey :=
      { possible := true
        required := s.depth == 0 && s.indent == s.column && inBlock
        tokens := s.tokens.size
        line := s.line
        column := s.column
        index := s.index }
    { s with keys := key :: s.keys.drop 1 }
  else s

/-- The innermost possible key. -/
def key (s : Scanner) : PossibleKey :=
  s.keys.headD {}

/-- No key begins at the innermost place any more; a required one must not be
missing. -/
def removeKey? (s : Scanner) : Option Scanner :=
  if s.key.possible && s.key.required then none
  else some { s with keys := s.key.dropped :: s.keys.drop 1 }

/-- The longest distance between a key and its colon. -/
def keyDistance : Nat := 1024

/-- Outside brackets a key is on the line of its colon and not far from it. -/
def dropStaleKeys? (s : Scanner) : Option Scanner :=
  if 0 < s.depth then some s
  else
    let stale (key : PossibleKey) : Bool :=
      key.possible && (key.line < s.line || key.index + keyDistance < s.index)
    if s.keys.any (fun key => stale key && key.required) then none
    else
      let kept := s.keys.map fun key => if stale key then key.dropped else key
      some { s with keys := kept }

/-- Whether a key may begin. -/
def allowKey (s : Scanner) (allowed : Bool) : Scanner :=
  { s with keyAllowed := allowed }

/-! ## Blanks and comments -/

/-- Go on to the next token: over blanks, line breaks and comments.  A tab does not
indent. -/
def toToken? : (fuel : Nat) → Scanner → Option Scanner
  | 0, s => some s
  | fuel + 1, s =>
      let c := s.char
      if c == '\t' && !s.indents.isEmpty && s.leading && s.isLeft then
        let s := (s.takeWhile isBlank).2
        let s := if s.char == '#' then s.skipComment else s
        if isBreakOrEnd s.char then toToken? fuel s else none
      else if isBlank c then toToken? fuel s.skipBlank
      else if isBreak c && !s.rest.isEmpty then
        let s := s.skipBreak
        toToken? fuel (if s.depth == 0 then s.allowKey true else s)
      else if c == '#' then toToken? fuel s.skipComment
      else some s

/-- What the rest of a line began with. -/
structure Gap where
  tab : Bool
  space : Bool

/-- Go over blanks and a comment, which needs a blank before it. -/
def skipGap? (s : Scanner) (tabs : Bool) : Option (Scanner × Gap) :=
  let blanks := s.rest.takeWhile fun c => c == ' ' || (tabs && c == '\t')
  let gap : Gap := ⟨blanks.contains '\t', blanks.contains ' '⟩
  let s := { s with
    rest := s.rest.drop blanks.length
    column := s.column + blanks.length
    index := s.index + blanks.length }
  if s.char == '#' then
    if blanks.isEmpty then none else some (s.skipComment, gap)
  else some (s, gap)

/-- Go over blanks and a comment. -/
def skipGapOnly? (s : Scanner) : Option Scanner :=
  (s.skipGap? true).map Prod.fst

/-- Go over spaces, line breaks and comments, of which there must be some. -/
def skipSpaces? : (fuel : Nat) → (found : Bool) → Scanner → Option Scanner
  | 0, found, s => if found then some s else none
  | fuel + 1, found, s =>
      if s.char == ' ' then skipSpaces? fuel true s.skipBlank
      else if isBreak s.char then
        let s := s.skipBreak
        skipSpaces? fuel true (if s.depth == 0 then s.allowKey true else s)
      else if s.char == '#' then skipSpaces? fuel found s.skipComment
      else if found then some s
      else none

/-! ## Marks and brackets -/

/-- The end of the text. -/
def fetchEnd? (s : Scanner) : Option Scanner :=
  if s.keys.any (fun key => key.required && key.possible) then none
  else
    ({ s with keys := s.keys.map PossibleKey.dropped }.unroll (-1)).removeKey?

/-- A mark between documents. -/
def fetchMark? (s : Scanner) (token : Token) : Option Scanner := do
  let s ← (s.unroll (-1)).removeKey?
  return ((s.allowKey false).skipMany 3).push token

/-- The end of a document, with nothing else on the line. -/
def fetchDocumentEnd? (s : Scanner) : Option Scanner := do
  let s ← (← s.fetchMark? .documentEnd).skipGapOnly?
  if isBreakOrEnd s.char then some s else none

/-- End a single pair in a list in brackets. -/
def endPair (s : Scanner) : Scanner :=
  match s.pairs with
  | true :: rest => { s with inFlowMapping := false, pairs := false :: rest }.push .flowMappingEnd
  | _ => s

/-- An opening bracket. -/
def fetchOpening? (s : Scanner) (token : Token) : Option Scanner := do
  let s := s.saveKey.rollSoft
  let s := { s with keys := {} :: s.keys, depth := s.depth + 1, keyAllowed := true }.skip
  let s := if token = .flowMappingStart then { s with inFlowMapping := true }
    else { s with pairs := false :: s.pairs }
  return (← s.skipGapOnly?).push token

/-- A closing bracket. -/
def fetchClosing? (s : Scanner) (token : Token) : Option Scanner := do
  let s ← s.removeKey?
  let s := if 0 < s.depth then { s with depth := s.depth - 1, keys := s.keys.drop 1 } else s
  let s := s.allowKey false
  let s := if token = .flowSequenceEnd then
      let s := s.endPair
      { s with pairs := s.pairs.drop 1 }
    else s
  let s ← s.skip.skipGapOnly?
  let s := if 0 < s.depth then { s with adjacent := s.index } else s
  return s.push token

/-- A comma in brackets. -/
def fetchComma? (s : Scanner) : Option Scanner := do
  let s ← s.removeKey?
  return (← (s.allowKey true).endPair.skip.skipGapOnly?).push .flowEntry

/-! ## Entries, keys and values -/

/-- Whether the last token belongs to an entry that is indented less: an anchor or a
tag in the first column. -/
def endsWithProperty (s : Scanner) : Bool :=
  match s.tokens.back? with
  | some (.anchor _) | some (.tag _ _) => true
  | _ => false

/-- The dash of an entry. -/
def fetchEntry? (s : Scanner) : Option Scanner := do
  if 0 < s.depth || !s.keyAllowed then none
  if s.endsWithProperty && s.column == 0 && -1 < s.indent then none
  let column := s.column
  let s := s.skip
  let s := s.roll column s.tokens.size .blockSequenceStart
  let (s, gap) ← s.skipGap? true
  if gap.tab && s.char == '-' && isGap (s.charAt 1) then none
  let s := if isBreak s.char || isFlow s.char then s.rollSoft else s
  return ((← s.removeKey?).allowKey true).push .blockEntry

/-- The question mark of a key. -/
def fetchKey? (s : Scanner) : Option Scanner := do
  let inBlock := s.depth == 0
  if inBlock && !s.keyAllowed then none
  let s := if inBlock then s.roll s.column s.tokens.size .blockMappingStart
    else { s with inFlowMapping := true }
  let s := ((← s.removeKey?).allowKey inBlock).skip
  let s ← skipSpaces? (s.rest.length + 1) false s
  if s.char == '\t' then none
  return s.push .key

/-- The colon of a value after a key that has begun at a possible place. -/
def fetchKeyedValue? (s : Scanner) (key : PossibleKey) (line : Nat) (pair : Bool) :
    Option Scanner := do
  if pair && key.line < line then none
  let s := s.insertAt key.tokens .key
  let s := if pair then s.insertAt key.tokens .flowMappingStart else s
  let s := (s.roll key.column key.tokens .blockMappingStart).rollSoft
  return { s with
    keys := key.dropped :: s.keys.drop 1
    keyAllowed := false }

/-- The colon of a value after any other key, or without one. -/
def fetchOtherValue? (s : Scanner) (column : Nat) (pair : Bool) : Option Scanner := do
  let s := if pair then s.push .flowMappingStart else s
  let inBlock := s.depth == 0
  if inBlock && !s.keyAllowed then none
  let s := s.roll column s.tokens.size .blockMappingStart
  return s.rollSoft.allowKey inBlock

/-- The colon of a value. -/
def fetchValue? (s : Scanner) : Option Scanner := do
  let key := s.key
  let line := s.line
  let column := s.column
  let pair := !s.pairs.isEmpty && !s.inFlowMapping
  let s := if pair then { s with pairs := true :: s.pairs.drop 1 } else s
  let s := s.skip
  let s ← if s.char == '\t' then do
      let (s, gap) ← s.skipGap? true
      if !gap.space && (s.char == '-' || isNameChar s.char) then none
      pure s
    else some s
  let s ← if key.possible then s.fetchKeyedValue? key line pair
    else s.fetchOtherValue? column pair
  return s.push .value

/-- A colon in brackets without a blank after it. -/
def fetchAdjacentValue? (s : Scanner) : Option Scanner :=
  if s.index != s.adjacent && (s.charAt 1 == '[' || s.charAt 1 == '{') then none
  else s.fetchValue?

/-! ## Anchors and tags -/

/-- The name of an anchor. -/
def fetchAnchor? (s : Scanner) (token : String → Token) : Option Scanner :=
  let s := (s.saveKey.allowKey false).skip
  let (name, s) := s.takeWhile isAnchorChar
  if name.isEmpty then none else some (s.push (token (String.ofList name)))

/-- The characters of an address, octets in it written with a percent sign. -/
def readAddress? (isChar : Char → Bool) :
    (fuel : Nat) → Scanner → Option (List Char × Scanner)
  | 0, s => some ([], s)
  | fuel + 1, s =>
      if isChar s.char then
        if s.char == '%' then do
          let octet ← Text.natural? 16 [s.charAt 1, s.charAt 2]
          let (chars, s) ← readAddress? isChar fuel (s.skipMany 3)
          return (Char.ofNat octet :: chars, s)
        else do
          let (chars, rest) ← readAddress? isChar fuel s.skip
          return (s.char :: chars, rest)
      else some ([], s)

/-- A handle: an exclamation mark, a name and another exclamation mark, of which the
last two may be missing. -/
def readHandle? (s : Scanner) : Option (List Char × Scanner) :=
  if s.char != '!' then none
  else
    let (name, s) := s.skip.takeWhile isNameChar
    if s.char == '!' then some ('!' :: (name ++ ['!']), s.skip) else some ('!' :: name, s)

/-- Whether characters are a handle with both exclamation marks. -/
def isFullHandle (handle : List Char) : Bool :=
  2 ≤ handle.length && handle.getLast? == some '!'

/-- The handle and the suffix of a tag. -/
def readTag? (s : Scanner) : Option (List Char × List Char × Scanner) := do
  if s.charAt 1 == '<' then
    let s := s.skipMany 2
    let (suffix, s) ← readAddress? isAddressChar s.rest.length s
    if s.char == '>' then return ([], suffix, s.skip) else none
  else
    let (handle, s) ← s.readHandle?
    let (suffix, s) ← readAddress? isTagChar s.rest.length s
    if isFullHandle handle then
      if suffix.isEmpty then none else return (handle, suffix, s)
    else
      let suffix := handle.drop 1 ++ suffix
      if suffix.isEmpty then return ([], ['!'], s) else return (['!'], suffix, s)

/-- A tag. -/
def fetchTag? (s : Scanner) : Option Scanner := do
  let (handle, suffix, s) ← (s.saveKey.allowKey false).readTag?
  if isGap s.char || (0 < s.depth && isFlow s.char) then
    return s.push (.tag (String.ofList handle) (String.ofList suffix))
  else none

/-! ## Directives -/

/-- The number of a version. -/
def readVersionPart? (s : Scanner) : Option Scanner :=
  let (digits, s) := s.takeWhile Char.isDigit
  if digits.isEmpty || 9 < digits.length then none else some s

/-- What a directive says after its name. -/
def readDirective? (name : List Char) (s : Scanner) : Option (Token × Scanner) := do
  if name = ['Y', 'A', 'M', 'L'] then
    let s ← (s.takeWhile isBlank).2.readVersionPart?
    if s.char == '.' then return (.version, ← s.skip.readVersionPart?) else none
  else if name = ['T', 'A', 'G'] then
    let (handle, s) ← (s.takeWhile isBlank).2.readHandle?
    if !isFullHandle handle && handle != ['!'] then none
    let s := (s.takeWhile isBlank).2
    let (target, s) ← readAddress? isAddressChar s.rest.length s
    if isGap s.char then return (.handle (String.ofList handle) (String.ofList target), s) else none
  else return (.handle "" "", s.skipComment)

/-- A directive, with nothing else on the line. -/
def fetchDirective? (s : Scanner) : Option Scanner := do
  let s ← (s.unroll (-1)).removeKey?
  let (name, s) := (s.allowKey false).skip.takeWhile isNameChar
  if name.isEmpty || !isGap s.char then none
  let (token, s) ← readDirective? name s
  let s ← s.skipGapOnly?
  if isBreakOrEnd s.char then return s.push token else none

end Scanner

end Attest.Config.Yaml
