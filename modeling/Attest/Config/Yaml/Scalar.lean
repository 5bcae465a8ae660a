import Attest.Config.Yaml.Scanner

/-!
# Scanning scalars

A scalar is quoted, plain or a block.  In quoted and plain scalars a single line
break counts as a space, and of several the first does not count.  A block keeps its
line breaks, or folds them between lines that do not start with a blank; what its
last line breaks become is said in its first line.
-/

namespace Attest.Config.Yaml

namespace Scanner

/-! ## Folded blanks -/

/-- Blanks between two parts of a scalar. -/
structure Fold where
  /-- The blanks on the line, in reverse. -/
  blanks : List Char := []
  /-- Whether there was a line break that counts. -/
  broken : Bool := false
  /-- The further line breaks. -/
  further : Nat := 0

/-- What blanks between two parts become, `leading` telling whether there was any
line break. -/
def Fold.text (fold : Fold) (leading : Bool) : List Char :=
  if leading then
    if fold.broken && fold.further == 0 then [' '] else List.replicate fold.further '\n'
  else fold.blanks.reverse

/-- One more line break. -/
def Fold.addBreak (fold : Fold) (leading : Bool) : Fold :=
  if leading then { fold with further := fold.further + 1 }
  else { fold with blanks := [], broken := true }

/-! ## Quoted scalars -/

/-- The character that an escape in a quoted scalar stands for. -/
def simpleEscape? (c : Char) : Option Char :=
  match c with
  | '0' => some '\x00'
  | 'a' => some '\x07'
  | 'b' => some '\x08'
  | 't' | '\t' => some '\t'
  | 'n' => some '\n'
  | 'v' => some '\x0b'
  | 'f' => some '\x0c'
  | 'r' => some '\r'
  | 'e' => some '\x1b'
  | ' ' => some ' '
  | '"' => some '"'
  | '/' => some '/'
  | '\\' => some '\\'
  | 'N' => some (Char.ofNat 0x85)
  | '_' => some (Char.ofNat 0xA0)
  | 'L' => some (Char.ofNat 0x2028)
  | 'P' => some (Char.ofNat 0x2029)
  | _ => none

/-- The number of hexadecimal digits after the letter of an escape. -/
def escapeWidth (c : Char) : Nat :=
  if c = 'x' then 2 else if c = 'u' then 4 else if c = 'U' then 8 else 0

/-- An escape after its backslash. -/
def readEscape? (s : Scanner) : Option (Char × Scanner) :=
  match simpleEscape? s.char with
  | some c => some (c, s.skip)
  | none => do
      let width := escapeWidth s.char
      let code ← Text.natural? 16 ((s.rest.drop 1).take width)
      if (s.rest.drop 1).length < width then none
      if code < 0xD800 ∨ (0xE000 ≤ code ∧ code < 0x110000) then
        return (Char.ofNat code, s.skipMany (width + 1))
      else none

/-- The part of a quoted scalar up to the next blank or the closing quote, and
whether it ended with an escaped line break. -/
def readQuotedPart? (single : Bool) : (fuel : Nat) → Scanner → Option (List Char × Bool × Scanner)
  | 0, s => some ([], false, s)
  | fuel + 1, s =>
      let c := s.char
      if isGap c then some ([], false, s)
      else if single && c == '\'' then
        if s.charAt 1 == '\'' then do
          let (chars, escaped, s) ← readQuotedPart? single fuel (s.skipMany 2)
          return ('\'' :: chars, escaped, s)
        else some ([], false, s)
      else if !single && c == '"' then some ([], false, s)
      else if !single && c == '\\' then
        if isBreak (s.charAt 1) then some ([], true, s.skip.skipBreak)
        else do
          let (char, s) ← s.skip.readEscape?
          let (chars, escaped, s) ← readQuotedPart? single fuel s
          return (char :: chars, escaped, s)
      else do
        let (chars, escaped, s) ← readQuotedPart? single fuel s.skip
        return (c :: chars, escaped, s)

/-- The blanks between two parts of a quoted scalar. -/
def readQuotedFold? : (fuel : Nat) → (leading : Bool) → Fold → Scanner →
    Option (List Char × Scanner)
  | 0, leading, fold, s => some (fold.text leading, s)
  | fuel + 1, leading, fold, s =>
      if isBlank s.char then
        if leading then
          if s.char == '\t' && s.isLeft then none
          else readQuotedFold? fuel leading fold s.skipBlank
        else readQuotedFold? fuel leading { fold with blanks := s.char :: fold.blanks } s.skipBlank
      else if isBreak s.char then readQuotedFold? fuel true (fold.addBreak leading) s.skipBreak
      else some (fold.text leading, s)

/-- A quoted scalar after its opening quote, its closing quote included. -/
def readQuoted? (single : Bool) : (fuel : Nat) → Scanner → Option (List Char × Scanner)
  | 0, _ => none
  | fuel + 1, s => do
      if s.atDocumentMark || s.char == endChar || s.isLeft then none
      let (part, escaped, s) ← readQuotedPart? single (s.rest.length + 1) s
      if s.char == (if single then '\'' else '"') && !escaped then return (part, s.skip)
      let (fold, s) ← readQuotedFold? (s.rest.length + 1) escaped {} s
      let (text, s) ← readQuoted? single fuel s
      return (part ++ fold ++ text, s)

/-- Whether a quoted scalar may end here, having begun on a line. -/
def endsQuoted (s : Scanner) (line : Nat) : Bool :=
  isBreakOrEnd s.char ||
    (if 0 < s.depth then s.char == ',' || s.char == '}' || s.char == ']' || s.char == ':'
    else s.char == ':' && s.line == line)

/-- A quoted scalar. -/
def fetchQuoted? (s : Scanner) (single : Bool) : Option Scanner := do
  let line := s.line
  let s := (s.saveKey.allowKey false).skip
  let (text, s) ← readQuoted? single (s.rest.length + 1) s
  let s ← s.skipGapOnly?
  if !s.endsQuoted line then none
  let s ← toToken? (2 * s.rest.length + 1) s
  return { s with adjacent := s.index }.push (.scalar false (String.ofList text))

/-! ## Plain scalars -/

/-- Whether the next character can go on a plain scalar. -/
def isPlainNext (s : Scanner) : Bool :=
  !isGap s.char &&
    (if s.char == ':' then !(isGap (s.charAt 1) || (0 < s.depth && isFlow (s.charAt 1)))
    else !(0 < s.depth && isFlow s.char))

/-- The part of a plain scalar up to the next blank. -/
def readPlainPart : (fuel : Nat) → Scanner → List Char × Scanner
  | 0, s => ([], s)
  | fuel + 1, s =>
      if s.isPlainNext then
        let (chars, rest) := readPlainPart fuel s.skip
        (s.char :: chars, rest)
      else ([], s)

/-- The blanks between two parts of a plain scalar that is indented at least as a
column.  A tab to the left of it stands only in a line without content. -/
def readPlainFold? (column : Int) : (fuel : Nat) → Fold → Scanner → Option (List Char × Scanner)
  | 0, fold, s => some (fold.text s.leading, s)
  | fuel + 1, fold, s =>
      if isBlank s.char then
        if !s.leading then
          readPlainFold? column fuel { fold with blanks := s.char :: fold.blanks } s.skipBlank
        else if (s.column : Int) < column && s.char == '\t' then do
          let s ← s.skipGapOnly?
          if isBreakOrEnd s.char then readPlainFold? column fuel fold { s with leading := true }
          else none
        else readPlainFold? column fuel fold s.skipBlank
      else if isBreak s.char then
        readPlainFold? column fuel (fold.addBreak s.leading) s.skipBreak
      else some (fold.text s.leading, s)

/-- A plain scalar that is indented at least as a column, after blanks that count
only if it goes on. -/
def readPlain? (column : Int) : (fuel : Nat) → (pending : List Char) → Scanner →
    Option (List Char × Scanner)
  | 0, _, s => some ([], s)
  | fuel + 1, pending, s =>
      if s.atDocumentMark || s.char == '#' then some ([], s)
      else if 0 < s.depth && s.char == '-' && isFlow (s.charAt 1) then none
      else
        let (part, s) := readPlainPart (s.rest.length + 1) s
        let part := if part.isEmpty then [] else pending ++ part
        if isBlank s.char || isBreak s.char then do
          let (fold, s) ← readPlainFold? column (s.rest.length + 1) {} s
          if s.depth == 0 && (s.column : Int) < column then some (part, s)
          else do
            let (text, s) ← readPlain? column fuel fold s
            return (part ++ text, s)
        else some (part, s)

/-- A plain scalar. -/
def fetchPlain? (s : Scanner) : Option Scanner := do
  let s := s.saveKey.allowKey false
  let s := unrollSoft s.indents s
  let column := s.indent + 1
  if 0 < s.depth && (s.column : Int) < column then none
  let (text, s) ← readPlain? column (s.rest.length + 1) [] s
  if text.isEmpty then none
  let s := if s.leading then s.allowKey true else s
  return s.push (.scalar true (String.ofList text))

/-! ## Blocks -/

/-- What becomes of the line breaks at the end of a block. -/
inductive Chomping where
  | strip
  | clip
  | keep
  deriving DecidableEq

/-- Which chomping a sign asks for. -/
def chomping? (c : Char) : Option Chomping :=
  if c = '+' then some .keep else if c = '-' then some .strip else none

/-- The indentation that a digit asks for, not zero. -/
def indicator? (c : Char) : Option Nat :=
  if '1' ≤ c ∧ c ≤ '9' then some (c.toNat - '0'.toNat) else none

/-- The first line of a block after its sign: chomping and indentation in either
order. -/
def readBlockHead (s : Scanner) : Chomping × Nat × Scanner :=
  match chomping? s.char with
  | some chomping =>
      match indicator? (s.charAt 1) with
      | some increment => (chomping, increment, s.skipMany 2)
      | none => (chomping, 0, s.skip)
  | none =>
      match indicator? s.char with
      | some increment =>
          match chomping? (s.charAt 1) with
          | some chomping => (chomping, increment, s.skipMany 2)
          | none => (.clip, increment, s.skip)
      | none => (.clip, 0, s)

/-- Go over the indentation of a block and over empty lines, and how many there
were. -/
def skipBlockIndent (indent : Nat) : (fuel : Nat) → (breaks : Nat) → Scanner → Nat × Scanner
  | 0, breaks, s => (breaks, s)
  | fuel + 1, breaks, s =>
      if s.column < indent && s.char == ' ' then skipBlockIndent indent fuel breaks s.skipBlank
      else if isBreak s.char then skipBlockIndent indent fuel (breaks + 1) s.skipBreak
      else (breaks, s)

/-- Go over empty lines up to the first line with content: the greatest column on
the way, and how many lines there were. -/
def findBlockIndent : (fuel : Nat) → (greatest breaks : Nat) → Scanner → Nat × Nat × Scanner
  | 0, greatest, breaks, s => (greatest, breaks, s)
  | fuel + 1, greatest, breaks, s =>
      if s.char == ' ' then findBlockIndent fuel greatest breaks s.skipBlank
      else if isBreak s.char then
        findBlockIndent fuel (max greatest s.column) (breaks + 1) s.skipBreak
      else (max greatest s.column, breaks, s)

/-- The lines of a block: the text so far in reverse, whether the line before ended
with a line break, the number of empty lines after it, and whether it began with a
blank. -/
def readBlockLines (literal : Bool) (indent : Nat) : (fuel : Nat) → (text : List Char) →
    (broken : Bool) → (empty : Nat) → (blank : Bool) → Scanner → List Char × Bool × Nat × Scanner
  | 0, text, broken, empty, _, s => (text, broken, empty, s)
  | fuel + 1, text, broken, empty, blank, s =>
      if s.column != indent || s.char == endChar || (indent == 0 && s.atDocumentMark) then
        (text, broken, empty, s)
      else
        let startsBlank := isBlank s.char
        let folded := !literal && broken && !blank && !startsBlank
        let gap := if folded then (if empty == 0 then [' '] else List.replicate empty '\n')
          else List.replicate (empty + (if broken then 1 else 0)) '\n'
        let (line, s) := s.takeWhile fun c => !isBreakOrEnd c
        let text := line.reverse ++ gap ++ text
        if s.char == endChar then (text, false, 0, s)
        else
          let s := s.skipBreak
          let (empty, s) := skipBlockIndent indent (s.rest.length + 1) 0 s
          readBlockLines literal indent fuel text true empty startsBlank s

/-- The text of a block without content. -/
def emptyBlock (chomping : Chomping) (broken : Bool) (empty : Nat) : List Char :=
  if chomping = .strip || !broken then []
  else if chomping = .keep && 0 < empty then List.replicate empty '\n'
  else ['\n']

/-- The line breaks at the end of a block. -/
def blockEnding (chomping : Chomping) (indent : Nat) (broken : Bool) (empty : Nat) (s : Scanner) :
    List Char :=
  let last := if broken then ['\n'] else []
  let atEnd := if s.char == endChar && max indent 1 ≤ s.column then ['\n'] else []
  let further := if chomping = .keep then List.replicate empty '\n' else []
  if chomping = .strip then [] else last ++ atEnd ++ further

/-- A block. -/
def fetchBlock? (s : Scanner) (literal : Bool) : Option Scanner := do
  let s := (s.saveKey.allowKey true).skip
  let s := unrollSoft s.indents s
  let start := s.line
  let (chomping, increment, s) := s.readBlockHead
  let s ← s.skipGapOnly?
  if !isBreakOrEnd s.char then none
  let s := if isBreak s.char then s.skipBreak else s
  if s.char == '\t' then none
  let around : Nat := s.indent.toNat
  let (indent, empty, s) :=
    if increment = 0 then
      let (greatest, empty, s) := findBlockIndent (s.rest.length + 1) 0 0 s
      let indent := max greatest (s.indent + 1).toNat
      (if 0 < s.indent then max indent 1 else indent, empty, s)
    else
      let indent := around + increment
      let (empty, s) := skipBlockIndent indent (s.rest.length + 1) 0 s
      (indent, empty, s)
  if s.char == endChar then
    let text := emptyBlock chomping (s.line != start) empty
    return s.push (.scalar false (String.ofList text))
  if s.column < indent && s.indent < s.column then none
  let (text, broken, empty, s) :=
    readBlockLines literal indent (s.rest.length + 1) [] false empty false s
  let ending := blockEnding chomping indent broken empty s
  return s.push (.scalar false (String.ofList (text.reverse ++ ending)))

/-! ## All tokens -/

/-- The next tokens, or nothing where a document cannot go on.  `none` inside means
that the text has ended. -/
def fetch? (s : Scanner) : Option Scanner :=
  let c := s.char
  let next := s.charAt 1
  if s.column == 0 && c == '%' then s.fetchDirective?
  else if s.atMark '-' then s.fetchMark? .documentStart
  else if s.atMark '.' then s.fetchDocumentEnd?
  else if s.isLeft then none
  else if c == '[' then s.fetchOpening? .flowSequenceStart
  else if c == '{' then s.fetchOpening? .flowMappingStart
  else if c == ']' then s.fetchClosing? .flowSequenceEnd
  else if c == '}' then s.fetchClosing? .flowMappingEnd
  else if c == ',' then s.fetchComma?
  else if c == '-' && isGap next then s.fetchEntry?
  else if c == '?' && isGap next then s.fetchKey?
  else if c == ':' && isGap next then s.fetchValue?
  else if c == ':' && 0 < s.depth && (isFlow next || s.index == s.adjacent) then
    s.fetchAdjacentValue?
  else if c == '*' then s.fetchAnchor? .reference
  else if c == '&' then s.fetchAnchor? .anchor
  else if c == '!' then s.fetchTag?
  else if c == '|' && s.depth == 0 then s.fetchBlock? true
  else if c == '>' && s.depth == 0 then s.fetchBlock? false
  else if c == '\'' then s.fetchQuoted? true
  else if c == '"' then s.fetchQuoted? false
  else if c == '%' || c == '@' || c == Char.ofNat 0x60 then none
  else s.fetchPlain?

/-- Fetch tokens to the end of the text. -/
def run? : (fuel : Nat) → Scanner → Option Scanner
  | 0, _ => none
  | fuel + 1, s => do
      let s ← toToken? (2 * s.rest.length + 1) s
      let s ← s.dropStaleKeys?
      let s := s.unroll s.column
      if s.char == endChar then fetchEnd? { s with line := s.line + 1, column := 0 }
      else run? fuel (← s.fetch?)

end Scanner

/-- The tokens of a text. -/
def tokens? (text : String) : Option (List Token) :=
  let chars := text.toList
  (Scanner.run? (chars.length + 2) { rest := chars }).map fun s => s.tokens.toList

end Attest.Config.Yaml
