import Attest.Config.Yaml.Scalar
import Attest.Json

/-!
# Settings documents in YAML

The tokens of a text make documents of scalars, sequences and mappings.  A plain
scalar is what it looks like: nothing, a Boolean, an integer, a number or a text; a
quoted scalar or a block is a text.  An anchor names a node for later references.  A
settings file holds at most one document, and that is a mapping whose keys are
scalars, none of them twice.
-/

namespace Attest.Config.Yaml

/-! ## Nodes -/

/-- A scalar; a number keeps its text. -/
inductive Scalar where
  | null
  | bool (value : Bool)
  | int (value : Int)
  | number (word : String)
  | text (value : String)
  /-- What its tag does not allow. -/
  | refused
  deriving DecidableEq, Repr, Inhabited

/-- A node of a document. -/
inductive Node where
  | scalar (value : Scalar)
  | sequence (items : List Node)
  | mapping (entries : List (Scalar × Node))
  deriving Repr, Inhabited

namespace Scalar

/-- The words for infinity and for no number. -/
def numberWords : List String :=
  [".inf", ".Inf", ".INF", "+.inf", "+.Inf", "+.INF", "-.inf", "-.Inf", "-.INF", ".nan", ".NaN",
    ".NAN"]

/-- Whether a text is a number: one of the words, or a double with a digit in it. -/
def isNumber (text : String) : Bool :=
  numberWords.contains text || (text.toList.any Char.isDigit && (Text.double? text.toList).isSome)

/-- The integer of a text with a mark for its base, or with a plus sign. -/
def marked? : List Char → Option Int
  | '0' :: 'x' :: digits => Text.int64? 16 digits
  | '0' :: 'o' :: digits => Text.int64? 8 digits
  | '+' :: digits => Text.int64? 10 digits
  | _ => none

/-- What a plain scalar looks like. -/
def ofPlain (text : String) : Scalar :=
  match marked? text.toList with
  | some i => .int i
  | none =>
      if ["", "~", "null"].contains text then .null
      else if ["true", "True", "TRUE"].contains text then .bool true
      else if ["false", "False", "FALSE"].contains text then .bool false
      else
        match Text.int64? 10 text.toList with
        | some i => .int i
        | none => if isNumber text then .number text else .text text

/-- The address of the tags of the format. -/
def standardTags : String := "tag:yaml.org,2002:"

/-- What a plain scalar with a tag is. -/
def ofTagged (address suffix text : String) : Scalar :=
  if address ≠ standardTags then .text text
  else
    match suffix with
    | "bool" =>
        if text = "true" then .bool true else if text = "false" then .bool false else .refused
    | "int" =>
        match Text.int64? 10 text.toList with
        | some i => .int i
        | none => .refused
    | "float" => if isNumber text then .number text else .refused
    | "null" => if text = "~" ∨ text = "null" then .null else .refused
    | _ => .text text

/-- The value of a scalar; what its tag does not allow counts as nothing. -/
def toJson? : Scalar → Option Json
  | .null | .refused => some .null
  | .bool value => some (.bool value)
  | .int value => some (.int value)
  | .number word => (Text.double? word.toList).map Json.float
  | .text value => some (.string value)

/-- The name that a scalar is as a key. -/
def name? : Scalar → Option String
  | .null | .refused => none
  | .bool value => some (toString value)
  | .int value => some (toString value)
  | .number word => some word
  | .text value => some value

end Scalar

mutual

/-- The value of a node. -/
def Node.toJson? : Node → Option Json
  | .scalar value => value.toJson?
  | .sequence items => do return .array (← Node.itemsToJson? items)
  | .mapping entries => do return .object (Table.ofEntries (← Node.entriesToJson? entries))

/-- The values of items. -/
def Node.itemsToJson? : List Node → Option (List Json)
  | [] => some []
  | item :: rest => do return (← item.toJson?) :: (← Node.itemsToJson? rest)

/-- The values of entries under their names. -/
def Node.entriesToJson? : List (Scalar × Node) → Option (List (String × Json))
  | [] => some []
  | (key, node) :: rest => do
      return (← key.name?, ← node.toJson?) :: (← Node.entriesToJson? rest)

end

/-! ## Reading tokens -/

/-- What is known while tokens are read. -/
structure Reader where
  tokens : List Token
  /-- The numbers that the names of anchors stand for, the latest first. -/
  anchors : List (String × Nat) := []
  /-- The nodes of the anchors that are complete. -/
  nodes : List (Nat × Node) := []
  /-- The addresses of the handles of tags. -/
  handles : Table String := []

namespace Reader

/-- The next token; at the end a token that begins nothing. -/
def token (r : Reader) : Token :=
  r.tokens.headD .documentEnd

/-- Go over a token. -/
def skip (r : Reader) : Reader :=
  { r with tokens := r.tokens.drop 1 }

/-- Name the node that comes next. -/
def declare (r : Reader) (name : String) : Nat × Reader :=
  (r.anchors.length, { r with anchors := (name, r.anchors.length) :: r.anchors })

/-- The node of an anchor is complete. -/
def complete (r : Reader) (number : Option Nat) (node : Node) : Reader :=
  match number with
  | some number => { r with nodes := (number, node) :: r.nodes }
  | none => r

/-- The node that a reference stands for: nothing while that node is not complete. -/
def lookUp? (r : Reader) (name : String) : Option Node := do
  let (_, number) ← r.anchors.find? fun anchor => anchor.1 == name
  let found := r.nodes.find? fun node => node.1 == number
  return (found.map Prod.snd).getD (.scalar .refused)

/-- The address and the suffix of a tag. -/
def resolveTag? (r : Reader) (handle suffix : String) : Option (String × String) :=
  match Table.find? handle r.handles with
  | some address => some (address, suffix)
  | none =>
      if handle = "!!" then some (Scalar.standardTags, suffix)
      else if Scanner.isFullHandle handle.toList then none
      else some (handle, suffix)

/-- The anchor and the tag in front of a node, each at most once, in either order. -/
structure Properties where
  anchor : Option Nat := none
  tag : Option (String × String) := none

/-- Read an anchor, if one comes next. -/
def readAnchor (r : Reader) (properties : Properties) : Properties × Reader :=
  match r.token with
  | .anchor name =>
      let (number, r) := r.skip.declare name
      ({ properties with anchor := some number }, r)
  | _ => (properties, r)

/-- Read a tag, if one comes next. -/
def readTag? (r : Reader) (properties : Properties) : Option (Properties × Reader) :=
  match r.token with
  | .tag handle suffix => do
      return ({ properties with tag := some (← r.resolveTag? handle suffix) }, r.skip)
  | _ => some (properties, r)

/-- Read what stands in front of a node. -/
def readProperties? (r : Reader) : Option (Properties × Reader) := do
  let (properties, r) := r.readAnchor {}
  let (properties, r) ← r.readTag? properties
  if properties.anchor.isSome then return (properties, r) else return r.readAnchor properties

/-- The node without any text. -/
def nothing : Node := .scalar .null

/-- A scalar with what stands in front of it. -/
def scalarOf (properties : Properties) (plain : Bool) (text : String) : Node :=
  if plain then
    match properties.tag with
    | some (address, suffix) => .scalar (.ofTagged address suffix text)
    | none => .scalar (.ofPlain text)
  else .scalar (.text text)

/-- An entry of a mapping: its key is a scalar that is not yet among the keys. -/
def addEntry? (entries : List (Scalar × Node)) (key value : Node) :
    Option (List (Scalar × Node)) :=
  match key with
  | .scalar scalar =>
      if entries.any fun entry => entry.1 == scalar then none
      else some (entries ++ [(scalar, value)])
  | _ => none

/-- Whether no node comes between the marks of an entry. -/
def isMissing (marks : List Token) (r : Reader) : Bool :=
  marks.contains r.token

mutual

/-- A node.  `block` allows blocks, `dashes` a sequence that is not indented more
than its key. -/
def readNode? (block dashes : Bool) : (fuel : Nat) → Reader → Option (Node × Reader)
  | 0, _ => none
  | fuel + 1, r =>
      match r.token with
      | .reference name => do return (← r.lookUp? name, r.skip)
      | _ => do
          let (properties, r) ← r.readProperties?
          let (node, r) ← readContent? block dashes fuel properties r
          return (node, r.complete properties.anchor node)

/-- A node after what stands in front of it. -/
def readContent? (block dashes : Bool) : (fuel : Nat) → Properties → Reader →
    Option (Node × Reader)
  | 0, _, _ => none
  | fuel + 1, properties, r =>
      match r.token with
      | .blockEntry =>
          if dashes then do
            let (items, r) ← readDashes? fuel r
            return (.sequence items, r)
          else readNothing? properties r
      | .scalar plain text => some (scalarOf properties plain text, r.skip)
      | .flowSequenceStart => do
          let (items, r) ← readFlowItems? fuel r.skip
          return (.sequence items, r)
      | .flowMappingStart => do
          let (entries, r) ← readFlowEntries? fuel [] r.skip
          return (.mapping entries, r)
      | .blockSequenceStart =>
          if block then do
            let (items, r) ← readBlockItems? fuel r.skip
            return (.sequence items, r)
          else readNothing? properties r
      | .blockMappingStart =>
          if block then do
            let (entries, r) ← readBlockEntries? fuel [] r.skip
            return (.mapping entries, r)
          else readNothing? properties r
      | _ => readNothing? properties r

/-- A node that has nothing but what stands in front of it. -/
def readNothing? (properties : Properties) (r : Reader) : Option (Node × Reader) :=
  if properties.anchor.isSome || properties.tag.isSome then some (scalarOf properties true "", r)
  else none

/-- A node, or none before some tokens. -/
def readOptional? (block dashes : Bool) (marks : List Token) : (fuel : Nat) → Reader →
    Option (Node × Reader)
  | 0, _ => none
  | fuel + 1, r =>
      if r.isMissing marks then some (nothing, r) else readNode? block dashes fuel r

/-- The items of a sequence that is not indented more than its key. -/
def readDashes? : (fuel : Nat) → Reader → Option (List Node × Reader)
  | 0, _ => none
  | fuel + 1, r =>
      if r.token = .blockEntry then do
        let (item, r) ← readOptional? true false [.blockEntry, .key, .value, .blockEnd] fuel r.skip
        let (items, r) ← readDashes? fuel r
        return (item :: items, r)
      else some ([], r)

/-- The items of a sequence in a block of its own. -/
def readBlockItems? : (fuel : Nat) → Reader → Option (List Node × Reader)
  | 0, _ => none
  | fuel + 1, r =>
      match r.token with
      | .blockEnd => some ([], r.skip)
      | .blockEntry => do
          let (item, r) ← readOptional? true false [.blockEntry, .blockEnd] fuel r.skip
          let (items, r) ← readBlockItems? fuel r
          return (item :: items, r)
      | _ => none

/-- The value after a key, if there is one. -/
def readValue? (block : Bool) (marks : List Token) : (fuel : Nat) → Reader →
    Option (Node × Reader)
  | 0, _ => none
  | fuel + 1, r =>
      if r.token = .value then readOptional? block block marks fuel r.skip else some (nothing, r)

/-- The entries of a mapping in a block of its own. -/
def readBlockEntries? : (fuel : Nat) → List (Scalar × Node) → Reader →
    Option (List (Scalar × Node) × Reader)
  | 0, _, _ => none
  | fuel + 1, entries, r =>
      match r.token with
      | .blockEnd => some (entries, r.skip)
      | .key => do
          let (key, r) ← readOptional? true true [.key, .value, .blockEnd] fuel r.skip
          let (value, r) ← readValue? true [.key, .value, .blockEnd] fuel r
          readBlockEntries? fuel (← addEntry? entries key value) r
      | .value => do
          let (value, r) ← readValue? true [.key, .value, .blockEnd] fuel r
          readBlockEntries? fuel (← addEntry? entries nothing value) r
      | _ => none

/-- The items of a sequence in brackets. -/
def readFlowItems? : (fuel : Nat) → Reader → Option (List Node × Reader)
  | 0, _ => none
  | fuel + 1, r =>
      match r.token with
      | .flowSequenceEnd => some ([], r.skip)
      | .key => do
          let marks : List Token := [.flowEntry, .flowSequenceEnd]
          let (key, r) ← readOptional? false false (.value :: marks) fuel r.skip
          let (value, r) ← readValue? false marks fuel r
          readMoreItems? fuel (.mapping (← addEntry? [] key value)) r
      | _ => do
          let (item, r) ← readNode? false false fuel r
          readMoreItems? fuel item r

/-- What follows an item in brackets. -/
def readMoreItems? : (fuel : Nat) → Node → Reader → Option (List Node × Reader)
  | 0, _, _ => none
  | fuel + 1, item, r =>
      match r.token with
      | .flowSequenceEnd => some ([item], r.skip)
      | .flowEntry => do
          let (items, r) ← readFlowItems? fuel r.skip
          return (item :: items, r)
      | _ => none

/-- The entries of a mapping in braces. -/
def readFlowEntries? : (fuel : Nat) → List (Scalar × Node) → Reader →
    Option (List (Scalar × Node) × Reader)
  | 0, _, _ => none
  | fuel + 1, entries, r =>
      let marks : List Token := [.flowEntry, .flowMappingEnd]
      match r.token with
      | .flowMappingEnd => some (entries, r.skip)
      | .key => do
          let (key, r) ← readOptional? false false (.value :: marks) fuel r.skip
          let (value, r) ← readValue? false marks fuel r
          readMoreEntries? fuel (← addEntry? entries key value) r
      | .value => do
          let (value, r) ← readValue? false marks fuel r
          readMoreEntries? fuel (← addEntry? entries nothing value) r
      | _ => do
          let (key, r) ← readNode? false false fuel r
          readMoreEntries? fuel (← addEntry? entries key nothing) r

/-- What follows an entry in braces. -/
def readMoreEntries? : (fuel : Nat) → List (Scalar × Node) → Reader →
    Option (List (Scalar × Node) × Reader)
  | 0, _, _ => none
  | fuel + 1, entries, r =>
      match r.token with
      | .flowMappingEnd => some (entries, r.skip)
      | .flowEntry => readFlowEntries? fuel entries r.skip
      | _ => none

end

/-! ## Documents -/

/-- Read the directives of a document: the version at most once, and each handle at
most once. -/
def readDirectives? : (fuel : Nat) → (versioned : Bool) → Reader → Option Reader
  | 0, _, _ => none
  | fuel + 1, versioned, r =>
      match r.token with
      | .version => if versioned then none else readDirectives? fuel true r.skip
      | .handle name target =>
          if Table.has name r.handles then none
          else
            readDirectives? fuel versioned
              { r.skip with handles := Table.insert name target r.handles }
      | _ => some r

/-- Whether a token begins a document with directives or a mark. -/
def isOpening : Token → Bool
  | .version | .handle _ _ | .documentStart => true
  | _ => false

/-- Whether a token cannot belong to the content of a document. -/
def isOutside : Token → Bool
  | .documentEnd => true
  | token => isOpening token

/-- The documents of a stream; `free` tells whether the next one may begin without a
mark. -/
def readDocuments? : (fuel : Nat) → (free : Bool) → Reader → Option (List Node)
  | 0, _, _ => none
  | fuel + 1, free, r => do
      let r := { r with tokens := r.tokens.dropWhile (· == Token.documentEnd) }
      if r.tokens.isEmpty then return []
      let size := 4 * r.tokens.length + 4
      let (node, r) ← if isOpening r.token then do
          let r ← readDirectives? (r.tokens.length + 1) false { r with handles := [] }
          if r.token ≠ .documentStart then none
          let r := r.skip
          if r.tokens.isEmpty || isOutside r.token then some (nothing, r)
          else readNode? true false size r
        else if free then readNode? true false size { r with handles := [] }
        else none
      let ended := r.token = .documentEnd && !r.tokens.isEmpty
      let isDirective := match r.token with
        | .version | .handle _ _ => true
        | _ => false
      if isDirective then none
      return node :: (← readDocuments? fuel ended { r with anchors := [], nodes := [] })

end Reader

/-- The documents of a text. -/
def documents? (text : String) : Option (List Node) := do
  let tokens ← tokens? text
  Reader.readDocuments? (tokens.length + 1) true { tokens }

/-- The root table of a settings file: empty without a document. -/
def parse? (text : String) : Option (Table Json) := do
  match ← documents? text with
  | [] => return []
  | [document] => (← document.toJson?).object?
  | _ => none

end Attest.Config.Yaml
