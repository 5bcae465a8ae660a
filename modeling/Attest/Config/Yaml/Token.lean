/-!
# Tokens of indented documents

A document is a sequence of tokens.  Some are written (brackets, commas, scalars,
anchors), some follow from the layout: where a block begins and ends, and that the
scalar before a colon is a key.
-/

namespace Attest.Config.Yaml

/-- A token of a document. -/
inductive Token where
  /-- A directive for the version of the format. -/
  | version
  /-- A directive for the handle of a tag. -/
  | handle (name target : String)
  | documentStart
  | documentEnd
  | blockSequenceStart
  | blockMappingStart
  | blockEnd
  | flowSequenceStart
  | flowSequenceEnd
  | flowMappingStart
  | flowMappingEnd
  | blockEntry
  | flowEntry
  | key
  | value
  | reference (name : String)
  | anchor (name : String)
  | tag (handle suffix : String)
  | scalar (plain : Bool) (text : String)
  deriving DecidableEq, Repr, Inhabited

end Attest.Config.Yaml
