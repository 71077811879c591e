/-! # Tokens of YAML

A text in YAML is a row of tokens. Where the structure follows from indentation, tokens for the
start and the end of a block stand for it.
-/

namespace TransitFeed.Yaml

/-- How a scalar is written. -/
inductive Style where
  | plain
  | singleQuoted
  | doubleQuoted
  /-- A block whose line breaks are kept. -/
  | literal
  /-- A block whose line breaks are folded. -/
  | folded
  deriving Repr, DecidableEq

/-- A part of a text in YAML. -/
inductive Token where
  | version (major minor : Nat)
  | tagPrefix (handle tagStart : String)
  | documentStart
  | documentEnd
  | blockSequenceStart
  | blockMappingStart
  | blockEnd
  | flowSequenceStart
  | flowSequenceEnd
  | flowMappingStart
  | flowMappingEnd
  /-- The dash in front of an item of a block. -/
  | blockEntry
  /-- The comma between the items of a flow collection. -/
  | flowEntry
  | key
  | value
  | alias (name : String)
  | anchor (name : String)
  | tag (handle suffix : String)
  | scalar (style : Style) (text : String)
  | streamEnd
  deriving Repr, DecidableEq

end TransitFeed.Yaml
