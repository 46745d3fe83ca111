/-! # Tokens of YAML

The indicators, scalars and properties of a text in order. Indentation shows as tokens that open and
close collections.
-/

namespace RangeCatalog.Yaml

inductive Style where
  | plain
  | singleQuoted
  | doubleQuoted
  | literal
  | folded
deriving DecidableEq, Repr

inductive Token where
  /-- The version of YAML that a document asks for. -/
  | version (major minor : Nat)
  /-- What a tag handle stands for. -/
  | tagHandle (handle expansion : String)
  | documentStart
  | documentEnd
  | blockSequenceStart
  | blockMappingStart
  | blockEnd
  | flowSequenceStart
  | flowSequenceEnd
  | flowMappingStart
  | flowMappingEnd
  | blockEntry
  | flowEntry
  | key
  | value
  | alias (name : String)
  | anchor (name : String)
  /-- A tag by its handle and the rest of it. A whole tag has an empty handle. -/
  | tag (handle suffix : String)
  | scalar (text : String) (style : Style)
deriving DecidableEq, Repr

end RangeCatalog.Yaml
