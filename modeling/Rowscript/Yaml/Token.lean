import Rowscript.Yaml.Scalar

/-!
# Yaml/Token — the signs of a document

A text is first cut into tokens.  Lines and indentation show only as the starts and ends of block
collections: a `Token` has no place of its own.
-/

namespace Rowscript.Yaml

/-- A sign. -/
inductive Token where
  /-- The text ends. -/
  | streamEnd
  /-- The version a document is written for. -/
  | versionDirective (major minor : Nat)
  /-- What the handle of a tag stands for. -/
  | tagDirective (handle meaning : String)
  | documentStart
  | documentEnd
  | blockSequenceStart
  | blockMappingStart
  /-- The end of the innermost block collection. -/
  | blockEnd
  | flowSequenceStart
  | flowSequenceEnd
  | flowMappingStart
  | flowMappingEnd
  /-- An item of a block sequence follows. -/
  | blockEntry
  /-- A further item or entry between brackets follows. -/
  | flowEntry
  /-- A key follows. -/
  | key
  /-- The value of a key follows. -/
  | value
  /-- The node that a name stands for, by its number; none if the name is unknown. -/
  | reference (number : Option Nat)
  /-- The next node gets a name; nodes with the same number are one to a reference. -/
  | anchor (number : Nat)
  /-- The next node gets a tag. -/
  | tag (handle suffix : String)
  | scalar (text : String) (plain : Bool)
  deriving DecidableEq, Repr

end Rowscript.Yaml
