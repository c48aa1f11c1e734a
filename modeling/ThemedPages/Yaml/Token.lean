/-!
# YAML tokens

The tokens of YAML text. Indentation has become tokens that open and close blocks, and every key
has a token before it, whether or not the text marks it with a question mark.
-/

namespace ThemedPages.Yaml

/-- How a scalar is written. -/
inductive ScalarStyle
  | plain
  | singleQuoted
  | doubleQuoted
  | literal
  | folded
  deriving DecidableEq, Repr

/-- A token. -/
inductive Token
  /-- `%YAML`. -/
  | version (major minor : Nat)
  /-- `%TAG`, which lets a handle stand for the start of a tag. -/
  | tagHandle (handle start : String)
  /-- `---`. -/
  | documentStart
  /-- `...`. -/
  | documentEnd
  | blockSequenceStart
  | blockMappingStart
  | blockEnd
  | flowSequenceStart
  | flowSequenceEnd
  | flowMappingStart
  | flowMappingEnd
  /-- `-` before an item. -/
  | blockEntry
  /-- `,` after an item. -/
  | flowEntry
  /-- Before a key. -/
  | key
  /-- `:` before a value. -/
  | value
  | alias (name : String)
  | anchor (name : String)
  /-- A tag, as its handle and what follows the handle. -/
  | tag (handle ending : String)
  | scalar (text : String) (style : ScalarStyle)
  deriving DecidableEq, Repr

end ThemedPages.Yaml
