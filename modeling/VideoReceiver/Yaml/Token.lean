import VideoReceiver.Yaml.Cursor
import VideoReceiver.Yaml.Tag

/-!
# Tokens of a document

The words of the notation. Indentation has already become tokens that open and close blocks.

## Main definitions

- `Yaml.ScalarStyle`: the five ways to write a scalar
- `Yaml.Token`: the tokens
- `Yaml.Located`: a value with the place it was read from
-/

namespace VideoReceiver.Yaml

/-- How a scalar is written. -/
inductive ScalarStyle where
  | plain
  | singleQuoted
  | doubleQuoted
  | literal
  | folded
  deriving DecidableEq, Repr

/-- A token. -/
inductive Token where
  | versionDirective (major minor : Nat)
  | tagDirective (handle : String) (expansion : Tag)
  | documentStart
  | documentEnd
  | streamEnd
  | blockSequenceStart
  | blockMappingStart
  | blockEnd
  | flowSequenceStart
  | flowSequenceEnd
  | flowMappingStart
  | flowMappingEnd
  | blockEntry
  | flowEntry
  | key
  | value
  | alias (name : String)
  | anchor (name : String)
  | tag (handle : String) (suffix : Tag)
  | scalar (style : ScalarStyle) (text : String)
  deriving DecidableEq, Repr

/-- A value that was read from the text between two positions. -/
structure Located (α : Type) where
  value : α
  start : Mark
  stop : Mark
  deriving Repr

end VideoReceiver.Yaml
