/-!
# Tags

What a document says about the kind of a node. Escapes can spell any octets in a tag, not only those
of characters, so a tag is a list of octets.

## Main definitions

- `Yaml.Tag`: a tag, with `Yaml.Tag.upToNul` for its readable part
- `Yaml.Tag.isLocal`, `Yaml.Tag.localName?`: the tags of a document's own, and their names
- `Yaml.CoreTag`: the tags that every document knows
-/

namespace VideoReceiver.Yaml

/-- A tag, or a part of one. -/
structure Tag where
  octets : List UInt8 := []
  deriving DecidableEq, Repr

namespace Tag

/-- The tag that is written as `s`. -/
def ofText (s : String) : Tag := ⟨s.toByteArray.data.toList⟩

/-- A tag in two parts. -/
def append (s t : Tag) : Tag := ⟨s.octets ++ t.octets⟩

/-- The part in front of the first octet that is zero. -/
def upToNul (t : Tag) : Tag := ⟨t.octets.takeWhile (· != 0)⟩

/-- A lone exclamation mark. -/
def bare : Tag := ofText "!"

/-- Whether the tag starts with an exclamation mark. -/
def isLocal (t : Tag) : Bool := bare.octets.isPrefixOf t.octets

/-- The name in a local tag: what is behind its exclamation mark, or the mark itself if nothing is.
Octets that make up no text are no name. -/
def localName? (t : Tag) : Option String :=
  if t.isLocal then
    String.fromUTF8? ⟨(if t = bare then t.octets else t.octets.drop 1).toArray⟩
  else none

end Tag

/-- The tags that say which kind of scalar is meant. -/
inductive CoreTag where
  | bool
  | int
  | float
  | null
  deriving DecidableEq, Repr

namespace CoreTag

/-- What the tags of every document start with. -/
def authority : String := "tag:yaml.org,2002:"

/-- What follows that in a tag. -/
def name : CoreTag → String
  | bool => "bool"
  | int => "int"
  | float => "float"
  | null => "null"

/-- The tag in full. -/
def tag (t : CoreTag) : Tag := Tag.ofText (authority ++ t.name)

/-- The tag that `t` is, if it is one of them. -/
def ofTag? (t : Tag) : Option CoreTag := [bool, int, float, null].find? (·.tag = t)

end CoreTag

end VideoReceiver.Yaml
