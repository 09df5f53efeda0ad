import VideoReceiver.Yaml.Tag
import VideoReceiver.Yaml.Token

/-!
# Scalars

A scalar as it is written, before anybody asks what it stands for.

## Main definitions

- `Yaml.Scalar`: a text, how it is written, and its tag
- `Yaml.Scalar.mayBe`: whether it may be read as a value of some kind
-/

namespace VideoReceiver.Yaml

/-- A scalar with the tag that is written in front of it. -/
structure Scalar where
  tag : Option Tag := none
  style : ScalarStyle := .plain
  text : String := ""
  deriving DecidableEq, Repr

/-- Whether the scalar may be read as a value of the kind that `t` names: it is plain, or literal
and tagged so. -/
def Scalar.mayBe (t : CoreTag) (s : Scalar) : Bool :=
  s.style = .plain || (s.style = .literal && s.tag = some t.tag)

end VideoReceiver.Yaml
