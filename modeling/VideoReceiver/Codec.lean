/-!
# Codec families

A stream is either H.265 or H.264. The family decides how the first byte of a NAL unit is read
and which NAL unit types open a picture that can be decoded without any earlier one.

## Main definitions

- `Codec`: the two families, with `Codec.name` and `Codec.ofName?`
- `Codec.nalType`: the NAL unit type held in a header byte
- `Codec.isKeyframe`: the types that are keyframes
-/

namespace VideoReceiver

/-- The two codec families a stream may be encoded with. -/
inductive Codec where
  | h265
  | h264
  deriving DecidableEq, Repr, Inhabited

namespace Codec

/-- The canonical lowercase name. -/
def name : Codec → String
  | h265 => "h265"
  | h264 => "h264"

/-- Every spelling that a configuration may use for a family, in the order in which they are
listed to the user. -/
def spellings : List (String × Codec) :=
  [("h265", h265), ("hevc", h265), ("avc", h264), ("h264", h264)]

/-- The family with the given spelling; the spelling is case-sensitive. -/
def ofName? (s : String) : Option Codec := spellings.lookup s

/-- The name of the constructor in diagnostic output. -/
def debugName : Codec → String
  | h265 => "H265"
  | h264 => "H264"

/-- The NAL unit type in a unit's first byte: six bits below the top one in H.265, the low five
bits in H.264. -/
def nalType : Codec → UInt8 → UInt8
  | h265, header => (header >>> 1) &&& 0x3F
  | h264, header => header &&& 0x1F

/-- The NAL unit types of keyframes: 16 to 21 in H.265 and 5 in H.264. -/
def isKeyframe : Codec → UInt8 → Bool
  | h265, t => 16 ≤ t && t ≤ 21
  | h264, t => t == 5

@[simp] theorem ofName?_name (c : Codec) : ofName? c.name = some c := by
  cases c <;> decide

end Codec

end VideoReceiver
