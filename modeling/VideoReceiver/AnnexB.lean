import VideoReceiver.Codec

/-!
# Annex B byte streams

An Annex B stream separates its NAL units by start codes `00 00 01`. Zero bytes in front of a
start code are padding: they belong to no unit.

## Main definitions

- `AnnexB.splitAtStartCode`: the bytes before the first start code and those after it
- `AnnexB.units`: the NAL units of a stream, in order
- `AnnexB.findKeyframe`: the type of the first unit that is a keyframe
- `AnnexB.scanKeyframe`: the same type found by looking at every byte position
-/

namespace VideoReceiver

/-- A sequence of bytes. -/
abbrev Bytes := List UInt8

namespace AnnexB

/-- The three bytes that stand before every NAL unit. -/
def startCode : Bytes := [0, 0, 1]

/-- Splits a stream at its first start code: the bytes before it and, if there is one, the bytes
after it. -/
def splitAtStartCode : Bytes → Bytes × Option Bytes
  | 0 :: 0 :: 1 :: rest => ([], some rest)
  | b :: rest =>
    let (before, after) := splitAtStartCode rest
    (b :: before, after)
  | [] => ([], none)

theorem length_of_splitAtStartCode {data before after : Bytes}
    (h : splitAtStartCode data = (before, some after)) : after.length < data.length := by
  fun_induction splitAtStartCode data generalizing before with
  | case1 rest => simp_all; omega
  | case2 b rest _ b' a' heq ih =>
    simp only [Prod.mk.injEq] at h
    have := @ih b' (by rw [heq, h.2])
    simp only [List.length_cons]
    omega
  | case3 => simp at h

/-- A unit without the zero padding at its end. -/
def trimPadding (unit : Bytes) : Bytes := (unit.reverse.dropWhile (· == 0)).reverse

/-- The units of a stream whose first start code has just been read. A unit that is followed by
another start code loses its padding; the last unit is kept as it stands. -/
def unitsFrom (data : Bytes) : List Bytes :=
  match _h : splitAtStartCode data with
  | (unit, none) => [unit]
  | (unit, some rest) => trimPadding unit :: unitsFrom rest
termination_by data.length
decreasing_by exact length_of_splitAtStartCode _h

/-- The NAL units of a stream, in order. Bytes before the first start code belong to no unit. -/
def units (data : Bytes) : List Bytes :=
  match splitAtStartCode data with
  | (_, none) => []
  | (_, some rest) => unitsFrom rest

/-- The NAL unit types of the non-empty units of a stream, in order. -/
def nalTypes (codec : Codec) (data : Bytes) : List UInt8 :=
  (units data).filterMap fun unit => unit.head?.map codec.nalType

/-- The type of the first unit that is a keyframe, if there is one. -/
def findKeyframe (codec : Codec) (data : Bytes) : Option UInt8 :=
  (nalTypes codec data).find? codec.isKeyframe

/-- Whether some unit is a keyframe. -/
def containsKeyframe (codec : Codec) (data : Bytes) : Bool := (findKeyframe codec data).isSome

/-- The keyframe search without any notion of a unit: the first byte position at which a start
code is followed by the header of a keyframe. -/
def scanKeyframe (codec : Codec) : Bytes → Option UInt8
  | [] => none
  | b :: rest =>
    match b, rest with
    | 0, 0 :: 1 :: header :: _ =>
      let t := codec.nalType header
      if codec.isKeyframe t then some t else scanKeyframe codec rest
    | _, _ => scanKeyframe codec rest

end AnnexB

end VideoReceiver
