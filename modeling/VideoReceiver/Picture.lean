/-!
# Picture formats and buffer tokens

What the decoder, the allocator and the display exchange: the geometry of decoded pictures, and
opaque tokens for memory, buffers and display surfaces.

## Main definitions

- `PixelFormat`, `PictureFormat`, `PictureFormat.bufferSize`
- `HardwareIdentity`, `SurfaceId`, `AllocationHandle`, with the text of the first two
-/

namespace VideoReceiver

/-- The layout of a decoded picture's samples. -/
inductive PixelFormat where
  | nv12
  | nv16
  | nv15
  | yuv420p
  | unknown (code : UInt32)
  deriving DecidableEq, Repr, Inhabited

/-- The geometry of one generation of picture buffers. -/
structure PictureFormat where
  width : UInt32
  height : UInt32
  horStride : UInt32
  verStride : UInt32
  pixelFormat : PixelFormat
  deriving DecidableEq, Repr, Inhabited

namespace PictureFormat

/-- A format without padding: the strides are the width and the height. -/
def unpadded (width height : UInt32) (pixelFormat : PixelFormat) : PictureFormat :=
  ⟨width, height, width, height, pixelFormat⟩

/-- The same format with other strides. -/
def withStrides (f : PictureFormat) (horStride verStride : UInt32) : PictureFormat :=
  { f with horStride, verStride }

/-- The bytes that one picture needs: two per sample of the strided area, in 64-bit arithmetic
that wraps around. -/
def bufferSize (f : PictureFormat) : Nat :=
  f.horStride.toNat * 2 * f.verStride.toNat % 0x10000000000000000

end PictureFormat

/-- The decoder's name for a buffer. -/
structure HardwareIdentity where
  value : UInt64
  deriving DecidableEq, Repr, Inhabited

/-- The display's name for a bound surface. -/
structure SurfaceId where
  value : UInt32
  deriving DecidableEq, Repr, Inhabited

/-- The allocator's name for a piece of memory. -/
structure AllocationHandle where
  value : UInt64
  deriving DecidableEq, Repr, Inhabited

/-- An identity is written in lowercase hexadecimal with a `0x` in front and no padding. -/
def HardwareIdentity.text (i : HardwareIdentity) : String :=
  "0x" ++ String.ofList (Nat.toDigits 16 i.value.toNat)

/-- A surface is written as `fb` and its decimal number. -/
def SurfaceId.text (s : SurfaceId) : String := "fb" ++ Nat.repr s.value.toNat

end VideoReceiver
