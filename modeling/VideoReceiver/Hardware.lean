import VideoReceiver.AnnexB
import VideoReceiver.Error

/-!
# Hardware interfaces

The receiver drives three devices. Each is a state with operations that may fail; the allocator
and the decoder of one board may share their state.

## Main definitions

- `SurfaceAllocator`: memory and display surfaces
- `VideoDecoder`: coded data in, format changes and pictures out
- `DisplaySink`: presents surfaces
-/

namespace VideoReceiver

/-- A piece of memory for one picture. -/
structure Allocation where
  handle : AllocationHandle
  identity : HardwareIdentity
  size : Nat
  deriving DecidableEq, Repr, Inhabited

/-- A buffer that the decoder may write pictures into. -/
structure ExternalBuffer where
  index : Nat
  identity : HardwareIdentity
  size : Nat
  deriving DecidableEq, Repr, Inhabited

/-- Whether the decoder took an access unit. -/
inductive SubmitOutcome where
  | accepted
  | busy
  deriving DecidableEq, Repr

/-- What the decoder announces. -/
inductive DecoderEvent where
  | formatChanged (format : PictureFormat)
  | picture (identity : HardwareIdentity) (pts : UInt64)
  deriving DecidableEq, Repr

/-- A device that hands out picture memory and binds it to display surfaces. -/
class SurfaceAllocator (η : Type) where
  allocate : η → Nat → Except ReceiverError Allocation × η
  bindSurface : η → Allocation → PictureFormat → Except ReceiverError SurfaceId × η
  unbindSurface : η → SurfaceId → η
  release : η → AllocationHandle → η

/-- A device that decodes access units into registered buffers. -/
class VideoDecoder (η : Type) where
  submit : η → Bytes → UInt64 → Except ReceiverError SubmitOutcome × η
  pollEvent : η → Except ReceiverError (Option DecoderEvent) × η
  registerBuffers : η → List ExternalBuffer → Except ReceiverError Unit × η
  /-- How many events the decoder can still announce before it is given another access unit. -/
  backlog : η → Nat

/-- A device that presents surfaces. -/
class DisplaySink (κ : Type) where
  commit : κ → SurfaceId → Except ReceiverError Unit × κ

end VideoReceiver
