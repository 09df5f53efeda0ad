import VideoReceiver.Hardware

/-!
# The frame pool

The pool owns one generation of picture buffers at a time: buffers of one geometry, each bound to
a display surface, all of them registered with the decoder. A format change replaces the whole
generation. The old one is torn down before anything is allocated, and a generation that cannot be
completed is torn down as well, so the pool holds a complete generation or none.

## Main definitions

- `BufferSlot`, `FramePool`
- `FramePool.rebuild`, `FramePool.teardown`: the two changes of generation
- `FramePool.resolve`: from the decoder's name of a buffer to its slot
-/

namespace VideoReceiver

/-- One buffer of the current generation. -/
structure BufferSlot where
  index : Nat
  identity : HardwareIdentity
  surface : SurfaceId
  handle : AllocationHandle
  deriving DecidableEq, Repr, Inhabited

/-- The current generation of buffers. -/
structure FramePool where
  /-- The number of buffers in a generation. -/
  capacity : Nat := 24
  slots : List BufferSlot := []
  format : Option PictureFormat := none
  /-- How many generations have been completed. -/
  generation : Nat := 0
  deriving DecidableEq, Repr

namespace FramePool

instance : Inhabited FramePool := ⟨{}⟩

/-- The number of buffers in a generation unless another one is asked for. -/
def defaultCapacity : Nat := 24

variable {η : Type} [SurfaceAllocator η]

/-- Gives the buffers back in slot order; each surface is unbound before its memory is released. -/
def releaseSlots (h : η) (slots : List BufferSlot) : η :=
  slots.foldl
    (fun h s => SurfaceAllocator.release (SurfaceAllocator.unbindSurface h s.surface) s.handle) h

/-- Gives up the current generation. -/
def teardown (p : FramePool) (h : η) : FramePool × η :=
  ({ p with slots := [], format := none }, releaseSlots h p.slots)

/-- Adds `missing` slots to those that are `built`. An allocation whose identity already belongs to
a slot, or which cannot be bound, is released again. The slots that were built are returned also
when the build fails. -/
def buildSlots (format : PictureFormat) :
    (missing : Nat) → (built : List BufferSlot) → η →
      Except ReceiverError Unit × List BufferSlot × η
  | 0, built, h => (.ok (), built, h)
  | missing + 1, built, h =>
    match SurfaceAllocator.allocate h format.bufferSize with
    | (.error e, h) => (.error e, built, h)
    | (.ok a, h) =>
      match built.find? (·.identity == a.identity) with
      | some owner =>
        let reason := "hardware identity " ++ a.identity.text ++ " already belongs to slot "
          ++ Nat.repr owner.index
        (.error (.poolAllocation built.length reason none), built,
          SurfaceAllocator.release h a.handle)
      | none =>
        match SurfaceAllocator.bindSurface h a format with
        | (.error e, h) => (.error e, built, SurfaceAllocator.release h a.handle)
        | (.ok surface, h) =>
          buildSlots format missing (built ++ [⟨built.length, a.identity, surface, a.handle⟩]) h

/-- What the decoder is told about a slot. -/
def externalBuffer (format : PictureFormat) (s : BufferSlot) : ExternalBuffer :=
  ⟨s.index, s.identity, format.bufferSize⟩

/-- Replaces the current generation by one of the given format. When a buffer cannot be had or the
decoder refuses the set, everything is given back and the pool is left empty. -/
def rebuild [VideoDecoder η] (p : FramePool) (format : PictureFormat) (h : η) :
    Except ReceiverError Unit × FramePool × η :=
  let (p, h) := p.teardown h
  let (outcome, built, h) := buildSlots format p.capacity [] h
  let (outcome, h) :=
    match outcome with
    | .ok () => VideoDecoder.registerBuffers h (built.map (externalBuffer format))
    | .error e => (.error e, h)
  match outcome with
  | .ok () =>
    (.ok (), { p with slots := built, format := some format, generation := p.generation + 1 }, h)
  | .error e =>
    let (p, h) := { p with slots := built }.teardown h
    (.error e, p, h)

/-- The index of the slot with the given identity. -/
def resolve (p : FramePool) (identity : HardwareIdentity) : Option Nat :=
  p.slots.findIdx? (·.identity == identity)

/-- The slot at an index. -/
def slot? (p : FramePool) (index : Nat) : Option BufferSlot := p.slots[index]?

end FramePool

end VideoReceiver
