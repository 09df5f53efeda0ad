import VideoReceiver.Hardware

/-!
# A scripted board

An allocator and a decoder for tests. Both follow a script of failures and events, and every call
is written to one log.

## Main definitions

- `Board`: script, state and log
- `HardwareCall`: an entry of the log
- `Board.pushEvent`, `Board.changeFormat`, `Board.emitPicture`: the decoder's script
-/

namespace VideoReceiver.Bench

/-- What became of a submitted access unit. -/
inductive SubmitAnswer where
  | accepted
  | busy
  | failed
  deriving DecidableEq, Repr

/-- A call that the board has answered; the result is absent when the call failed. -/
inductive HardwareCall where
  | allocate (size : Nat) (result : Option (AllocationHandle × HardwareIdentity))
  | bind (handle : AllocationHandle) (result : Option SurfaceId)
  | unbind (surface : SurfaceId)
  | release (handle : AllocationHandle)
  | submit (length : Nat) (pts : UInt64) (answer : SubmitAnswer)
  | pollFailed
  | register (buffers : List ExternalBuffer) (failed : Bool)
  deriving DecidableEq, Repr

/-- An allocator and a decoder that follow a script. -/
structure Board where
  /-- Everything that was called, in order. -/
  log : List HardwareCall := []
  lastHandle : UInt64 := 0
  lastSurface : UInt32 := 0
  live : List AllocationHandle := []
  bound : List SurfaceId := []
  /-- The largest number of surfaces that were bound at once. -/
  maxBound : Nat := 0
  lastSize : Option Nat := none
  allocations : Nat := 0
  bindings : Nat := 0
  /-- Allocation fails once this many have succeeded. -/
  failAllocationAfter : Option Nat := none
  /-- Binding fails once this many have succeeded. -/
  failBindingAfter : Option Nat := none
  /-- The allocation that repeats the identity of an earlier one. -/
  duplicateIdentityAt : Option Nat := none
  /-- Identities that the next allocations have instead of their own. -/
  identities : List HardwareIdentity := []
  /-- Events that have not been polled. -/
  events : List DecoderEvent := []
  /-- How many submissions find the decoder busy. -/
  busy : Nat := 0
  /-- How many submissions fail; they do so before the decoder is busy. -/
  failSubmits : Nat := 0
  failPolls : Nat := 0
  failRegisters : Nat := 0
  /-- The timestamps of the accepted access units. -/
  submitted : List UInt64 := []
  registered : List ExternalBuffer := []
  registrations : Nat := 0
  /-- The format that the decoder announces by itself; without one it decodes nothing. -/
  autoFormat : Option PictureFormat := none
  announced : Bool := false
  /-- Timestamps of pictures that wait for buffers. -/
  awaiting : List UInt64 := []
  /-- How many pictures have been decoded. -/
  pictures : Nat := 0
  deriving DecidableEq, Repr

namespace Board

instance : Inhabited Board := ⟨{}⟩

/-- Adds an entry to the log. -/
def note (b : Board) (call : HardwareCall) : Board := { b with log := b.log ++ [call] }

/-! ## Allocator -/

/-- The identity that the next allocation has by itself: handles are counted from `0x1001`, and a
duplicate goes back by the number of allocations so far. -/
def nextIdentity (b : Board) : HardwareIdentity :=
  let own := 0x1000 + b.lastHandle + 1
  if b.duplicateIdentityAt = some b.allocations then ⟨own - UInt64.ofNat b.allocations⟩ else ⟨own⟩

/-- Allocates memory of a size. -/
def allocate (b : Board) (size : Nat) : Except ReceiverError Allocation × Board :=
  if b.failAllocationAfter.any (· ≤ b.allocations) then
    (.error (.poolAllocation b.allocations "fake heap exhausted" none),
      b.note (.allocate size none))
  else
    let identity := b.identities.headD b.nextIdentity
    let handle : AllocationHandle := ⟨b.lastHandle + 1⟩
    let b := { b with
      allocations := b.allocations + 1
      lastHandle := b.lastHandle + 1
      live := b.live ++ [handle]
      lastSize := some size
      identities := b.identities.drop 1 }
    (.ok ⟨handle, identity, size⟩, b.note (.allocate size (some (handle, identity))))

/-- Binds memory to the next surface. -/
def bindSurface (b : Board) (a : Allocation) : Except ReceiverError SurfaceId × Board :=
  if b.failBindingAfter.any (· ≤ b.bindings) then
    (.error (.surfaceBinding b.bindings (some "fake plane rejected buffer")),
      b.note (.bind a.handle none))
  else
    let surface : SurfaceId := ⟨b.lastSurface + 1⟩
    let bound := b.bound ++ [surface]
    let b := { b with
      bindings := b.bindings + 1
      lastSurface := b.lastSurface + 1
      bound
      maxBound := max b.maxBound bound.length }
    (.ok surface, b.note (.bind a.handle (some surface)))

/-- Unbinds a surface. -/
def unbindSurface (b : Board) (surface : SurfaceId) : Board :=
  { b with bound := b.bound.filter (· != surface) }.note (.unbind surface)

/-- Releases memory. -/
def release (b : Board) (handle : AllocationHandle) : Board :=
  { b with live := b.live.filter (· != handle) }.note (.release handle)

/-! ## Decoder -/

/-- Puts an event at the end of the queue. -/
def pushEvent (b : Board) (e : DecoderEvent) : Board := { b with events := b.events ++ [e] }

/-- The stream changes its format: the registered buffers are forgotten, and the new format is
announced. -/
def changeFormat (b : Board) (format : PictureFormat) : Board :=
  { b with autoFormat := some format, registered := [] }.pushEvent (.formatChanged format)

/-- Decodes a picture into the next buffer in turn; without buffers the picture waits. -/
def emitPicture (b : Board) (pts : UInt64) : Board :=
  match b.registered[b.pictures % b.registered.length]? with
  | some buffer =>
    { b with pictures := b.pictures + 1 }.pushEvent (.picture buffer.identity pts)
  | none => { b with awaiting := b.awaiting ++ [pts] }

/-- Announces the format, once. -/
def announce (b : Board) (format : PictureFormat) : Board :=
  if b.announced then b else { b with announced := true }.pushEvent (.formatChanged format)

/-- Submits an access unit. -/
def submit (b : Board) (data : Bytes) (pts : UInt64) : Except ReceiverError SubmitOutcome × Board :=
  if 0 < b.failSubmits then
    (.error (.decoder "submit" none),
      { b with failSubmits := b.failSubmits - 1 }.note (.submit data.length pts .failed))
  else if 0 < b.busy then
    (.ok .busy, { b with busy := b.busy - 1 }.note (.submit data.length pts .busy))
  else
    let b := { b with submitted := b.submitted ++ [pts] }
    let b := match b.autoFormat with
      | some format => (b.announce format).emitPicture pts
      | none => b
    (.ok .accepted, b.note (.submit data.length pts .accepted))

/-- Polls the next event. -/
def pollEvent (b : Board) : Except ReceiverError (Option DecoderEvent) × Board :=
  if 0 < b.failPolls then
    (.error (.decoder "poll" none), { b with failPolls := b.failPolls - 1 }.note .pollFailed)
  else (.ok b.events.head?, { b with events := b.events.drop 1 })

/-- Registers the buffers of a generation in place of earlier ones; pictures that waited for
buffers are decoded. -/
def registerBuffers (b : Board) (buffers : List ExternalBuffer) :
    Except ReceiverError Unit × Board :=
  if 0 < b.failRegisters then
    (.error (.bufferRegistration buffers.length none),
      { b with failRegisters := b.failRegisters - 1 }.note (.register buffers true))
  else
    let waiting := b.awaiting
    let b := { b with registered := buffers, registrations := b.registrations + 1, awaiting := [] }
    (.ok (), (waiting.foldl emitPicture b).note (.register buffers false))

instance : SurfaceAllocator Board where
  allocate := allocate
  bindSurface b a _ := bindSurface b a
  unbindSurface := unbindSurface
  release := release

instance : VideoDecoder Board where
  submit := submit
  pollEvent := pollEvent
  registerBuffers := registerBuffers
  backlog b := b.events.length + b.awaiting.length

end Board

end VideoReceiver.Bench
