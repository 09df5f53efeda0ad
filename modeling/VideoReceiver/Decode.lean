import VideoReceiver.Health.Monitor
import VideoReceiver.Mailbox
import VideoReceiver.Pool

/-!
# The decode stage

The decode stage feeds access units to the decoder, builds a pool of buffers whenever the decoder
announces a format, and posts every decoded picture to the mailbox under the time at which its
access unit was accepted.

## Main definitions

- `DecodeStats`, `DecodeStage`
- `DecodeStage.feed`, `DecodeStage.drain`, `DecodeStage.teardown`: the operations
- `StageResult`: how an operation ended
-/

namespace VideoReceiver

/-- Counters of the decode stage. They have no range here; 64-bit ones agree with them as long as
they are below `2 ^ 64`. -/
structure DecodeStats where
  /-- Access units that the decoder accepted. -/
  submitted : Nat := 0
  /-- Times the decoder was busy. -/
  busyRetries : Nat := 0
  /-- Access units given up because the decoder stayed busy. -/
  droppedUnits : Nat := 0
  decoderErrors : Nat := 0
  /-- Access units that confirmed a keyframe request. -/
  keyframes : Nat := 0
  /-- Pictures posted. -/
  pictures : Nat := 0
  /-- Pictures in buffers that belong to no slot. -/
  unknownBuffers : Nat := 0
  rebuilds : Nat := 0
  deriving DecidableEq, Repr

instance : Inhabited DecodeStats := ⟨{}⟩

/-- An accepted access unit whose picture has not appeared yet. -/
structure InFlight where
  pts : UInt64
  acceptedAt : Instant
  deriving DecidableEq, Repr, Inhabited

/-- How an operation of the decode stage ended. -/
inductive StageResult where
  | done
  | failed (e : ReceiverError)
  /-- The decoder announced more events than its backlog, so that the operation has no end. -/
  | endless
  deriving DecidableEq, Repr

/-- The decode stage over a board in state `hardware`. -/
structure DecodeStage (η : Type) where
  hardware : η
  pool : FramePool := {}
  mailbox : Mailbox := {}
  monitor : LinkMonitor := {}
  inFlight : List InFlight := []
  stats : DecodeStats := {}

namespace DecodeStage

/-- How often an access unit is offered again after the decoder was busy. -/
def maxBusyRetries : Nat := 8

/-- How many accepted access units are remembered. -/
def maxInFlight : Nat := 32

variable {η : Type}

/-- Remembers an accepted access unit; the oldest one is forgotten when there are too many. -/
def accept (s : DecodeStage η) (now : Instant) (pts : UInt64) : DecodeStage η :=
  let kept := if s.inFlight.length = maxInFlight then s.inFlight.drop 1 else s.inFlight
  { s with
    inFlight := kept ++ [⟨pts, now⟩]
    stats := { s.stats with submitted := s.stats.submitted + 1 } }

/-- Counts a decoder error and asks for a keyframe. -/
def onDecoderError (s : DecodeStage η) (now : Instant) : DecodeStage η :=
  { s with
    monitor := (s.monitor.requestIntegrityRepair now).2
    stats := { s.stats with decoderErrors := s.stats.decoderErrors + 1 } }

/-- The time at which the access unit with this timestamp was accepted, which is then forgotten. -/
def takeAcceptTime (s : DecodeStage η) (pts : UInt64) : Option Instant × DecodeStage η :=
  match s.inFlight.find? (·.pts == pts) with
  | some u => (some u.acceptedAt, { s with inFlight := s.inFlight.eraseP (·.pts == pts) })
  | none => (none, s)

/-- Posts a decoded picture. A picture in a buffer of no slot is counted and dropped; one whose
access unit is not remembered is posted under the present time. -/
def present (s : DecodeStage η) (now : Instant) (identity : HardwareIdentity) (pts : UInt64) :
    DecodeStage η :=
  match (s.pool.resolve identity).bind s.pool.slot? with
  | none => { s with stats := { s.stats with unknownBuffers := s.stats.unknownBuffers + 1 } }
  | some slot =>
    let (accepted, s) := s.takeAcceptTime pts
    { s with
      mailbox := s.mailbox.post ⟨slot.surface, accepted.getD now⟩
      monitor := s.monitor.onFrameDecoded now
      stats := { s.stats with pictures := s.stats.pictures + 1 } }

variable [SurfaceAllocator η] [VideoDecoder η]

/-- Replaces the buffers after a format change. The pending frame belongs to the old generation and
is discarded first. -/
def changeFormat (s : DecodeStage η) (format : PictureFormat) :
    Except ReceiverError Unit × DecodeStage η :=
  let (_, mailbox) := s.mailbox.discard
  let (outcome, pool, hardware) := s.pool.rebuild format s.hardware
  let s := { s with mailbox, pool, hardware }
  match outcome with
  | .ok () => (.ok (), { s with stats := { s.stats with rebuilds := s.stats.rebuilds + 1 } })
  | .error e => (.error e, s)

/-- Handles up to `polls` answers of the decoder, until it has no more events or a pool cannot be
built. A failed poll is counted and ends the round. -/
def drainWithin (now : Instant) : (polls : Nat) → DecodeStage η → StageResult × DecodeStage η
  | 0, s => (.endless, s)
  | polls + 1, s =>
    match VideoDecoder.pollEvent s.hardware with
    | (.error _, hardware) => (.done, { s with hardware }.onDecoderError now)
    | (.ok none, hardware) => (.done, { s with hardware })
    | (.ok (some (.picture identity pts)), hardware) =>
      drainWithin now polls ({ s with hardware }.present now identity pts)
    | (.ok (some (.formatChanged format)), hardware) =>
      match { s with hardware }.changeFormat format with
      | (.ok (), s) => drainWithin now polls s
      | (.error e, s) => (.failed e, s)

/-- Handles all events of the decoder. -/
def drain (s : DecodeStage η) (now : Instant) : StageResult × DecodeStage η :=
  drainWithin now (VideoDecoder.backlog s.hardware + 1) s

/-- Offers an access unit up to `attempts` times. While the decoder is busy its events are handled;
an access unit that is never taken is dropped, and one that fails is counted as a decoder error. -/
def submitWithin (now : Instant) (u : AccessUnit) :
    (attempts : Nat) → DecodeStage η → StageResult × DecodeStage η
  | 0, s => (.done, { s with stats := { s.stats with droppedUnits := s.stats.droppedUnits + 1 } })
  | attempts + 1, s =>
    match VideoDecoder.submit s.hardware u.data u.pts with
    | (.ok .accepted, hardware) => (.done, { s with hardware }.accept now u.pts)
    | (.error _, hardware) => (.done, { s with hardware }.onDecoderError now)
    | (.ok .busy, hardware) =>
      let stats := { s.stats with busyRetries := s.stats.busyRetries + 1 }
      match { s with hardware, stats }.drain now with
      | (.done, s) => submitWithin now u attempts s
      | stopped => stopped

/-- Offers an access unit to the decoder. -/
def submit (s : DecodeStage η) (now : Instant) (u : AccessUnit) : StageResult × DecodeStage η :=
  submitWithin now u (maxBusyRetries + 1) s

/-- Looks for an awaited keyframe in an access unit. -/
def observe (s : DecodeStage η) (u : AccessUnit) : DecodeStage η :=
  match s.monitor.observe u.data with
  | (some _, monitor) =>
    { s with monitor, stats := { s.stats with keyframes := s.stats.keyframes + 1 } }
  | (none, monitor) => { s with monitor }

/-- Feeds one access unit: offers it to the decoder, looks for an awaited keyframe in it, and
handles the decoder's events. -/
def feed (s : DecodeStage η) (now : Instant) (u : AccessUnit) : StageResult × DecodeStage η :=
  match s.submit now u with
  | (.done, s) => (s.observe u).drain now
  | stopped => stopped

/-- Gives up the pending frame, the buffers and the accepted access units. -/
def teardown (s : DecodeStage η) : DecodeStage η :=
  let (_, mailbox) := s.mailbox.discard
  let (pool, hardware) := s.pool.teardown s.hardware
  { s with mailbox, pool, hardware, inFlight := [] }

end DecodeStage

end VideoReceiver
