import VideoReceiver.Health.Pending
import VideoReceiver.Net.Address
import VideoReceiver.Repair.Reason
import VideoReceiver.Rtp.Base
import VideoReceiver.Time

/-!
# Health state

The facts that link monitoring and keyframe repair share. Times are kept as stamps: whole
milliseconds since the state's origin, plus one, so that zero means "never".

## Main definitions

- `HealthState`: the facts
- `HealthState.stamp`, `HealthState.age`, `HealthState.claim`: stamps, ages and cooldowns
- `HealthState.reset`: everything but the generations is forgotten
-/

namespace VideoReceiver

/-- Stamps and ages are 64-bit numbers of milliseconds. -/
def stampRange : Nat := 0x10000000000000000

/-- What is known about the link, and which confirmations are awaited. -/
structure HealthState where
  /-- The instant that stamps are counted from. -/
  origin : Instant := 0
  streamUp : Bool := false
  lastPacket : Nat := 0
  lastDecoded : Nat := 0
  rtpBase : Rtp.Base := .empty
  lastIntegrityRequest : Nat := 0
  lastGapRequest : Nat := 0
  lastStallRequest : Nat := 0
  streamPending : PendingSlot := {}
  recordPending : PendingSlot := {}
  /-- A recording request waits for the sender to become known. -/
  recordDeferred : Bool := false
  /-- How many packets have been lost. Unlike stamps and generations the number has no range here; a
  64-bit counter agrees with it as long as it is below `2 ^ 64`. -/
  lostPackets : Nat := 0
  sender : Option Net.Endpoint := none
  deriving DecidableEq, Repr

namespace HealthState

instance : Inhabited HealthState := ⟨{}⟩

/-- Forgets everything except the generations of the two flags and what confirmed them. -/
def reset (s : HealthState) : HealthState :=
  { origin := s.origin
    streamPending := s.streamPending.clear
    recordPending := s.recordPending.clear }

/-- The stamp of an instant: whole milliseconds since the origin, plus one, as a 64-bit number.
Instants before the origin count as the origin. -/
def stamp (s : HealthState) (now : Instant) : Nat :=
  ((now.since s.origin).toMillis + 1) % stampRange

/-- The time since the given stamp, in whole milliseconds; `none` if it never was set. -/
def age (s : HealthState) (stamp : Nat) (now : Instant) : Option Duration :=
  if stamp = 0 then none else some (.ofMillis (s.stamp now - stamp))

/-- Whether a request may be made now, given the stamp of the last one: there was none, or it is
at least the cooldown old. The result is the stamp of the new request. -/
def claim (s : HealthState) (last : Nat) (now : Instant) (cooldown : Duration) : Option Nat :=
  let stamp := s.stamp now
  if last = 0 ∨ cooldown.toMillis ≤ stamp - last then some stamp else none

/-! ## The link -/

/-- Records the arrival of a packet. -/
def recordPacket (s : HealthState) (now : Instant) : HealthState :=
  { s with lastPacket := s.stamp now }

/-- The time since the last packet. -/
def packetAge (s : HealthState) (now : Instant) : Option Duration := s.age s.lastPacket now

/-- Records a decoded picture. -/
def recordDecoded (s : HealthState) (now : Instant) : HealthState :=
  { s with lastDecoded := s.stamp now }

/-- The time since the last decoded picture. -/
def decodedAge (s : HealthState) (now : Instant) : Option Duration := s.age s.lastDecoded now

/-! ## Sequence numbers -/

/-- The last accepted sequence number and its age. -/
def rtpSequence (s : HealthState) (now : Instant) : Option (UInt16 × Duration) :=
  s.rtpBase.unpack?.map fun (seq, stamp) => (seq, .ofMillis (s.stamp now - stamp))

/-- Accepts a sequence number. -/
def setRtpSequence (s : HealthState) (seq : UInt16) (now : Instant) : HealthState :=
  { s with rtpBase := .pack seq (s.stamp now) }

/-- Forgets the sequence number. -/
def clearRtpSequence (s : HealthState) : HealthState := { s with rtpBase := .empty }

/-! ## Awaited confirmations -/

/-- The slot of a flag. -/
def pendingSlot (s : HealthState) : PendingFlag → PendingSlot
  | .stream => s.streamPending
  | .record => s.recordPending

/-- Replaces the slot of a flag. -/
def setPendingSlot (s : HealthState) (flag : PendingFlag) (slot : PendingSlot) : HealthState :=
  match flag with
  | .stream => { s with streamPending := slot }
  | .record => { s with recordPending := slot }

/-- Raises a flag and returns the generation of the raise. -/
def raise (s : HealthState) (flag : PendingFlag) : Nat × HealthState :=
  let (generation, slot) := (s.pendingSlot flag).raise
  (generation, s.setPendingSlot flag slot)

/-- Lowers a flag that a keyframe confirms; the first part says whether it was up. -/
def confirm (s : HealthState) (flag : PendingFlag) : Bool × HealthState :=
  let (up, slot) := (s.pendingSlot flag).confirm
  (up, s.setPendingSlot flag slot)

/-- Lowers a flag whose request of the given generation gives up. -/
def withdraw (s : HealthState) (flag : PendingFlag) (generation : Nat) : HealthState :=
  s.setPendingSlot flag ((s.pendingSlot flag).withdraw generation)

/-- Whether a flag is up. -/
def isPending (s : HealthState) (flag : PendingFlag) : Bool := (s.pendingSlot flag).raised

/-- Whether the request of the given generation still waits. -/
def isAwaiting (s : HealthState) (flag : PendingFlag) (generation : Nat) : Bool :=
  (s.pendingSlot flag).isAwaiting generation

/-- The generation of a flag's latest raise. -/
def pendingGeneration (s : HealthState) (flag : PendingFlag) : Nat :=
  (s.pendingSlot flag).generation

end HealthState

end VideoReceiver
