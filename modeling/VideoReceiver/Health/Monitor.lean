import VideoReceiver.AccessUnit
import VideoReceiver.Repair.Requester
import VideoReceiver.Rtp.Sequence

/-!
# The link monitor

The monitor watches packets, decoded pictures and decoder errors. It decides whether the link is
up, counts lost packets, and asks for a keyframe when the stream needs one.

## Main definitions

- `LinkState`, `LinkCell`: the published state of the link
- `LinkMonitor`: requester, thresholds and published state
- `LinkMonitor.onPacket`, `LinkMonitor.tick`, `LinkMonitor.onFrameDecoded`,
  `LinkMonitor.requestIntegrityRepair`: what happens to it
- `HealthSnapshot`, `LinkMonitor.snapshot`: a view for users
-/

namespace VideoReceiver

/-- Whether packets arrive. -/
inductive LinkState where
  | up
  | down
  deriving DecidableEq, Repr, Inhabited

/-- The name of a link state. -/
def LinkState.name : LinkState → String
  | up => "up"
  | down => "down"

/-- The published state of the link. Subscribers recognise a change by the count. -/
structure LinkCell where
  state : LinkState := .down
  /-- How often a state has been published. -/
  changes : Nat := 0
  deriving DecidableEq, Repr

namespace LinkCell

instance : Inhabited LinkCell := ⟨{}⟩

/-- Publishes a state; this counts as a change even if the state is the same. -/
def publish (c : LinkCell) (state : LinkState) : LinkCell := ⟨state, c.changes + 1⟩

/-- Publishes a state only if it is another one. -/
def publishIfChanged (c : LinkCell) (state : LinkState) : LinkCell :=
  if c.state = state then c else c.publish state

end LinkCell

/-- What a packet did. -/
structure PacketReport where
  cameUp : Bool := false
  duplicate : Bool := false
  lostPackets : Nat := 0
  gapRequest : Bool := false
  rebased : Bool := false
  deriving DecidableEq, Repr

/-- What a periodic check did. -/
structure TickReport where
  wentDown : Bool := false
  stallRequest : Bool := false
  deriving DecidableEq, Repr

/-- A view of the link's health; ages are in milliseconds. -/
structure HealthSnapshot where
  link : LinkState
  sender : Option Net.Endpoint
  lastPacketAge : Option Nat
  lastDecodedAge : Option Nat
  lastRtpSequence : Option UInt16
  lostPackets : Nat
  streamKeyframePending : Bool
  recordKeyframePending : Bool
  recordRequestDeferred : Bool
  repairEnabled : Bool
  repairSequences : Nat
  deriving DecidableEq, Repr

/-- Watches the link. -/
structure LinkMonitor where
  requester : Requester := {}
  timing : HealthTiming := {}
  link : LinkCell := {}
  deriving DecidableEq, Repr

namespace LinkMonitor

instance : Inhabited LinkMonitor := ⟨{}⟩

/-- The shared health state. -/
def health (m : LinkMonitor) : HealthState := m.requester.health

/-- Replaces the shared health state. -/
def setHealth (m : LinkMonitor) (health : HealthState) : LinkMonitor :=
  { m with requester := { m.requester with health } }

/-- Makes a request whose outcome is of no interest. -/
def send (m : LinkMonitor) (reason : RepairReason) (repeats : Nat) : LinkMonitor :=
  { m with requester := (m.requester.request reason repeats false).2 }

/-- Notes the sender of a packet and makes a deferred recording request now that it is known. -/
def noteSender (m : LinkMonitor) (sender : Net.Endpoint) : LinkMonitor :=
  let m := m.setHealth { m.health with sender := some sender }
  { m with requester := (m.requester.retryDeferred m.timing.recordStartBursts).2 }

/-- The link comes up: a new stream has no sequence base yet and needs a keyframe. -/
def comeUp (m : LinkMonitor) : LinkMonitor :=
  let m := m.setHealth { m.health with streamUp := true }.clearRtpSequence
  { m with link := m.link.publish .up }.send .streamUp m.timing.streamUpBursts

/-- Counts `lost` packets and asks for a keyframe, unless the last request for lost packets is too
recent. The flag says whether a request was made. -/
def onLoss (m : LinkMonitor) (now : Instant) (lost : Nat) : Bool × LinkMonitor :=
  let m := m.setHealth { m.health with lostPackets := m.health.lostPackets + lost }
  if m.requester.enabled then
    match m.health.claim m.health.lastGapRequest now m.timing.gapCooldown with
    | some stamp => (true, (m.setHealth { m.health with lastGapRequest := stamp }).send .rtpGap 1)
    | none => (false, m)
  else (false, m)

/-- Compares a packet's sequence number with the last accepted one. The same number is a
duplicate; a number ahead of it, by less than the reorder threshold, is accepted, and those in
between are lost; any other one is late and is accepted only if the last accepted one is old. -/
def trackSequence (m : LinkMonitor) (now : Instant) (seq : UInt16) : PacketReport × LinkMonitor :=
  match m.health.rtpSequence now with
  | none => ({}, m.setHealth (m.health.setRtpSequence seq now))
  | some (last, age) =>
    let ahead := Rtp.distance seq last
    if ahead = 0 then ({ duplicate := true }, m)
    else if ahead = 1 then ({}, m.setHealth (m.health.setRtpSequence seq now))
    else if ahead < m.timing.reorderThreshold then
      let lost := ahead.toNat - 1
      let (gapRequest, m) := (m.setHealth (m.health.setRtpSequence seq now)).onLoss now lost
      ({ lostPackets := lost, gapRequest }, m)
    else if m.timing.rebaseAfter < age then
      ({ rebased := true }, m.setHealth (m.health.setRtpSequence seq now))
    else ({}, m)

/-- A packet has arrived. -/
def onPacket (m : LinkMonitor) (now : Instant) (sender : Option Net.Endpoint)
    (seq : Option UInt16) : PacketReport × LinkMonitor :=
  let m := m.setHealth (m.health.recordPacket now)
  let m := match sender with
    | some s => m.noteSender s
    | none => m
  let cameUp := !m.health.streamUp
  let m := if cameUp then m.comeUp else m
  match seq with
  | some seq =>
    let (report, m) := m.trackSequence now seq
    ({ report with cameUp }, m)
  | none => ({ cameUp }, m)

/-- An access unit has arrived; it counts as a packet. -/
def onAccessUnit (m : LinkMonitor) (now : Instant) (u : AccessUnit) : PacketReport × LinkMonitor :=
  m.onPacket now u.sender u.rtpSequence

/-- A picture has been decoded. -/
def onFrameDecoded (m : LinkMonitor) (now : Instant) : LinkMonitor :=
  m.setHealth (m.health.recordDecoded now)

/-- The link goes down, and the sequence base is forgotten. -/
def goDown (m : LinkMonitor) : LinkMonitor :=
  let m := m.setHealth { m.health with streamUp := false }.clearRtpSequence
  { m with link := m.link.publish .down }

/-- Whether packets arrive but no picture has been decoded for too long. -/
def isStalled (m : LinkMonitor) (now : Instant) : Bool :=
  match m.health.decodedAge now, m.health.packetAge now with
  | some decoded, some packet =>
    m.timing.stallAfter < decoded && packet ≤ m.timing.stallPacketWindow
  | _, _ => false

/-- The periodic check of a link that is up: it goes down once its last packet is too old, and a
stalled decoder is helped by a keyframe request. -/
def tick (m : LinkMonitor) (now : Instant) : TickReport × LinkMonitor :=
  if !m.health.streamUp then ({}, m)
  else if (m.health.packetAge now).any (m.timing.downAfter < ·) then
    ({ wentDown := true }, m.goDown)
  else if m.isStalled now && m.requester.enabled then
    match m.health.claim m.health.lastStallRequest now m.timing.stallCooldown with
    | some stamp =>
      ({ stallRequest := true },
        (m.setHealth { m.health with lastStallRequest := stamp }).send .decodeStall 1)
    | none => ({}, m)
  else ({}, m)

/-- The decoder has failed: asks for a keyframe if the link is up, unless the last such request is
too recent. The flag says whether a request was made. -/
def requestIntegrityRepair (m : LinkMonitor) (now : Instant) : Bool × LinkMonitor :=
  if m.health.streamUp && m.requester.enabled then
    match m.health.claim m.health.lastIntegrityRequest now m.timing.integrityCooldown with
    | some stamp =>
      (true, (m.setHealth { m.health with lastIntegrityRequest := stamp }).send .integrity 1)
    | none => (false, m)
  else (false, m)

/-- A recording is about to start and needs a keyframe. -/
def requestRecordingKeyframe (m : LinkMonitor) : RequestOutcome × LinkMonitor :=
  let (outcome, requester) := m.requester.request .recordStart m.timing.recordStartBursts true
  (outcome, { m with requester })

/-- Looks for a keyframe in an access unit. -/
def observe (m : LinkMonitor) (data : Bytes) : Option UInt8 × LinkMonitor :=
  let (nalType, requester) := m.requester.observe data
  (nalType, { m with requester })

/-- Sets the kill-switch. -/
def setEnabled (m : LinkMonitor) (enabled : Bool) : LinkMonitor :=
  { m with requester := { m.requester with enabled } }

/-- Forgets the health state without publishing anything. -/
def resetState (m : LinkMonitor) : LinkMonitor := m.setHealth m.health.reset

/-- Starts over: forgets the health state and publishes that the link is down. -/
def reset (m : LinkMonitor) : LinkMonitor :=
  let m := m.resetState
  { m with link := m.link.publishIfChanged .down }

/-- A view of the link's health at the given instant. -/
def snapshot (m : LinkMonitor) (now : Instant) : HealthSnapshot where
  link := if m.health.streamUp then .up else .down
  sender := m.health.sender
  lastPacketAge := (m.health.packetAge now).map Duration.toMillis
  lastDecodedAge := (m.health.decodedAge now).map Duration.toMillis
  lastRtpSequence := (m.health.rtpSequence now).map Prod.fst
  lostPackets := m.health.lostPackets
  streamKeyframePending := m.health.isPending .stream
  recordKeyframePending := m.health.isPending .record
  recordRequestDeferred := m.health.recordDeferred
  repairEnabled := m.requester.enabled
  repairSequences := m.requester.dispatched

end LinkMonitor

end VideoReceiver
