import VideoReceiver.Time

/-!
# Timing of health monitoring and repair

## Main definitions

- `HealthTiming`: the thresholds and cooldowns of the link monitor
- `RepairTiming`: the schedule of keyframe request datagrams
-/

namespace VideoReceiver

/-- The thresholds and cooldowns of the link monitor, with the defaults of the receiver. -/
structure HealthTiming where
  /-- Time between two checks of a running receiver. -/
  tickInterval : Duration := .ofMillis 200
  /-- A link is down once its last packet is older than this. -/
  downAfter : Duration := .ofMillis 1200
  /-- Least time between two requests for lost packets. -/
  gapCooldown : Duration := .ofMillis 500
  /-- A sequence number this far ahead or farther counts as an old one that arrives late. -/
  reorderThreshold : UInt16 := 30000
  /-- A late number replaces a base that is older than this. -/
  rebaseAfter : Duration := .ofMillis 1000
  /-- A decoder is stalled once its last picture is older than this while packets arrive. -/
  stallAfter : Duration := .ofMillis 700
  /-- Packets arrive if the last one is at most this old. -/
  stallPacketWindow : Duration := .ofMillis 500
  /-- Least time between two requests for a stalled decoder. -/
  stallCooldown : Duration := .ofMillis 700
  /-- Least time between two requests for a decoder error. -/
  integrityCooldown : Duration := .ofMillis 350
  /-- Bursts of a request for a link that has come up. -/
  streamUpBursts : Nat := 3
  /-- Bursts of a request for a recording. -/
  recordStartBursts : Nat := 3
  deriving DecidableEq, Repr

instance : Inhabited HealthTiming := ⟨{}⟩

/-- The schedule of keyframe request datagrams, with the defaults of the receiver. -/
structure RepairTiming where
  /-- Datagrams that carry one token. -/
  datagramsPerBurst : Nat := 3
  /-- Time between two datagrams of a burst. -/
  datagramSpacing : Duration := .ofMillis 100
  /-- Time between two bursts. -/
  burstGap : Duration := .ofMillis 100
  /-- Time between two bursts of a request for a recording. -/
  recordBurstGap : Duration := .ofMillis 150
  deriving DecidableEq, Repr

instance : Inhabited RepairTiming := ⟨{}⟩

end VideoReceiver
