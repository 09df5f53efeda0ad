import VideoReceiver.Proofs.Link.Independence

/-!
# Lost packets

A sender numbers its packets, and of each number the low 16 bits are sent. The monitor compares
these with the last accepted ones, yet it counts lost packets as a receiver does that sees the
numbers themselves: the stored sequence number is that of the greatest number so far, and what is
missing between the first number and the greatest one has been counted as lost. For this no number
may lie too far from the greatest one, and a late number may not come long after it.

## Main definitions

- `FeedAction`: a numbered packet, or something else that happens
- `Unwrapped`: what a receiver knows that sees the numbers themselves
- `Unwrapped.Admits`: how far a number may lie from the greatest one
- `LinkMonitor.Orderly`: a feed of admitted numbers in which the link stays up
- `LinkMonitor.Counted`: what a packet reports and changes, in terms of the numbers themselves

## Main statements

- `LinkMonitor.Tallies.packet`: what one packet reports and preserves
- `LinkMonitor.Tallies.feed`: what a feed preserves
- `LinkMonitor.loss_law`: what is stored, counted and reported
-/

namespace VideoReceiver

/-- What happens to a monitor whose packets are numbered without wrap-around. -/
inductive FeedAction where
  | packet (now : Instant) (sender : Option Net.Endpoint) (number : Nat)
  | other (a : LinkAction)
  deriving DecidableEq, Repr

namespace FeedAction

/-- Of a number the low 16 bits are sent. -/
def action : FeedAction → LinkAction
  | packet now sender number => .packet now sender (some (.ofNat number))
  | other a => a

def number? : FeedAction → Option Nat
  | packet _ _ number => some number
  | other _ => none

end FeedAction

/-- What a receiver knows that sees the numbers themselves. -/
structure Unwrapped where
  /-- The greatest number so far. -/
  greatest : Nat
  /-- When the greatest number arrived for the first time. -/
  since : Instant
  /-- How many packets have raised the greatest number. -/
  raises : Nat := 0
  deriving DecidableEq, Repr

namespace Unwrapped

def next (u : Unwrapped) : FeedAction → Unwrapped
  | .packet now _ number => if u.greatest < number then ⟨number, now, u.raises + 1⟩ else u
  | .other _ => u

def nextAll (u : Unwrapped) (feed : List FeedAction) : Unwrapped := feed.foldl next u

theorem next_of_le {u : Unwrapped} {number : Nat} (h : number ≤ u.greatest) (now : Instant)
    (sender : Option Net.Endpoint) : u.next (.packet now sender number) = u :=
  if_neg (Nat.not_lt.2 h)

theorem next_of_lt {u : Unwrapped} {number : Nat} (h : u.greatest < number) (now : Instant)
    (sender : Option Net.Endpoint) :
    u.next (.packet now sender number) = ⟨number, now, u.raises + 1⟩ :=
  if_pos h

/-- The greatest number is at most as old as a base may be that is kept when a number is late. Its
age is counted in whole milliseconds since the origin. -/
def Recent (u : Unwrapped) (timing : HealthTiming) (origin now : Instant) : Prop :=
  Duration.ofMillis ((now.since origin).toMillis - (u.since.since origin).toMillis) ≤
    timing.rebaseAfter

/-- How far a number may lie from the greatest one: not at all; ahead of it by less than the reorder
threshold; or behind it, by as much as the threshold leaves of the range, while it is recent. -/
def Admits (u : Unwrapped) (timing : HealthTiming) (origin now : Instant) (number : Nat) : Prop :=
  number = u.greatest ∨
    (u.greatest < number ∧ number - u.greatest < timing.reorderThreshold.toNat) ∨
    (number < u.greatest ∧ u.greatest - number ≤ 65536 - timing.reorderThreshold.toNat ∧
      u.Recent timing origin now)

instance (u : Unwrapped) (timing : HealthTiming) (origin now : Instant) :
    Decidable (u.Recent timing origin now) := inferInstanceAs (Decidable (_ ≤ _))

instance (u : Unwrapped) (timing : HealthTiming) (origin now : Instant) (number : Nat) :
    Decidable (u.Admits timing origin now number) := inferInstanceAs (Decidable (_ ∨ _))

/-- In whole milliseconds the greatest number is no older than a threshold of whole milliseconds
if it is no older by the clock. -/
theorem recent_of_since_le {u : Unwrapped} {timing : HealthTiming} {limit : Nat}
    (hlimit : timing.rebaseAfter = .ofMillis limit) (origin : Instant) {now : Instant}
    (h : now.since u.since ≤ timing.rebaseAfter) : u.Recent timing origin now := by
  unfold Recent
  rw [hlimit] at h ⊢
  simp only [Instant.since, Duration.toMillis, Duration.ofMillis, Instant, Duration] at *
  omega

/-- The greatest number is the maximum of all. -/
theorem max?_eq_greatest (u : Unwrapped) (feed : List FeedAction) :
    (u.greatest :: feed.filterMap FeedAction.number?).max? = some (u.nextAll feed).greatest := by
  rw [List.max?_cons', Option.some_inj]
  induction feed generalizing u with
  | nil => rfl
  | cons a feed ih =>
    rw [nextAll, List.foldl_cons, ← nextAll, ← ih (u.next a)]
    cases a with
    | other a => rfl
    | packet now sender number =>
      have hmax : (u.next (.packet now sender number)).greatest = max u.greatest number := by
        rcases Nat.lt_or_ge u.greatest number with hlt | hle
        · rw [next_of_lt hlt, Nat.max_eq_right (Nat.le_of_lt hlt)]
        · rw [next_of_le hle, Nat.max_eq_left hle]
      rw [hmax]
      rfl

end Unwrapped

/-! ## Distances -/

namespace Rtp

/-- A number that is ahead by less than the range is found to be so. -/
theorem toNat_distance_of_le {last number : Nat} (hle : last ≤ number)
    (hnear : number - last < 65536) :
    (distance (.ofNat number) (.ofNat last)).toNat = number - last := by
  rw [toNat_distance_ofNat]
  omega

theorem distance_ne_zero_of_lt {last number : Nat} (hlt : last < number)
    (hnear : number - last < 65536) : distance (.ofNat number) (.ofNat last) ≠ 0 := by
  intro hzero
  have hahead := toNat_distance_of_le (Nat.le_of_lt hlt) hnear
  rw [hzero] at hahead
  exact absurd hahead.symm (Nat.sub_ne_zero_of_lt hlt)

/-- A number that is behind by less than the range seems to be ahead by what is left of it. -/
theorem toNat_distance_of_lt {last number : Nat} (hlt : number < last)
    (hnear : last - number < 65536) :
    (distance (.ofNat number) (.ofNat last)).toNat = 65536 - (last - number) := by
  rw [toNat_distance_ofNat]
  omega

end Rtp

namespace LinkMonitor

variable {tokens : Nat → Token}

/-! ## One sequence number -/

section TrackSequence

variable {m : LinkMonitor} {now : Instant} {last seq : UInt16} {age : Duration}

/-- A sequence number has been accepted, and `lost` packets in front of it are counted as lost. -/
structure Advanced (m : LinkMonitor) (now : Instant) (seq : UInt16) (lost : Nat)
    (report : PacketReport) (m' : LinkMonitor) : Prop where
  report_eq : report = { lostPackets := lost, gapRequest := report.gapRequest }
  rtpBase_eq : m'.health.rtpBase = .pack seq (m.health.stamp now)
  lostPackets_eq : m'.health.lostPackets = m.health.lostPackets + lost

theorem advanced_setRtpSequence (m : LinkMonitor) (now : Instant) (seq : UInt16) :
    Advanced m now seq 0 {} (m.setHealth (m.health.setRtpSequence seq now)) := by
  -- stated for any base, so that the packed word is never unfolded
  have hset : ∀ rtpBase, (m.setHealth { m.health with rtpBase }).health.rtpBase = rtpBase ∧
      (m.setHealth { m.health with rtpBase }).health.lostPackets = m.health.lostPackets := fun _ =>
    ⟨rfl, rfl⟩
  exact ⟨rfl, (hset _).1, (hset _).2⟩

theorem lostPackets_onLoss (m : LinkMonitor) (now : Instant) (lost : Nat) :
    (m.onLoss now lost).2.health.lostPackets = m.health.lostPackets + lost := by
  have htracked := congrArg (fun r => r.2.health.lostPackets) (m.tracked_onLoss now lost)
  rw [onLoss_of_disabled (m := m.tracked) rfl] at htracked
  exact htracked.symm

theorem Advanced.onLoss {m₁ : LinkMonitor} (h : Advanced m now seq 0 {} m₁) (lost : Nat) :
    Advanced m now seq lost { lostPackets := lost, gapRequest := (m₁.onLoss now lost).1 }
      (m₁.onLoss now lost).2 where
  report_eq := rfl
  rtpBase_eq := (sameBase_onLoss m₁ now lost).2.trans h.rtpBase_eq
  lostPackets_eq := by rw [lostPackets_onLoss, h.lostPackets_eq, Nat.add_zero]

theorem trackSequence_of_none (h : m.health.rtpSequence now = none) (seq : UInt16) :
    m.trackSequence now seq = ({}, m.setHealth (m.health.setRtpSequence seq now)) := by
  rw [trackSequence, h]

theorem trackSequence_of_duplicate (h : m.health.rtpSequence now = some (last, age))
    (hahead : Rtp.distance seq last = 0) :
    m.trackSequence now seq = ({ duplicate := true }, m) := by
  simp only [trackSequence, h, hahead, if_pos]

theorem advanced_trackSequence (h : m.health.rtpSequence now = some (last, age))
    (hahead : Rtp.distance seq last ≠ 0)
    (hnear : Rtp.distance seq last < m.timing.reorderThreshold) :
    Advanced m now seq ((Rtp.distance seq last).toNat - 1) (m.trackSequence now seq).1
      (m.trackSequence now seq).2 := by
  have hset := m.advanced_setRtpSequence now seq
  simp only [trackSequence, h]
  generalize Rtp.distance seq last = ahead at hahead hnear ⊢
  by_cases hnext : ahead = 1
  · rw [if_neg hahead, if_pos hnext, hnext]
    exact hset
  · rw [if_neg hahead, if_neg hnext, if_pos hnear]
    exact hset.onLoss _

theorem trackSequence_of_late (h : m.health.rtpSequence now = some (last, age))
    (hthreshold : 2 ≤ m.timing.reorderThreshold)
    (hfar : m.timing.reorderThreshold ≤ Rtp.distance seq last)
    (hage : age ≤ m.timing.rebaseAfter) : m.trackSequence now seq = ({}, m) := by
  simp only [trackSequence, h]
  generalize Rtp.distance seq last = ahead at hfar ⊢
  have htwo : 2 ≤ ahead := UInt16.le_trans hthreshold hfar
  have hduplicate : ahead ≠ 0 := by
    rintro rfl
    exact absurd htwo (by decide)
  have hnext : ahead ≠ 1 := by
    rintro rfl
    exact absurd htwo (by decide)
  rw [if_neg hduplicate, if_neg hnext, if_neg (UInt16.not_lt.2 hfar), if_neg (Nat.not_lt.2 hage)]

end TrackSequence

/-! ## One action -/

/-- What numbers are compared with and how many packets are lost has not changed. -/
structure SameAccount (m m' : LinkMonitor) : Prop where
  timing_eq : m'.timing = m.timing
  origin_eq : m'.health.origin = m.health.origin
  rtpBase_eq : m'.health.rtpBase = m.health.rtpBase
  lostPackets_eq : m'.health.lostPackets = m.health.lostPackets

theorem SameAccount.of_tracked {m m' : LinkMonitor} (h : m'.tracked = m.tracked) :
    SameAccount m m' := by
  have htiming := congrArg LinkMonitor.timing h
  have horigin := congrArg (fun m => m.health.origin) h
  have hbase := congrArg (fun m => m.health.rtpBase) h
  have hlost := congrArg (fun m => m.health.lostPackets) h
  exact ⟨htiming, horigin, hbase, hlost⟩

theorem sameAccount_arrive {m : LinkMonitor} (hup : m.health.streamUp = true) (now : Instant)
    (sender : Option Net.Endpoint) : SameAccount m (m.arrive now sender) := by
  have hreceived := m.received_arrive now sender
  have hhealth := m.withoutFlags_arrive now sender
  rw [if_pos hup] at hhealth
  have hbase := congrArg HealthState.rtpBase hhealth
  have hlost := congrArg HealthState.lostPackets hhealth
  exact ⟨hreceived.timing_eq, hreceived.origin_eq, hbase, hlost⟩

theorem lostPackets_tick (m : LinkMonitor) (now : Instant) :
    (m.tick now).2.health.lostPackets = m.health.lostPackets := by
  have hsend : ∀ (m : LinkMonitor) (reason : RepairReason) (repeats : Nat),
      (m.send reason repeats).health.lostPackets = m.health.lostPackets := by
    intro m reason repeats
    have hsame := congrArg HealthState.lostPackets (m.withoutFlags_send reason repeats)
    exact hsame
  unfold tick
  split
  · rfl
  · split
    · rfl
    · split
      · split
        · exact hsend _ _ _
        · rfl
      · rfl

/-- Whatever happens besides numbered packets changes nothing of the account while the link stays
up. -/
theorem sameAccount_act {m : LinkMonitor} (hup : m.health.streamUp = true) {a : LinkAction}
    (ha : a.isNumbered = false) (hup' : (m.act tokens a).2.health.streamUp = true) :
    SameAccount m (m.act tokens a).2 := by
  cases a with
  | packet now sender seq =>
    cases seq with
    | some seq => cases ha
    | none =>
      simp only [act, onPacket_eq]
      exact sameAccount_arrive hup now sender
  | tick now =>
    obtain ⟨-, hfallen, -⟩ | ⟨-, hsame, -⟩ := m.tick_cases now
    · simp only [act, hfallen.streamUp_eq] at hup'
      cases hup'
    · exact ⟨hsame.1.timing_eq, hsame.1.origin_eq, hsame.2, m.lostPackets_tick now⟩
  | frameDecoded now =>
    have hdecoded : ∀ lastDecoded, SameAccount m (m.setHealth { m.health with lastDecoded }) :=
      fun _ => ⟨rfl, rfl, rfl, rfl⟩
    exact hdecoded _
  | reset => cases hup'
  | _ => exact .of_tracked (tracked_act_of_not_isTracking tokens m rfl)

/-! ## What is stored and counted -/

/-- Times are in the range in which a base keeps them. -/
def InRange (origin now : Instant) : Prop := now.since origin < .ofMillis (2 ^ 40 - 1)

instance (origin now : Instant) : Decidable (InRange origin now) :=
  inferInstanceAs (Decidable (_ < _))

namespace InRange

variable {s : HealthState} {now : Instant}

theorem toMillis_lt (h : InRange s.origin now) :
    (now.since s.origin).toMillis + 1 < Rtp.Base.stampRange := by
  simp only [InRange, Instant.since, Duration.ofMillis, Duration.toMillis, Instant, Duration,
    Rtp.Base.stampRange] at h ⊢
  omega

theorem stamp_eq (h : InRange s.origin now) :
    s.stamp now = (now.since s.origin).toMillis + 1 :=
  Nat.mod_eq_of_lt (Nat.lt_trans h.toMillis_lt (by decide))

theorem stamp_lt (h : InRange s.origin now) : s.stamp now < Rtp.Base.stampRange :=
  h.stamp_eq ▸ h.toMillis_lt

end InRange

/-- An action that keeps to what is assumed of a feed. -/
def Fits (m : LinkMonitor) (u : Unwrapped) : FeedAction → Prop
  | .packet now _ number =>
    InRange m.health.origin now ∧ u.Admits m.timing m.health.origin now number
  | .other a => a.isNumbered = false

instance (m : LinkMonitor) (u : Unwrapped) : (a : FeedAction) → Decidable (m.Fits u a)
  | .packet _ _ _ => inferInstanceAs (Decidable (_ ∧ _))
  | .other _ => inferInstanceAs (Decidable (_ = _))

/-- The numbers are admitted, and the link stays up. -/
def Orderly (tokens : Nat → Token) (m : LinkMonitor) (u : Unwrapped) : List FeedAction → Prop
  | [] => True
  | a :: feed =>
    m.Fits u a ∧ (m.act tokens a.action).2.health.streamUp = true ∧
      Orderly tokens (m.act tokens a.action).2 (u.next a) feed

/-- Computed along the feed. -/
instance decidableOrderly (tokens : Nat → Token) :
    (m : LinkMonitor) → (u : Unwrapped) → (feed : List FeedAction) →
      Decidable (m.Orderly tokens u feed)
  | _, _, [] => .isTrue trivial
  | m, u, a :: feed =>
    haveI := decidableOrderly tokens (m.act tokens a.action).2 (u.next a) feed
    inferInstanceAs (Decidable (_ ∧ _ ∧ _))

theorem orderly_append {m : LinkMonitor} {u : Unwrapped} {before later : List FeedAction} :
    m.Orderly tokens u (before ++ later) ↔
      m.Orderly tokens u before ∧
        (m.actAll tokens (before.map FeedAction.action)).Orderly tokens (u.nextAll before)
          later := by
  induction before generalizing m u with
  | nil => exact ⟨fun h => ⟨trivial, h⟩, And.right⟩
  | cons a before ih =>
    simp only [List.cons_append, Orderly, ih, and_assoc]
    rfl

/-- What is stored and counted once the numbers after `first` have led to `u`; `m₁` is the monitor
that has accepted `first`. -/
structure Tallies (m₁ : LinkMonitor) (first : Nat) (u : Unwrapped) (m : LinkMonitor) : Prop where
  timing_eq : m.timing = m₁.timing
  origin_eq : m.health.origin = m₁.health.origin
  streamUp : m.health.streamUp = true
  since_inRange : InRange m.health.origin u.since
  rtpBase_eq : m.health.rtpBase = .pack (.ofNat u.greatest) (m.health.stamp u.since)
  lostPackets_eq : m.health.lostPackets + u.raises + first = m₁.health.lostPackets + u.greatest

/-- What a packet reports and changes, in terms of the numbers themselves. -/
structure Counted (u : Unwrapped) (number : Nat) (m : LinkMonitor) (report : PacketReport)
    (m' : LinkMonitor) : Prop where
  cameUp_eq : report.cameUp = false
  rebased_eq : report.rebased = false
  duplicate_eq : report.duplicate = decide (number = u.greatest)
  report_eq : report.lostPackets = number - u.greatest - 1
  lostPackets_eq : m'.health.lostPackets = m.health.lostPackets + report.lostPackets
  rtpBase_eq : number ≤ u.greatest → m'.health.rtpBase = m.health.rtpBase

theorem counted_of_duplicate (m : LinkMonitor) (u : Unwrapped) :
    Counted u u.greatest m { duplicate := true } m where
  cameUp_eq := rfl
  rebased_eq := rfl
  duplicate_eq := (decide_eq_true rfl).symm
  report_eq := by rw [Nat.sub_self]
  lostPackets_eq := rfl
  rtpBase_eq := fun _ => rfl

theorem counted_of_late (m : LinkMonitor) {u : Unwrapped} {number : Nat}
    (hlt : number < u.greatest) : Counted u number m {} m where
  cameUp_eq := rfl
  rebased_eq := rfl
  duplicate_eq := (decide_eq_false (Nat.ne_of_lt hlt)).symm
  report_eq := by rw [Nat.sub_eq_zero_of_le (Nat.le_of_lt hlt)]
  lostPackets_eq := rfl
  rtpBase_eq := fun _ => rfl

theorem Advanced.counted {m m' : LinkMonitor} {now : Instant} {seq : UInt16}
    {report : PacketReport} {u : Unwrapped} {number : Nat}
    (h : Advanced m now seq (number - u.greatest - 1) report m') (hlt : u.greatest < number) :
    Counted u number m report m' where
  cameUp_eq := by rw [h.report_eq]
  rebased_eq := by rw [h.report_eq]
  duplicate_eq := by rw [h.report_eq, decide_eq_false (Nat.ne_of_gt hlt)]
  report_eq := by rw [h.report_eq]
  lostPackets_eq := by rw [h.lostPackets_eq, h.report_eq]
  rtpBase_eq := fun hle => absurd hle (Nat.not_le.2 hlt)

theorem Counted.of_arrived {u : Unwrapped} {number : Nat} {m arrived m' : LinkMonitor}
    {report : PacketReport} (h : Counted u number arrived report m') (hsame : SameAccount m arrived)
    (hup : m.health.streamUp = true) :
    Counted u number m { report with cameUp := !m.health.streamUp } m' where
  cameUp_eq := by rw [hup]; rfl
  rebased_eq := h.rebased_eq
  duplicate_eq := h.duplicate_eq
  report_eq := h.report_eq
  lostPackets_eq := h.lostPackets_eq.trans (by rw [hsame.lostPackets_eq])
  rtpBase_eq := fun hle => (h.rtpBase_eq hle).trans hsame.rtpBase_eq

namespace Tallies

variable {m₁ m m' : LinkMonitor} {first number : Nat} {u : Unwrapped} {now : Instant}

theorem rtpSequence_eq (h : Tallies m₁ first u m) (t : Instant) :
    m.health.rtpSequence t =
      some (.ofNat u.greatest, .ofMillis (m.health.stamp t - m.health.stamp u.since)) := by
  rw [HealthState.rtpSequence, h.rtpBase_eq, Rtp.Base.unpack?_pack,
    Nat.mod_eq_of_lt h.since_inRange.stamp_lt]
  rfl

theorem age_le (h : Tallies m₁ first u m) (htime : InRange m.health.origin now)
    (hrecent : u.Recent m.timing m.health.origin now) :
    Duration.ofMillis (m.health.stamp now - m.health.stamp u.since) ≤ m.timing.rebaseAfter := by
  rw [htime.stamp_eq, h.since_inRange.stamp_eq, Nat.add_sub_add_right]
  exact hrecent

theorem of_sameAccount (h : Tallies m₁ first u m) (hsame : SameAccount m m')
    (hup : m'.health.streamUp = true) : Tallies m₁ first u m' where
  timing_eq := hsame.timing_eq.trans h.timing_eq
  origin_eq := hsame.origin_eq.trans h.origin_eq
  streamUp := hup
  since_inRange := hsame.origin_eq ▸ h.since_inRange
  rtpBase_eq := by
    rw [hsame.rtpBase_eq, h.rtpBase_eq, HealthState.stamp_eq_of_origin_eq hsame.origin_eq]
  lostPackets_eq := hsame.lostPackets_eq ▸ h.lostPackets_eq

theorem advance (h : Tallies m₁ first u m) {report : PacketReport}
    (hadvanced : Advanced m now (.ofNat number) (number - u.greatest - 1) report m')
    (hsame : SameLink m m') (hlt : u.greatest < number) (htime : InRange m.health.origin now) :
    Tallies m₁ first ⟨number, now, u.raises + 1⟩ m' where
  timing_eq := hsame.timing_eq.trans h.timing_eq
  origin_eq := hsame.origin_eq.trans h.origin_eq
  streamUp := hsame.streamUp_eq.trans h.streamUp
  since_inRange := hsame.origin_eq ▸ htime
  rtpBase_eq := by rw [hadvanced.rtpBase_eq, HealthState.stamp_eq_of_origin_eq hsame.origin_eq]
  lostPackets_eq := by
    have hbefore := h.lostPackets_eq
    have hlost := hadvanced.lostPackets_eq
    simp only
    omega

/-- One admitted number. -/
theorem trackSequence (h : Tallies m₁ first u m) (hthreshold : 2 ≤ m.timing.reorderThreshold)
    (htime : InRange m.health.origin now)
    (hadmits : u.Admits m.timing m.health.origin now number) (sender : Option Net.Endpoint) :
    Counted u number m (m.trackSequence now (.ofNat number)).1
        (m.trackSequence now (.ofNat number)).2 ∧
      Tallies m₁ first (u.next (.packet now sender number))
        (m.trackSequence now (.ofNat number)).2 := by
  have hbase := h.rtpSequence_eq now
  have htwo : 2 ≤ m.timing.reorderThreshold.toNat := UInt16.le_iff_toNat_le.1 hthreshold
  obtain rfl | ⟨hlt, hahead⟩ | ⟨hlt, hbehind, hrecent⟩ := hadmits
  · -- the greatest number again
    rw [trackSequence_of_duplicate hbase (Rtp.distance_self _),
      Unwrapped.next_of_le (Nat.le_refl _)]
    exact ⟨counted_of_duplicate m u, h⟩
  · -- a greater one
    have hnear := Nat.lt_trans hahead m.timing.reorderThreshold.toNat_lt
    have hdistance := Rtp.toNat_distance_of_le (Nat.le_of_lt hlt) hnear
    have hadvanced := advanced_trackSequence hbase (Rtp.distance_ne_zero_of_lt hlt hnear)
      (UInt16.lt_iff_toNat_lt.2 (hdistance ▸ hahead))
    rw [hdistance] at hadvanced
    rw [Unwrapped.next_of_lt hlt]
    exact ⟨hadvanced.counted hlt,
      h.advance hadvanced (m.sameLink_trackSequence now _) hlt htime⟩
  · -- a smaller one
    have hdistance := Rtp.toNat_distance_of_lt hlt (by omega)
    have hfar : m.timing.reorderThreshold ≤ Rtp.distance (.ofNat number) (.ofNat u.greatest) :=
      UInt16.le_iff_toNat_le.2 (by omega)
    rw [trackSequence_of_late hbase hthreshold hfar (h.age_le htime hrecent),
      Unwrapped.next_of_le (Nat.le_of_lt hlt)]
    exact ⟨counted_of_late m hlt, h⟩

/-- One packet of a feed. -/
theorem packet (h : Tallies m₁ first u m) (hthreshold : 2 ≤ m.timing.reorderThreshold)
    {sender : Option Net.Endpoint} (hfits : m.Fits u (.packet now sender number)) :
    Counted u number m (m.onPacket now sender (some (.ofNat number))).1
        (m.onPacket now sender (some (.ofNat number))).2 ∧
      Tallies m₁ first (u.next (.packet now sender number))
        (m.onPacket now sender (some (.ofNat number))).2 := by
  have hsame := sameAccount_arrive h.streamUp now sender
  have harrived := h.of_sameAccount hsame (m.received_arrive now sender).streamUp
  obtain ⟨htime, hadmits⟩ := hfits
  rw [← hsame.origin_eq] at htime
  rw [← hsame.origin_eq, ← hsame.timing_eq] at hadmits
  rw [← hsame.timing_eq] at hthreshold
  obtain ⟨hcounted, htallies⟩ := harrived.trackSequence hthreshold htime hadmits sender
  simp only [onPacket_eq]
  exact ⟨hcounted.of_arrived hsame h.streamUp, htallies⟩

/-- One action of a feed. -/
theorem act (h : Tallies m₁ first u m) (hthreshold : 2 ≤ m.timing.reorderThreshold)
    {a : FeedAction} (hfits : m.Fits u a)
    (hup : (m.act tokens a.action).2.health.streamUp = true) :
    Tallies m₁ first (u.next a) (m.act tokens a.action).2 := by
  cases a with
  | packet now sender number => exact (h.packet hthreshold hfits).2
  | other a => exact h.of_sameAccount (sameAccount_act h.streamUp hfits hup) hup

/-- A feed is counted as a receiver does that sees the numbers themselves. -/
theorem feed (h : Tallies m₁ first u m) (hthreshold : 2 ≤ m₁.timing.reorderThreshold)
    {feed : List FeedAction} (horderly : m.Orderly tokens u feed) :
    Tallies m₁ first (u.nextAll feed) (m.actAll tokens (feed.map FeedAction.action)) := by
  induction feed generalizing m u with
  | nil => exact h
  | cons a feed ih =>
    obtain ⟨hfits, hup, hrest⟩ := horderly
    exact ih (h.act (h.timing_eq ▸ hthreshold) hfits hup) hrest

end Tallies

/-- The first number of a stream becomes the base, and nothing counts as lost. -/
theorem tallies_first {m : LinkMonitor} {now : Instant}
    (hempty : m.health.rtpSequence now = none) (htime : InRange m.health.origin now)
    (sender : Option Net.Endpoint) (first : Nat) :
    let m₁ := (m.onPacket now sender (some (.ofNat first))).2
    (m.onPacket now sender (some (.ofNat first))).1 = { cameUp := !m.health.streamUp } ∧
      m₁.health.lostPackets = m.health.lostPackets ∧ Tallies m₁ first ⟨first, now, 0⟩ m₁ := by
  have hreceived := m.received_arrive now sender
  have hhealth := m.withoutFlags_arrive now sender
  have hlost : (m.arrive now sender).health.lostPackets = m.health.lostPackets := by
    have hsame := congrArg HealthState.lostPackets hhealth
    exact hsame
  have hbase : (m.arrive now sender).health.rtpBase =
      if m.health.streamUp then m.health.rtpBase else .empty := by
    have hsame := congrArg HealthState.rtpBase hhealth
    exact hsame
  have hnone : (m.arrive now sender).health.rtpSequence now = none := by
    rw [HealthState.rtpSequence, Option.map_eq_none_iff] at hempty ⊢
    rw [hbase]
    split
    · exact hempty
    · exact Rtp.Base.unpack?_empty
  have hadvanced := (m.arrive now sender).advanced_setRtpSequence now (.ofNat first)
  have hsame := (m.arrive now sender).sameLink_trackSequence now (.ofNat first)
  have hpacket := m.onPacket_eq now sender (some (.ofNat first))
  simp only [trackSequence_of_none hnone] at hsame hpacket
  rw [← hreceived.origin_eq] at htime
  rw [hpacket]
  generalize (m.arrive now sender).setHealth _ = m₁ at hadvanced hsame ⊢
  refine ⟨rfl, hadvanced.lostPackets_eq.trans hlost, rfl, rfl, ?_, ?_, ?_, rfl⟩
  · exact hsame.streamUp_eq.trans hreceived.streamUp
  · exact hsame.origin_eq ▸ htime
  · rw [hadvanced.rtpBase_eq, HealthState.stamp_eq_of_origin_eq hsame.origin_eq]

/-- **Lost packets are counted as by a receiver that sees the numbers themselves.** A monitor with no
base accepts the number `first`, and a feed follows in which every number is admitted and the link
stays up. After each part of the feed the stored number is that of the greatest one so far, with the
stamp of its first arrival, and the total has grown by what the greatest number is ahead of `first`,
less one for each packet that has raised it. Every packet reports its own share of the total. A
duplicate and a late packet add nothing and leave the base alone, and no packet reports a new base.

The times may come in any order. A base is as old as it is in whole milliseconds; this is no more
than a threshold of whole milliseconds if the base is no older by the clock. -/
theorem loss_law (tokens : Nat → Token) (m : LinkMonitor) (now : Instant)
    (sender : Option Net.Endpoint) (first : Nat) (feed : List FeedAction)
    (hthreshold : 2 ≤ m.timing.reorderThreshold) (hempty : m.health.rtpSequence now = none)
    (htime : InRange m.health.origin now)
    (horderly : (m.onPacket now sender (some (.ofNat first))).2.Orderly tokens ⟨first, now, 0⟩
      feed) :
    let m₁ := (m.onPacket now sender (some (.ofNat first))).2
    let monitor := fun before : List FeedAction =>
      m₁.actAll tokens (before.map FeedAction.action)
    let unwrapped := Unwrapped.nextAll ⟨first, now, 0⟩
    -- the first packet is the base of the count
    (m.onPacket now sender (some (.ofNat first))).1 = { cameUp := !m.health.streamUp } ∧
    m₁.health.lostPackets = m.health.lostPackets ∧
    -- after each part of the feed
    (∀ before later, feed = before ++ later →
      (first :: before.filterMap FeedAction.number?).max? = some (unwrapped before).greatest ∧
      (∀ t, (monitor before).health.rtpSequence t =
        some (.ofNat (unwrapped before).greatest,
          .ofMillis ((monitor before).health.stamp t -
            (monitor before).health.stamp (unwrapped before).since))) ∧
      (monitor before).health.lostPackets + (unwrapped before).raises + first =
        m₁.health.lostPackets + (unwrapped before).greatest) ∧
    -- each packet of it
    (∀ before now sender number later, feed = before ++ .packet now sender number :: later →
      Counted (unwrapped before) number (monitor before)
        ((monitor before).onPacket now sender (some (.ofNat number))).1
        ((monitor before).onPacket now sender (some (.ofNat number))).2) ∧
    -- the age of the base by the clock
    (∀ limit, m.timing.rebaseAfter = .ofMillis limit → ∀ (u : Unwrapped) (t : Instant),
      t.since u.since ≤ m.timing.rebaseAfter → u.Recent m.timing m.health.origin t) := by
  intro m₁ monitor unwrapped
  obtain ⟨hreport, hlost, htallies⟩ := tallies_first hempty htime sender first
  have hthreshold₁ : 2 ≤ m₁.timing.reorderThreshold := by
    rw [show m₁.timing = m.timing from (m.received_onPacket now sender _).timing_eq]
    exact hthreshold
  refine ⟨hreport, hlost, fun before later heq => ?_,
    fun before now sender number later heq => ?_,
    fun limit hlimit u t hage => Unwrapped.recent_of_since_le hlimit m.health.origin hage⟩
  · subst heq
    have hbefore := htallies.feed hthreshold₁ (orderly_append.1 horderly).1
    exact ⟨Unwrapped.max?_eq_greatest ⟨first, now, 0⟩ before, hbefore.rtpSequence_eq,
      hbefore.lostPackets_eq⟩
  · subst heq
    obtain ⟨hfirst, hfits, -⟩ := orderly_append.1 horderly
    have hbefore := htallies.feed hthreshold₁ hfirst
    exact (hbefore.packet (hbefore.timing_eq ▸ hthreshold₁) hfits).1

/-- The numbers wrap around, one comes twice, and two come late. -/
theorem loss_law_of_wrapping_numbers :
    let feed : List FeedAction := [.packet 5000000 none 65537, .other (.tick 9000000),
      .packet 10000000 none 65537, .packet 12000000 none 65535, .packet 15000000 none 65539]
    let m₁ := (onPacket {} 0 none (some (.ofNat 65534))).2
    let m := m₁.actAll Token.counting (feed.map FeedAction.action)
    m₁.Orderly Token.counting ⟨65534, 0, 0⟩ (feed ++ [.packet 16000000 none 65538]) ∧
      m.health.lostPackets = 3 ∧ (∀ t, (m.health.rtpSequence t).map Prod.fst = some 3) ∧
      (m.onPacket 16000000 none (some (.ofNat 65538))).2.health.rtpBase = m.health.rtpBase := by
  intro feed m₁ m
  have horderly : m₁.Orderly Token.counting ⟨65534, 0, 0⟩
      (feed ++ [.packet 16000000 none 65538]) := by
    decide +kernel +revert
  have hunwrapped : Unwrapped.nextAll ⟨65534, 0, 0⟩ feed = ⟨65539, 15000000, 2⟩ := by
    decide +revert
  obtain ⟨-, hfirst, htallies, hpackets, -⟩ := loss_law Token.counting {} 0 none 65534
    (feed ++ [.packet 16000000 none 65538]) (by decide) (by decide +kernel) (by decide) horderly
  obtain ⟨-, hbase, hlost⟩ := htallies feed _ rfl
  have hlate := (hpackets feed _ _ _ [] rfl).rtpBase_eq
  rw [hunwrapped] at hbase hlost hlate
  change m.health.lostPackets + 2 + 65534 = m₁.health.lostPackets + 65539 at hlost
  change m₁.health.lostPackets = 0 at hfirst
  change ∀ t, m.health.rtpSequence t = some (.ofNat 65539, _) at hbase
  change 65538 ≤ 65539 →
    (m.onPacket 16000000 none (some (.ofNat 65538))).2.health.rtpBase = m.health.rtpBase at hlate
  refine ⟨horderly, by omega, fun t => ?_, hlate (by decide)⟩
  rw [hbase t]
  rfl

end LinkMonitor

end VideoReceiver
