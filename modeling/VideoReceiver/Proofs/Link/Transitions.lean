import Mathlib.Data.List.Chain
import Mathlib.Data.List.Induction
import VideoReceiver.Proofs.Link.Steps

/-!
# How the link goes up and down

The link comes up with the first packet and goes down when a check finds the last packet too old, or
when the monitor is reset. So it comes up and goes down in turn. While it is down no sequence number
is stored; the first number of a new stream is therefore compared with nothing.

## Main definitions

- `lastPacketTime?`: when the last packet has arrived
- `LinkMonitor.Effect`: what an action does to the link
- `LinkMonitor.edges`: how the link changes in a run
- `LinkMonitor.Consistent`: the forms in which the link's state is kept agree

## Main statements

- `HealthState.age_stamp`: ages are off by less than a millisecond
- `LinkMonitor.effect_act`: every action has one of the effects
- `LinkMonitor.Consistent.isChain_edges`: the link comes up and goes down in turn
- `LinkMonitor.link_transitions`: how the link of a fresh monitor goes up and down
-/

namespace VideoReceiver

def lastPacketTime? (actions : List LinkAction) : Option Instant :=
  (actions.filterMap LinkAction.packetTime?).getLast?

theorem lastPacketTime?_append_packet (actions : List LinkAction) (now : Instant)
    (sender : Option Net.Endpoint) (seq : Option UInt16) :
    lastPacketTime? (actions ++ [.packet now sender seq]) = some now := by
  simp [lastPacketTime?, LinkAction.packetTime?]

theorem lastPacketTime?_append_of_none (actions : List LinkAction) {a : LinkAction}
    (h : a.packetTime? = none) : lastPacketTime? (actions ++ [a]) = lastPacketTime? actions := by
  simp [lastPacketTime?, h]

theorem Instant.toMillis_since_le {origin t now : Instant} (hle : t ≤ now) :
    (t.since origin).toMillis ≤ (now.since origin).toMillis :=
  Nat.div_le_div_right (Nat.sub_le_sub_right hle _)

namespace HealthState

/-- Ages are counted in whole milliseconds, so that they are off by less than one. -/
theorem age_stamp (s : HealthState) {t now : Instant} (horigin : s.origin ≤ t) (hle : t ≤ now)
    (hrange : (now.since s.origin).toMillis + 1 < stampRange) :
    ∃ age, s.age (s.stamp t) now = some age ∧
      now - t < age + Duration.ofMillis 1 ∧ age < now - t + Duration.ofMillis 1 := by
  have hnow : s.stamp now = (now.since s.origin).toMillis + 1 := Nat.mod_eq_of_lt hrange
  have hmono : (t.since s.origin).toMillis ≤ (now.since s.origin).toMillis :=
    Instant.toMillis_since_le hle
  have ht : s.stamp t = (t.since s.origin).toMillis + 1 :=
    Nat.mod_eq_of_lt (Nat.lt_of_le_of_lt (Nat.succ_le_succ hmono) hrange)
  refine ⟨.ofMillis (s.stamp now - s.stamp t), ?_, ?_⟩
  · rw [age, if_neg (by rw [ht]; exact Nat.succ_ne_zero _)]
  · rw [hnow, ht]
    simp only [Instant.since, Duration.toMillis, Duration.ofMillis, Instant, Duration] at *
    omega

theorem stamp_eq_of_origin_eq {s s' : HealthState} (h : s'.origin = s.origin) (t : Instant) :
    s'.stamp t = s.stamp t := by
  rw [stamp, stamp, h]

theorem rtpSequence_of_empty {s : HealthState} (h : s.rtpBase = .empty) (now : Instant) :
    s.rtpSequence now = none := by
  simp [rtpSequence, h]

end HealthState

namespace LinkMonitor

variable {tokens : Nat → Token}

/-! ## What decides about the link -/

/-- Nothing that decides whether the link is up has changed. -/
structure SameLink (m m' : LinkMonitor) : Prop where
  link_eq : m'.link = m.link
  timing_eq : m'.timing = m.timing
  origin_eq : m'.health.origin = m.health.origin
  streamUp_eq : m'.health.streamUp = m.health.streamUp
  lastPacket_eq : m'.health.lastPacket = m.health.lastPacket

theorem SameLink.refl (m : LinkMonitor) : SameLink m m := ⟨rfl, rfl, rfl, rfl, rfl⟩

theorem SameLink.trans {m₁ m₂ m₃ : LinkMonitor} (h₁ : SameLink m₁ m₂) (h₂ : SameLink m₂ m₃) :
    SameLink m₁ m₃ where
  link_eq := h₂.link_eq.trans h₁.link_eq
  timing_eq := h₂.timing_eq.trans h₁.timing_eq
  origin_eq := h₂.origin_eq.trans h₁.origin_eq
  streamUp_eq := h₂.streamUp_eq.trans h₁.streamUp_eq
  lastPacket_eq := h₂.lastPacket_eq.trans h₁.lastPacket_eq

/-- Nothing of the link has changed, and the sequence base is the same. -/
def SameBase (m m' : LinkMonitor) : Prop :=
  SameLink m m' ∧ m'.health.rtpBase = m.health.rtpBase

theorem SameBase.of_withoutFlags {m m' : LinkMonitor} (hlink : m'.link = m.link)
    (htiming : m'.timing = m.timing) (h : m'.health.withoutFlags = m.health.withoutFlags) :
    SameBase m m' := by
  simp only [HealthState.withoutFlags, HealthState.mk.injEq] at h
  obtain ⟨horigin, hup, hpacket, -, hbase, -⟩ := h
  exact ⟨⟨hlink, htiming, horigin, hup, hpacket⟩, hbase⟩

theorem SameBase.refl (m : LinkMonitor) : SameBase m m := ⟨.refl m, rfl⟩

theorem SameBase.trans {m₁ m₂ m₃ : LinkMonitor} (h₁ : SameBase m₁ m₂) (h₂ : SameBase m₂ m₃) :
    SameBase m₁ m₃ :=
  ⟨h₁.1.trans h₂.1, h₂.2.trans h₁.2⟩

theorem SameBase.send {m m' : LinkMonitor} (h : SameBase m m') (reason : RepairReason)
    (repeats : Nat) : SameBase m (m'.send reason repeats) :=
  h.trans (.of_withoutFlags rfl rfl (m'.withoutFlags_send reason repeats))

theorem sameBase_onLoss (m : LinkMonitor) (now : Instant) (lost : Nat) :
    SameBase m (m.onLoss now lost).2 := by
  have hlost : SameBase m
      (m.setHealth { m.health with lostPackets := m.health.lostPackets + lost }) :=
    ⟨⟨rfl, rfl, rfl, rfl, rfl⟩, rfl⟩
  have hclaimed : ∀ (m₁ : LinkMonitor) (stamp : Nat), SameBase m₁
      (m₁.setHealth { m₁.health with lastGapRequest := stamp }) := fun _ _ =>
    ⟨⟨rfl, rfl, rfl, rfl, rfl⟩, rfl⟩
  simp only [onLoss]
  generalize m.setHealth { m.health with lostPackets := m.health.lostPackets + lost } = m₁
    at hlost ⊢
  rcases m₁.requester.enabled with _ | _
  · exact hlost
  · rcases m₁.health.claim m₁.health.lastGapRequest now m₁.timing.gapCooldown with _ | stamp
    · exact hlost
    · exact (hlost.trans (hclaimed m₁ stamp)).send _ _

theorem sameLink_trackSequence (m : LinkMonitor) (now : Instant) (seq : UInt16) :
    SameLink m (m.trackSequence now seq).2 := by
  have hbase : ∀ rtpBase, SameLink m (m.setHealth { m.health with rtpBase }) := fun _ =>
    ⟨rfl, rfl, rfl, rfl, rfl⟩
  -- stated for any base, so that the packed word is never unfolded
  have hset : SameLink m (m.setHealth (m.health.setRtpSequence seq now)) := hbase _
  simp only [trackSequence]
  rcases m.health.rtpSequence now with _ | ⟨last, age⟩
  · exact hset
  dsimp only
  generalize Rtp.distance seq last = ahead
  by_cases hduplicate : ahead = 0
  · rw [if_pos hduplicate]
    exact .refl m
  by_cases hnext : ahead = 1
  · rw [if_neg hduplicate, if_pos hnext]
    exact hset
  by_cases hgap : ahead < m.timing.reorderThreshold
  · rw [if_neg hduplicate, if_neg hnext, if_pos hgap]
    exact hset.trans (sameBase_onLoss _ now _).1
  rw [if_neg hduplicate, if_neg hnext, if_neg hgap]
  split
  · exact hset
  · exact .refl m

theorem trackSequence_of_empty {m : LinkMonitor} (h : m.health.rtpBase = .empty) (now : Instant)
    (seq : UInt16) :
    m.trackSequence now seq = ({}, m.setHealth (m.health.setRtpSequence seq now)) := by
  simp [trackSequence, HealthState.rtpSequence_of_empty h]

/-- A packet has arrived: the link is up. -/
structure Received (m : LinkMonitor) (now : Instant) (m' : LinkMonitor) : Prop where
  link_eq : m'.link = if m.health.streamUp then m.link else m.link.publish .up
  timing_eq : m'.timing = m.timing
  origin_eq : m'.health.origin = m.health.origin
  streamUp : m'.health.streamUp = true
  lastPacket_eq : m'.health.lastPacket = m.health.stamp now

theorem Received.of_sameLink {m m' m'' : LinkMonitor} {now : Instant} (h : Received m now m')
    (hsame : SameLink m' m'') : Received m now m'' where
  link_eq := hsame.link_eq.trans h.link_eq
  timing_eq := hsame.timing_eq.trans h.timing_eq
  origin_eq := hsame.origin_eq.trans h.origin_eq
  streamUp := hsame.streamUp_eq.trans h.streamUp
  lastPacket_eq := hsame.lastPacket_eq.trans h.lastPacket_eq

theorem received_arrive (m : LinkMonitor) (now : Instant) (sender : Option Net.Endpoint) :
    Received m now (m.arrive now sender) := by
  have hhealth := m.withoutFlags_arrive now sender
  simp only [HealthState.withoutFlags, HealthState.mk.injEq] at hhealth
  obtain ⟨horigin, hup, hpacket, -⟩ := hhealth
  refine ⟨?_, ?_, horigin, hup, hpacket⟩
  · rcases h : m.health.streamUp with _ | _
    · cases sender <;> simp only [arrive, h] <;> rfl
    · cases sender <;> simp only [arrive, h] <;> rfl
  · rcases h : m.health.streamUp with _ | _
    · cases sender <;> simp only [arrive, h] <;> rfl
    · cases sender <;> simp only [arrive, h] <;> rfl

theorem rtpBase_arrive {m : LinkMonitor} (h : m.health.rtpBase = .empty) (now : Instant)
    (sender : Option Net.Endpoint) : (m.arrive now sender).health.rtpBase = .empty := by
  have hbase := congrArg HealthState.rtpBase (m.withoutFlags_arrive now sender)
  simpa [HealthState.withoutFlags, h] using hbase

theorem received_onPacket (m : LinkMonitor) (now : Instant) (sender : Option Net.Endpoint)
    (seq : Option UInt16) : Received m now (m.onPacket now sender seq).2 := by
  rw [onPacket_eq]
  cases seq with
  | none => exact m.received_arrive now sender
  | some seq => exact (m.received_arrive now sender).of_sameLink (sameLink_trackSequence _ now seq)

theorem cameUp_onPacket (m : LinkMonitor) (now : Instant) (sender : Option Net.Endpoint)
    (seq : Option UInt16) : (m.onPacket now sender seq).1.cameUp = !m.health.streamUp := by
  rw [onPacket_eq]
  cases seq <;> rfl

/-- The first sequence number of a stream is neither a duplicate nor late, and none before it is
lost. -/
theorem onPacket_of_empty {m : LinkMonitor} (h : m.health.rtpBase = .empty) (now : Instant)
    (sender : Option Net.Endpoint) (seq : UInt16) :
    (m.onPacket now sender (some seq)).1 = { cameUp := !m.health.streamUp } := by
  rw [onPacket_eq]
  dsimp only
  rw [trackSequence_of_empty (rtpBase_arrive h now sender)]

/-- The link is down. -/
structure Fallen (m m' : LinkMonitor) : Prop where
  state_eq : m'.link.state = .down
  timing_eq : m'.timing = m.timing
  origin_eq : m'.health.origin = m.health.origin
  streamUp_eq : m'.health.streamUp = false
  rtpBase_eq : m'.health.rtpBase = .empty

theorem fallen_reset (m : LinkMonitor) : Fallen m m.reset := by
  refine ⟨?_, rfl, rfl, rfl, rfl⟩
  simp only [reset, LinkCell.publishIfChanged]
  split
  · next hdown => exact hdown
  · rfl

theorem fallen_goDown (m : LinkMonitor) : Fallen m m.goDown := ⟨rfl, rfl, rfl, rfl, rfl⟩

/-- A check takes the link down exactly if it is up and its last packet is too old. -/
theorem tick_cases (m : LinkMonitor) (now : Instant) :
    ((m.tick now).1.wentDown = true ∧ Fallen m (m.tick now).2 ∧ m.health.streamUp = true ∧
        ∃ age, m.health.packetAge now = some age ∧ m.timing.downAfter < age) ∨
      ((m.tick now).1.wentDown = false ∧ SameBase m (m.tick now).2 ∧
        (m.health.streamUp = true →
          ∀ age, m.health.packetAge now = some age → age ≤ m.timing.downAfter)) := by
  have hclaimed : ∀ lastStallRequest,
      SameBase m (m.setHealth { m.health with lastStallRequest }) := fun _ =>
    ⟨⟨rfl, rfl, rfl, rfl, rfl⟩, rfl⟩
  rcases hup : m.health.streamUp with _ | _
  · have htick : m.tick now = ({}, m) := by simp [tick, hup]
    rw [htick]
    exact .inr ⟨rfl, .refl m, nofun⟩
  by_cases hold : (m.health.packetAge now).any (m.timing.downAfter < ·) = true
  · have htick : m.tick now = ({ wentDown := true }, m.goDown) := by simp [tick, hup, hold]
    rw [htick]
    refine .inl ⟨rfl, m.fallen_goDown, rfl, ?_⟩
    simpa [Option.any_eq_true] using hold
  · have hrecent : ∀ age, m.health.packetAge now = some age → age ≤ m.timing.downAfter := by
      simpa [Option.any_eq_true] using hold
    refine .inr ?_
    unfold tick
    rw [if_neg (by simp [hup]), if_neg hold]
    split
    · split
      · exact ⟨rfl, (hclaimed _).send _ _, fun _ => hrecent⟩
      · exact ⟨rfl, .refl m, fun _ => hrecent⟩
    · exact ⟨rfl, .refl m, fun _ => hrecent⟩

theorem sameBase_requestIntegrityRepair (m : LinkMonitor) (now : Instant) :
    SameBase m (m.requestIntegrityRepair now).2 := by
  have hclaimed : ∀ lastIntegrityRequest,
      SameBase m (m.setHealth { m.health with lastIntegrityRequest }) := fun _ =>
    ⟨⟨rfl, rfl, rfl, rfl, rfl⟩, rfl⟩
  unfold requestIntegrityRepair
  split
  · split
    · exact (hclaimed _).send _ _
    · exact .refl m
  · exact .refl m

/-! ## What an action does to the link -/

variable (tokens) in
/-- How an action changes the link, as its report tells; a reset takes down a link that is up. -/
def edge (m : LinkMonitor) (a : LinkAction) : Option LinkState :=
  match a, (m.act tokens a).1 with
  | _, .packet report => if report.cameUp then some .up else none
  | _, .tick report => if report.wentDown then some .down else none
  | .reset, _ => if m.health.streamUp then some .down else none
  | _, _ => none

variable (tokens) in
/-- How the link changes in a run. -/
def edges (m : LinkMonitor) : List LinkAction → List LinkState
  | [] => []
  | a :: actions => (m.edge tokens a).toList ++ (m.act tokens a).2.edges actions

/-- What an action does to the link, and how it changes. -/
inductive Effect (m m' : LinkMonitor) : LinkAction → Option LinkState → Prop where
  | received (now : Instant) (sender : Option Net.Endpoint) (seq : Option UInt16)
      (hreceived : Received m now m')
      (hbase : seq = none → m.health.rtpBase = .empty → m'.health.rtpBase = .empty) :
      Effect m m' (.packet now sender seq) (if m.health.streamUp then none else some .up)
  | fell (a : LinkAction) (hno : a.packetTime? = none) (hfallen : Fallen m m') :
      Effect m m' a (if m.health.streamUp then some .down else none)
  | same (a : LinkAction) (hno : a.packetTime? = none) (hsame : SameBase m m') :
      Effect m m' a none

theorem effect_act (tokens : Nat → Token) (m : LinkMonitor) (a : LinkAction) :
    Effect m (m.act tokens a).2 a (m.edge tokens a) := by
  have hrequest : ∀ requester : Requester,
      requester.health.withoutFlags = m.health.withoutFlags →
        SameBase m { m with requester } := fun _ h => .of_withoutFlags rfl rfl h
  cases a with
  | packet now sender seq =>
    have hedge : m.edge tokens (.packet now sender seq) =
        if m.health.streamUp then none else some .up := by
      have hcameUp := m.cameUp_onPacket now sender seq
      simp only [edge, act, hcameUp]
      rcases m.health.streamUp with _ | _ <;> rfl
    rw [hedge]
    refine .received now sender seq (m.received_onPacket now sender seq) fun hseq hbase => ?_
    subst hseq
    simp only [act, onPacket_eq]
    exact rtpBase_arrive hbase now sender
  | tick now =>
    obtain ⟨hdown, hfallen, hup, -⟩ | ⟨hdown, hsame, -⟩ := m.tick_cases now
    · have hedge : m.edge tokens (.tick now) = if m.health.streamUp then some .down else none := by
        simp only [edge, act, hdown, hup, if_true]
      rw [hedge]
      exact .fell _ rfl hfallen
    · have hedge : m.edge tokens (.tick now) = none := by
        simp only [edge, act, hdown, Bool.false_eq_true, if_false]
      rw [hedge]
      exact .same _ rfl hsame
  | reset => exact .fell _ rfl m.fallen_reset
  | frameDecoded now =>
    have hdecoded : ∀ lastDecoded, SameBase m (m.setHealth { m.health with lastDecoded }) :=
      fun _ => ⟨⟨rfl, rfl, rfl, rfl, rfl⟩, rfl⟩
    exact .same _ rfl (hdecoded _)
  | integrityRepair now => exact .same _ rfl (m.sameBase_requestIntegrityRepair now)
  | recordingKeyframe =>
    exact .same _ rfl (hrequest (m.requester.request .recordStart _ _).2
      (m.requester.withoutFlags_request _ _ _))
  | request reason repeats allowDeferred =>
    exact .same _ rfl (hrequest _ (m.requester.withoutFlags_request _ _ _))
  | retryDeferred repeats =>
    exact .same _ rfl (hrequest _ (m.requester.withoutFlags_retryDeferred _))
  | observe data => exact .same _ rfl (hrequest _ (m.requester.withoutFlags_observe data))
  | setEnabled enabled => exact .same _ rfl (hrequest _ rfl)
  | startClock now => exact .same _ rfl (hrequest _ rfl)
  | proceed index due =>
    exact .same _ rfl (hrequest _ (RepairRun.withoutFlags_proceed tokens _ index due))

/-! ## Runs -/

/-- The published state is that of the health state, and no sequence number is stored while the link
is down. -/
structure Consistent (m : LinkMonitor) : Prop where
  published : m.link.state = .up ↔ m.health.streamUp = true
  rtpBase_eq : m.health.streamUp = false → m.health.rtpBase = .empty

theorem Consistent.effect {m m' : LinkMonitor} {a : LinkAction} {e : Option LinkState}
    (h : Consistent m) (heffect : Effect m m' a e) : Consistent m' := by
  cases heffect with
  | received now sender seq hreceived =>
    refine ⟨?_, fun hdown => ?_⟩
    · rw [hreceived.link_eq, hreceived.streamUp]
      rcases hup : m.health.streamUp with _ | _
      · exact iff_of_true rfl rfl
      · exact iff_of_true (h.published.2 hup) rfl
    · rw [hreceived.streamUp] at hdown
      cases hdown
  | fell a hno hfallen =>
    refine ⟨?_, fun _ => hfallen.rtpBase_eq⟩
    rw [hfallen.state_eq, hfallen.streamUp_eq]
    exact iff_of_false nofun nofun
  | same a hno hsame =>
    refine ⟨?_, ?_⟩
    · rw [hsame.1.link_eq, hsame.1.streamUp_eq]
      exact h.published
    · rw [hsame.1.streamUp_eq, hsame.2]
      exact h.rtpBase_eq

/-- A change of the link is a change to the other state. -/
theorem Consistent.isChain_effect {m m' : LinkMonitor} {a : LinkAction} {e : Option LinkState}
    (h : Consistent m) (heffect : Effect m m' a e) {later : List LinkState}
    (hlater : List.IsChain (· ≠ ·) (m'.link.state :: later)) :
    List.IsChain (· ≠ ·) (m.link.state :: (e.toList ++ later)) := by
  -- a change that is seen is one to the other state
  have hstate : ∀ s, m.link.state ≠ s → m'.link.state = s →
      List.IsChain (· ≠ ·) (m.link.state :: ((some s).toList ++ later)) := by
    rintro s hne rfl
    exact List.isChain_cons_cons.2 ⟨hne, hlater⟩
  cases heffect with
  | received now sender seq hreceived =>
    have hlink := hreceived.link_eq
    rcases hup : m.health.streamUp with _ | _
    · rw [hup] at hlink
      -- the link was down, so its state has been published
      refine hstate .up (fun h' => ?_) (congrArg LinkCell.state hlink)
      rw [h.published, hup] at h'
      cases h'
    · rw [hup] at hlink
      rw [hlink] at hlater
      exact hlater
  | fell a hno hfallen =>
    rcases hup : m.health.streamUp with _ | _
    · have hdown : m.link.state = .down := by
        rcases hs : m.link.state with _ | _
        · rw [h.published, hup] at hs
          cases hs
        · rfl
      rw [hfallen.state_eq, ← hdown] at hlater
      exact hlater
    · refine hstate .down ?_ hfallen.state_eq
      rw [h.published.2 hup]
      exact nofun
  | same a hno hsame =>
    rw [hsame.1.link_eq] at hlater
    exact hlater

/-- The link comes up and goes down in turn. -/
theorem Consistent.isChain_edges {m : LinkMonitor} (h : Consistent m) (tokens : Nat → Token)
    (actions : List LinkAction) :
    List.IsChain (· ≠ ·) (m.link.state :: m.edges tokens actions) := by
  -- from the front: the state before an action heads the chain of the rest
  induction actions generalizing m with
  | nil => exact .singleton _
  | cons a actions ih =>
    have heffect := effect_act tokens m a
    exact h.isChain_effect heffect (ih (h.effect heffect))

/-- What ties a monitor to the run that has led to it. -/
structure Follows (timing : HealthTiming) (origin : Instant) (actions : List LinkAction)
    (m : LinkMonitor) : Prop where
  consistent : Consistent m
  timing_eq : m.timing = timing
  origin_eq : m.health.origin = origin
  lastPacket_eq : m.health.streamUp = true →
    ∃ t, lastPacketTime? actions = some t ∧ m.health.lastPacket = m.health.stamp t

theorem Follows.effect {timing : HealthTiming} {origin : Instant} {actions : List LinkAction}
    {m m' : LinkMonitor} (h : Follows timing origin actions m) {a : LinkAction}
    {e : Option LinkState} (heffect : Effect m m' a e) :
    Follows timing origin (actions ++ [a]) m' := by
  have hconsistent := h.consistent.effect heffect
  cases heffect with
  | received now sender seq hreceived =>
    refine ⟨hconsistent, hreceived.timing_eq.trans h.timing_eq,
      hreceived.origin_eq.trans h.origin_eq, fun _ =>
        ⟨now, lastPacketTime?_append_packet actions now sender seq, ?_⟩⟩
    rw [hreceived.lastPacket_eq, HealthState.stamp_eq_of_origin_eq hreceived.origin_eq]
  | fell a hno hfallen =>
    -- a link that is down makes no promise about its last packet
    refine ⟨hconsistent, hfallen.timing_eq.trans h.timing_eq,
      hfallen.origin_eq.trans h.origin_eq, fun hup => ?_⟩
    rw [hfallen.streamUp_eq] at hup
    cases hup
  | same a hno hsame =>
    refine ⟨hconsistent, hsame.1.timing_eq.trans h.timing_eq,
      hsame.1.origin_eq.trans h.origin_eq, fun hup => ?_⟩
    rw [hsame.1.streamUp_eq] at hup
    obtain ⟨t, ht, hlast⟩ := h.lastPacket_eq hup
    refine ⟨t, (lastPacketTime?_append_of_none actions hno).trans ht, ?_⟩
    rw [hsame.1.lastPacket_eq, hlast, HealthState.stamp_eq_of_origin_eq hsame.1.origin_eq]

theorem Follows.packetAge_eq {timing : HealthTiming} {origin : Instant}
    {actions : List LinkAction} {m : LinkMonitor} (h : Follows timing origin actions m)
    (hup : m.health.streamUp = true) :
    ∃ t, lastPacketTime? actions = some t ∧
      ∀ now, m.health.packetAge now = m.health.age (m.health.stamp t) now := by
  obtain ⟨t, ht, hlast⟩ := h.lastPacket_eq hup
  refine ⟨t, ht, fun now => ?_⟩
  rw [HealthState.packetAge, hlast]

/-- Without a sequence number the base stays empty. -/
theorem rtpBase_actAll (tokens : Nat → Token) {m : LinkMonitor} (h : m.health.rtpBase = .empty)
    {actions : List LinkAction} (hno : ∀ a ∈ actions, a.isNumbered = false) :
    (m.actAll tokens actions).health.rtpBase = .empty := by
  induction actions generalizing m with
  | nil => exact h
  | cons a actions ih =>
    obtain ⟨ha, hrest⟩ := List.forall_mem_cons.1 hno
    have hnext : (m.act tokens a).2.health.rtpBase = .empty := by
      have heffect := effect_act tokens m a
      generalize (m.act tokens a).2 = m' at heffect ⊢
      generalize m.edge tokens a = e at heffect
      cases heffect with
      | received now sender seq hreceived hbase =>
        cases seq with
        | none => exact hbase rfl h
        | some seq => cases ha
      | fell a hno hfallen => exact hfallen.rtpBase_eq
      | same a hno hsame => exact hsame.2.trans h
    exact ih hnext hrest

section After

variable (tokens) (codec : Codec) (port : UInt16) (repair : RepairTiming) (timing : HealthTiming)
  (enabled : Bool) (origin : Instant)

theorem follows_after (actions : List LinkAction) :
    Follows timing origin actions
      (after tokens codec port repair timing enabled origin actions) := by
  induction actions using List.reverseRecOn with
  | nil => exact ⟨⟨iff_of_false nofun nofun, fun _ => rfl⟩, rfl, rfl, nofun⟩
  | append_singleton actions a ih =>
    rw [after_append]
    exact ih.effect (effect_act tokens _ a)

/-- **How the link goes up and down.** In every run of a fresh monitor the published state is up
exactly if the health state says so; the link comes up and goes down in turn, and it comes up first.
It is up after every packet. A check takes it down exactly if it is up and the age of the last
packet, in whole milliseconds, is more than `downAfter`; so after a check the last packet of a link
that is up is at most that old. While the link is down no sequence number is stored, and the next
packet that has one reports nothing but whether the link has come up. -/
theorem link_transitions (actions : List LinkAction) :
    let fresh := after tokens codec port repair timing enabled origin []
    let m := after tokens codec port repair timing enabled origin actions
    (m.link.state = .up ↔ m.health.streamUp = true) ∧
      List.IsChain (· ≠ ·) (.down :: fresh.edges tokens actions) ∧
      (∀ now sender seq, (m.onPacket now sender seq).2.link.state = .up) ∧
      (∀ now, (m.tick now).1.wentDown = true ↔ m.link.state = .up ∧
        ∃ t age, lastPacketTime? actions = some t ∧
          m.health.age (m.health.stamp t) now = some age ∧ timing.downAfter < age) ∧
      (∀ now, (m.tick now).2.link.state = .up → ∃ t, lastPacketTime? actions = some t ∧
        ∀ age, m.health.age (m.health.stamp t) now = some age → age ≤ timing.downAfter) ∧
      (∀ t now, origin ≤ t → t ≤ now → (now.since origin).toMillis + 1 < stampRange →
        ∃ age, m.health.age (m.health.stamp t) now = some age ∧
          now - t < age + Duration.ofMillis 1 ∧ age < now - t + Duration.ofMillis 1) ∧
      (m.link.state = .down → (∀ now, m.health.rtpSequence now = none) ∧
        ∀ later, (∀ a ∈ later, a.isNumbered = false) → ∀ now sender seq,
          ((m.actAll tokens later).onPacket now sender (some seq)).1 =
            { cameUp := !(m.actAll tokens later).health.streamUp }) := by
  intro fresh m
  have hfresh : Follows timing origin [] fresh :=
    follows_after tokens codec port repair timing enabled origin []
  have hm : Follows timing origin actions m :=
    follows_after tokens codec port repair timing enabled origin actions
  have hup : m.link.state = .up ↔ m.health.streamUp = true := hm.consistent.published
  have hempty : m.link.state = .down → m.health.rtpBase = .empty := fun hdown => by
    refine hm.consistent.rtpBase_eq (Bool.eq_false_iff.2 fun h => ?_)
    rw [hup.2 h] at hdown
    cases hdown
  refine ⟨hup, hfresh.consistent.isChain_edges tokens actions, fun now sender seq => ?_,
    fun now => ?_, fun now h => ?_, fun t now ht hle hrange => ?_,
    fun hdown => ⟨fun now => ?_, fun later hno now sender seq => ?_⟩⟩
  · have heffect := effect_act tokens m (.packet now sender seq)
    exact (hm.consistent.effect heffect).published.2 (m.received_onPacket now sender seq).streamUp
  · obtain ⟨hwent, -, hstream, age, hage, hold⟩ | ⟨hwent, -, hrecent⟩ := m.tick_cases now
    · obtain ⟨t, ht, hpacket⟩ := hm.packetAge_eq hstream
      rw [hpacket] at hage
      exact iff_of_true hwent ⟨hup.2 hstream, t, age, ht, hage, hm.timing_eq ▸ hold⟩
    · refine iff_of_false (by rw [hwent]; exact nofun) ?_
      rintro ⟨hlink, t, age, ht, hage, hold⟩
      obtain ⟨t', ht', hpacket⟩ := hm.packetAge_eq (hup.1 hlink)
      -- there is only one last packet
      cases ht.symm.trans ht'
      have hle := hrecent (hup.1 hlink) age ((hpacket now).trans hage)
      rw [hm.timing_eq] at hle
      exact Nat.not_lt.2 hle hold
  · obtain ⟨-, hfallen, -⟩ | ⟨-, hsame, hrecent⟩ := m.tick_cases now
    · rw [hfallen.state_eq] at h
      cases h
    · rw [hsame.1.link_eq, hup] at h
      obtain ⟨t, ht, hpacket⟩ := hm.packetAge_eq h
      refine ⟨t, ht, fun age hage => ?_⟩
      rw [← hm.timing_eq]
      exact hrecent h age ((hpacket now).trans hage)
  · rw [← hm.origin_eq] at ht hrange
    exact m.health.age_stamp ht hle hrange
  · exact HealthState.rtpSequence_of_empty (hempty hdown) now
  · exact onPacket_of_empty (rtpBase_actAll tokens (hempty hdown) hno) now sender seq

end After

/-- The link has gone down for want of packets. A packet without a sequence number brings it up, and
the next number is compared with nothing, far as it is from the last one. -/
theorem link_transitions_after_silence :
    let m := after Token.counting .h265 11223 {} {} true 0
      [.packet 0 none (some 7), .tick 1201000000]
    m.link.state = .down ∧
      ((m.actAll Token.counting [.packet 2000000000 none none]).onPacket 2001000000 none
        (some 40)).1 = {} := by
  have hdown : (after Token.counting .h265 11223 {} {} true 0
      [.packet 0 none (some 7), .tick 1201000000]).link.state = .down := by decide +kernel
  obtain ⟨-, -, -, -, -, -, hfirst⟩ := link_transitions Token.counting .h265 11223 {} {} true 0
    [.packet 0 none (some 7), .tick 1201000000]
  refine ⟨hdown, ?_⟩
  exact (hfirst hdown).2 [.packet 2000000000 none none] (by decide) 2001000000 none 40

/-- A packet may be older than `downAfter` by less than a millisecond, and the link stays up. -/
theorem up_after_downAfter :
    let m := after Token.counting .h265 11223 {} {} true 0 [.packet 0 none none]
    m.link.state = .up ∧ lastPacketTime? [.packet 0 none none] = some 0 ∧
      m.timing.downAfter < 1200500000 - 0 ∧ (m.tick 1200500000).1.wentDown = false ∧
      (m.tick 1200500000).2.link.state = .up := by
  decide +kernel

end LinkMonitor

end VideoReceiver
