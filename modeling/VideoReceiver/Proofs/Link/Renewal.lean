import VideoReceiver.Proofs.Link.Likeness

/-!
# A reset monitor is as good as new

A reset keeps the generations of the flags and forgets everything else. If no sequence is under way
then, the monitor and a new one with the same settings are alike from that moment on, and nothing
that is done to both tells them apart.

## Main definitions

- `LinkMonitor.Alike`: monitors that differ by generations
- `ClockedLinkAction`, `LinkMonitor.observations`: what happens to a monitor on the clock, and what
  is seen of it
- `LinkMonitor.raises`: how many flags are raised

## Main statements

- `LinkMonitor.Alike.act`, `LinkMonitor.Alike.observations`: what is done to both keeps them alike,
  and the same is seen of them
- `LinkMonitor.renewal_law`: a reset monitor is as good as new
-/

namespace VideoReceiver

/-- A change of what is known that neither reads nor touches the flags and the deferral. -/
structure HealthState.LeavesFlags (change : HealthState → HealthState) : Prop where
  known (s : HealthState) : (change s).withoutFlags = change s.withoutFlags
  slot (s : HealthState) : (change s).pendingSlot = s.pendingSlot
  deferred (s : HealthState) : (change s).recordDeferred = s.recordDeferred

namespace HealthState.Alike

variable {shift : PendingFlag → Nat} {bound : Nat} {s s' : HealthState}

theorem change (h : s.Alike shift bound s') (change : HealthState → HealthState)
    (hchange : LeavesFlags change) : (change s).Alike shift bound (change s') := by
  refine h.of_slots ?_ ?_ (hchange.slot s) (hchange.slot s')
  · rw [hchange.known, hchange.known, h.known_eq]
  · rw [hchange.deferred, hchange.deferred, h.recordDeferred_eq]

/-- What is read off the rest of the states is the same. -/
theorem read_eq {α : Type} (h : s.Alike shift bound s') (read : HealthState → α)
    (hread : ∀ u, read u = read u.withoutFlags) : read s = read s' := by
  rw [hread s, h.known_eq, ← hread s']

theorem reset (h : s.Alike shift bound s') : s.reset.Alike shift bound s'.reset := by
  refine ⟨?_, rfl, fun flag => ?_⟩
  · exact h.read_eq (fun u => u.reset.withoutFlags) fun _ => rfl
  · cases flag
    · exact (h.slot .stream).clear
    · exact (h.slot .record).clear

/-- A state that has been reset is like a new one with the same origin. -/
theorem renew (h : s.Alike shift bound s') :
    s.reset.Alike s.pendingGeneration bound { origin := s.origin } := by
  refine ⟨rfl, rfl, fun flag => ?_⟩
  cases flag
  · exact (h.slot .stream).renew
  · exact (h.slot .record).renew

end HealthState.Alike

namespace LinkMonitor

/-- The monitors have the same settings, their requesters are alike, and they have published the
same state; the first one has published `ahead` more times. -/
structure Alike (shift : PendingFlag → Nat) (ahead bound : Nat) (m m' : LinkMonitor) : Prop where
  timing_eq : m.timing = m'.timing
  state_eq : m.link.state = m'.link.state
  changes_eq : m.link.changes = m'.link.changes + ahead
  requester : m.requester.Alike shift bound m'.requester

/-- How many flags an action raises. -/
def raises (m : LinkMonitor) : LinkAction → Nat
  | .packet _ sender _ =>
    (if sender.isSome then m.requester.retryCount else 0) +
      if m.health.streamUp then 0 else m.requester.raiseCount .streamUp
  | .recordingKeyframe => m.requester.raiseCount .recordStart
  | .request reason _ _ => m.requester.raiseCount reason
  | .retryDeferred _ => m.requester.retryCount
  | _ => 0

/-- When and where an action sends. Only the step of a sequence does. -/
def sends (m : LinkMonitor) (tokens : Nat → Token) :
    LinkAction → List (Option Instant × Net.Endpoint)
  | .proceed index _ => m.requester.stepPlaces tokens index
  | _ => []

namespace Alike

variable {shift : PendingFlag → Nat} {ahead bound : Nat} {m m' : LinkMonitor}

theorem health (h : m.Alike shift ahead bound m') : m.health.Alike shift bound m'.health :=
  h.requester.health

theorem enabled_eq (h : m.Alike shift ahead bound m') :
    m.requester.enabled = m'.requester.enabled := h.requester.enabled_eq

theorem of_requester (h : m.Alike shift ahead bound m') {bound' : Nat} {r r' : Requester}
    (hr : r.Alike shift bound' r') :
    Alike shift ahead bound' { m with requester := r } { m' with requester := r' } :=
  ⟨h.timing_eq, h.state_eq, h.changes_eq, hr⟩

theorem setHealth (h : m.Alike shift ahead bound m') {s s' : HealthState}
    (hs : s.Alike shift bound s') :
    (m.setHealth s).Alike shift ahead bound (m'.setHealth s') :=
  h.of_requester (h.requester.of_health hs)

theorem change (h : m.Alike shift ahead bound m') (change : HealthState → HealthState)
    (hchange : HealthState.LeavesFlags change) :
    (m.setHealth (change m.health)).Alike shift ahead bound (m'.setHealth (change m'.health)) :=
  h.setHealth (h.health.change change hchange)

theorem send (h : m.Alike shift ahead bound m') (reason : RepairReason) {repeats repeats' : Nat}
    (hrepeats : repeats = repeats')
    (hbound : bound + m.requester.raiseCount reason < 2 ^ 63) :
    (m.send reason repeats).Alike shift ahead (bound + m.requester.raiseCount reason)
      (m'.send reason repeats') := by
  subst hrepeats
  exact h.of_requester (h.requester.request reason repeats false hbound).2

/-- A request that raises no flag. -/
theorem send_untracked (h : m.Alike shift ahead bound m') {reason : RepairReason}
    (hreason : reason.tracking = none) (hbound : bound < 2 ^ 63) :
    (m.send reason 1).Alike shift ahead bound (m'.send reason 1) := by
  have hcount : m.requester.raiseCount reason = 0 := by
    rw [Requester.raiseCount, hreason, Option.isSome_none, Bool.and_false]
    rfl
  have hsent := h.send reason (rfl : 1 = 1)
  rw [hcount] at hsent
  exact hsent hbound

/-! ## Packets and checks -/

theorem hear (h : m.Alike shift ahead bound m') (now : Instant) (sender : Option Net.Endpoint)
    (hbound : bound + (if sender.isSome then m.requester.retryCount else 0) < 2 ^ 63) :
    (m.hear now sender).Alike shift ahead
      (bound + if sender.isSome then m.requester.retryCount else 0) (m'.hear now sender) := by
  have hrecorded : (m.setHealth (m.health.recordPacket now)).Alike shift ahead bound
      (m'.setHealth (m'.health.recordPacket now)) := by
    unfold HealthState.recordPacket
    rw [h.health.stamp_eq]
    exact h.change (fun s => { s with lastPacket := m'.health.stamp now })
      ⟨fun _ => rfl, fun _ => rfl, fun _ => rfl⟩
  cases sender with
  | none => exact hrecorded
  | some sender =>
    have hknown := hrecorded.change (fun s => { s with sender := some sender })
      ⟨fun _ => rfl, fun _ => rfl, fun _ => rfl⟩
    have hretried := (hknown.requester.retryDeferred m.timing.recordStartBursts hbound).2
    have hrepeats : m.timing.recordStartBursts = m'.timing.recordStartBursts := by
      rw [h.timing_eq]
    refine hknown.of_requester ?_
    show Requester.Alike _ _ (Requester.retryDeferred _ m.timing.recordStartBursts).2
      (Requester.retryDeferred _ m'.timing.recordStartBursts).2
    rw [← hrepeats]
    exact hretried

theorem comeUp (h : m.Alike shift ahead bound m')
    (hbound : bound + m.requester.raiseCount .streamUp < 2 ^ 63) :
    m.comeUp.Alike shift ahead (bound + m.requester.raiseCount .streamUp) m'.comeUp := by
  have hup := h.change (fun s => { s with streamUp := true }.clearRtpSequence)
    ⟨fun _ => rfl, fun _ => rfl, fun _ => rfl⟩
  have hpublished : Alike shift ahead bound
      { m.setHealth { m.health with streamUp := true }.clearRtpSequence with
        link := m.link.publish .up }
      { m'.setHealth { m'.health with streamUp := true }.clearRtpSequence with
        link := m'.link.publish .up } := by
    refine ⟨hup.timing_eq, rfl, ?_, hup.requester⟩
    show m.link.changes + 1 = m'.link.changes + 1 + ahead
    have hchanges := h.changes_eq
    omega
  have hrepeats : m.timing.streamUpBursts = m'.timing.streamUpBursts := by rw [h.timing_eq]
  exact hpublished.send .streamUp hrepeats hbound

theorem arrive (h : m.Alike shift ahead bound m') (now : Instant) (sender : Option Net.Endpoint)
    (seq : Option UInt16) (hbound : bound + m.raises (.packet now sender seq) < 2 ^ 63) :
    (m.arrive now sender).Alike shift ahead (bound + m.raises (.packet now sender seq))
      (m'.arrive now sender) := by
  have hup : m.health.streamUp = m'.health.streamUp :=
    h.health.read_eq (·.streamUp) fun _ => rfl
  have hraises : (m.hear now sender).requester.raiseCount .streamUp =
      m.requester.raiseCount .streamUp := by
    rw [Requester.raiseCount, Requester.raiseCount, enabled_hear]
  rw [raises, ← Nat.add_assoc] at hbound ⊢
  have hheard := h.hear now sender (Nat.lt_of_le_of_lt (Nat.le_add_right _ _) hbound)
  unfold LinkMonitor.arrive
  rw [← hup]
  by_cases hstream : m.health.streamUp = true
  · rw [if_pos hstream, if_pos hstream, if_pos hstream]
    exact hheard
  · rw [if_neg hstream] at hbound
    rw [if_neg hstream, if_neg hstream, if_neg hstream]
    rw [← hraises] at hbound ⊢
    exact hheard.comeUp hbound

/-- Whether a request is made does not depend on the generations, and it raises none. -/
theorem attempt (h : m.Alike shift ahead bound m') (k : Trigger) (now : Instant)
    (hbound : bound < 2 ^ 63) :
    (m.attempt k now).1 = (m'.attempt k now).1 ∧
      (m.attempt k now).2.Alike shift ahead bound (m'.attempt k now).2 := by
  have hclaim : m.health.claim (m.health.lastRequest k) now (k.cooldown m.timing) =
      m'.health.claim (m'.health.lastRequest k) now (k.cooldown m'.timing) := by
    rw [h.timing_eq]
    refine h.health.read_eq (fun s => s.claim (s.lastRequest k) now _) fun s => ?_
    cases k <;> rfl
  have hstamped : ∀ stamp, Alike shift ahead bound
      (m.setHealth (m.health.setLastRequest k stamp))
      (m'.setHealth (m'.health.setLastRequest k stamp)) := by
    intro stamp
    refine h.change (fun s => s.setLastRequest k stamp) ?_
    cases k <;> exact ⟨fun _ => rfl, fun _ => rfl, fun _ => rfl⟩
  have hmade := fun stamp => (hstamped stamp).send_untracked k.tracking_reason hbound
  unfold LinkMonitor.attempt
  rw [h.enabled_eq, hclaim]
  split
  · split
    · next stamp _ => exact ⟨rfl, hmade stamp⟩
    · exact ⟨rfl, h⟩
  · exact ⟨rfl, h⟩

theorem onLoss (h : m.Alike shift ahead bound m') (now : Instant) (lost : Nat)
    (hbound : bound < 2 ^ 63) :
    (m.onLoss now lost).1 = (m'.onLoss now lost).1 ∧
      (m.onLoss now lost).2.Alike shift ahead bound (m'.onLoss now lost).2 := by
  have hlost := h.change (fun s => { s with lostPackets := s.lostPackets + lost })
    ⟨fun _ => rfl, fun _ => rfl, fun _ => rfl⟩
  rw [onLoss_eq, onLoss_eq]
  exact hlost.attempt .gap now hbound

theorem trackSequence (h : m.Alike shift ahead bound m') (now : Instant) (seq : UInt16)
    (hbound : bound < 2 ^ 63) :
    (m.trackSequence now seq).1 = (m'.trackSequence now seq).1 ∧
      (m.trackSequence now seq).2.Alike shift ahead bound (m'.trackSequence now seq).2 := by
  have hsequence : m.health.rtpSequence now = m'.health.rtpSequence now :=
    h.health.read_eq (·.rtpSequence now) fun _ => rfl
  -- stated for any base, so that the packed word is never unfolded
  have hbase : ∀ rtpBase, Alike shift ahead bound (m.setHealth { m.health with rtpBase })
      (m'.setHealth { m'.health with rtpBase }) := fun rtpBase =>
    h.change (fun s => { s with rtpBase }) ⟨fun _ => rfl, fun _ => rfl, fun _ => rfl⟩
  have hset : Alike shift ahead bound (m.setHealth (m.health.setRtpSequence seq now))
      (m'.setHealth (m'.health.setRtpSequence seq now)) := by
    unfold HealthState.setRtpSequence
    rw [h.health.stamp_eq]
    exact hbase _
  unfold LinkMonitor.trackSequence
  rw [hsequence]
  cases m'.health.rtpSequence now with
  | none => exact ⟨rfl, hset⟩
  | some base =>
    dsimp only
    generalize Rtp.distance seq base.1 = distance
    by_cases hduplicate : distance = 0
    · rw [if_pos hduplicate, if_pos hduplicate]
      exact ⟨rfl, h⟩
    by_cases hnext : distance = 1
    · rw [if_neg hduplicate, if_neg hduplicate, if_pos hnext, if_pos hnext]
      exact ⟨rfl, hset⟩
    rw [if_neg hduplicate, if_neg hduplicate, if_neg hnext, if_neg hnext]
    have hreorder : m.timing.reorderThreshold = m'.timing.reorderThreshold := by rw [h.timing_eq]
    have hrebase : m.timing.rebaseAfter = m'.timing.rebaseAfter := by rw [h.timing_eq]
    rw [hreorder, hrebase]
    split
    · obtain ⟨hmade, halike⟩ := hset.onLoss now (distance.toNat - 1) hbound
      exact ⟨congrArg (PacketReport.mk false false (distance.toNat - 1) · false) hmade, halike⟩
    · split
      · exact ⟨rfl, hset⟩
      · exact ⟨rfl, h⟩

theorem onPacket (h : m.Alike shift ahead bound m') (now : Instant) (sender : Option Net.Endpoint)
    (seq : Option UInt16) (hbound : bound + m.raises (.packet now sender seq) < 2 ^ 63) :
    (m.onPacket now sender seq).1 = (m'.onPacket now sender seq).1 ∧
      (m.onPacket now sender seq).2.Alike shift ahead (bound + m.raises (.packet now sender seq))
        (m'.onPacket now sender seq).2 := by
  have hup : m.health.streamUp = m'.health.streamUp :=
    h.health.read_eq (·.streamUp) fun _ => rfl
  have harrived := h.arrive now sender seq hbound
  rw [onPacket_eq, onPacket_eq, hup]
  cases seq with
  | none => exact ⟨rfl, harrived⟩
  | some seq =>
    obtain ⟨hreport, halike⟩ := harrived.trackSequence now seq hbound
    dsimp only
    rw [hreport]
    exact ⟨rfl, halike⟩

theorem goDown (h : m.Alike shift ahead bound m') :
    m.goDown.Alike shift ahead bound m'.goDown := by
  have hdown := h.change (fun s => { s with streamUp := false }.clearRtpSequence)
    ⟨fun _ => rfl, fun _ => rfl, fun _ => rfl⟩
  refine ⟨h.timing_eq, rfl, ?_, hdown.requester⟩
  show m.link.changes + 1 = m'.link.changes + 1 + ahead
  have hchanges := h.changes_eq
  omega

theorem tick (h : m.Alike shift ahead bound m') (now : Instant) (hbound : bound < 2 ^ 63) :
    (m.tick now).1 = (m'.tick now).1 ∧
      (m.tick now).2.Alike shift ahead bound (m'.tick now).2 := by
  have hup : m.health.streamUp = m'.health.streamUp :=
    h.health.read_eq (·.streamUp) fun _ => rfl
  have hage : m.health.packetAge now = m'.health.packetAge now :=
    h.health.read_eq (·.packetAge now) fun _ => rfl
  have hdecoded : m.health.decodedAge now = m'.health.decodedAge now :=
    h.health.read_eq (·.decodedAge now) fun _ => rfl
  have hstalled : m.isStalled now = m'.isStalled now := by
    rw [isStalled, isStalled, hage, hdecoded, h.timing_eq]
  obtain ⟨hmade, hattempt⟩ := h.attempt .stall now hbound
  have hdownAfter : m.timing.downAfter = m'.timing.downAfter := by rw [h.timing_eq]
  rw [tick_eq, tick_eq, hup, hage, hstalled, hdownAfter]
  split
  · exact ⟨rfl, h⟩
  · split
    · exact ⟨rfl, h.goDown⟩
    · split
      · exact ⟨congrArg (TickReport.mk false ·) hmade, hattempt⟩
      · exact ⟨rfl, h⟩

theorem requestIntegrityRepair (h : m.Alike shift ahead bound m') (now : Instant)
    (hbound : bound < 2 ^ 63) :
    (m.requestIntegrityRepair now).1 = (m'.requestIntegrityRepair now).1 ∧
      (m.requestIntegrityRepair now).2.Alike shift ahead bound
        (m'.requestIntegrityRepair now).2 := by
  have hup : m.health.streamUp = m'.health.streamUp :=
    h.health.read_eq (·.streamUp) fun _ => rfl
  rw [requestIntegrityRepair_eq, requestIntegrityRepair_eq, hup]
  split
  · exact h.attempt .integrity now hbound
  · exact ⟨rfl, h⟩

theorem onFrameDecoded (h : m.Alike shift ahead bound m') (now : Instant) :
    (m.onFrameDecoded now).Alike shift ahead bound (m'.onFrameDecoded now) := by
  unfold LinkMonitor.onFrameDecoded HealthState.recordDecoded
  rw [h.health.stamp_eq]
  exact h.change (fun s => { s with lastDecoded := m'.health.stamp now })
    ⟨fun _ => rfl, fun _ => rfl, fun _ => rfl⟩

theorem reset (h : m.Alike shift ahead bound m') :
    m.reset.Alike shift ahead bound m'.reset := by
  have hcleared := h.setHealth h.health.reset
  have hstate := h.state_eq
  have hchanges := h.changes_eq
  refine ⟨h.timing_eq, ?_, ?_, hcleared.requester⟩
  · show (m.link.publishIfChanged .down).state = (m'.link.publishIfChanged .down).state
    unfold LinkCell.publishIfChanged
    rw [hstate]
    split
    · exact hstate
    · rfl
  · show (m.link.publishIfChanged .down).changes = (m'.link.publishIfChanged .down).changes + ahead
    unfold LinkCell.publishIfChanged LinkCell.publish
    rw [hstate]
    split
    · exact hchanges
    · dsimp only
      omega

/-! ## Actions -/

/-- An action gets the same answer from both monitors and keeps them alike. -/
theorem act (h : m.Alike shift ahead bound m') (tokens tokens' : Nat → Token) (a : LinkAction)
    (hbound : bound + m.raises a < 2 ^ 63) :
    (m.act tokens a).1 = (m'.act tokens' a).1 ∧ m.sends tokens a = m'.sends tokens' a ∧
      (m.act tokens a).2.Alike shift ahead (bound + m.raises a) (m'.act tokens' a).2 := by
  cases a with
  | packet now sender seq =>
    obtain ⟨hreport, halike⟩ := h.onPacket now sender seq hbound
    exact ⟨congrArg LinkReport.packet hreport, rfl, halike⟩
  | tick now =>
    obtain ⟨hreport, halike⟩ := h.tick now hbound
    exact ⟨congrArg LinkReport.tick hreport, rfl, halike⟩
  | frameDecoded now => exact ⟨rfl, rfl, h.onFrameDecoded now⟩
  | integrityRepair now =>
    obtain ⟨hmade, halike⟩ := h.requestIntegrityRepair now hbound
    exact ⟨congrArg LinkReport.integrityRepair hmade, rfl, halike⟩
  | recordingKeyframe =>
    have hrepeats : m.timing.recordStartBursts = m'.timing.recordStartBursts := by
      rw [h.timing_eq]
    obtain ⟨houtcome, hrequester⟩ :=
      h.requester.request .recordStart m.timing.recordStartBursts true hbound
    rw [LinkMonitor.act, LinkMonitor.act, requestRecordingKeyframe, requestRecordingKeyframe,
      ← hrepeats]
    exact ⟨congrArg LinkReport.request houtcome, rfl, h.of_requester hrequester⟩
  | request reason repeats allowDeferred =>
    obtain ⟨houtcome, hrequester⟩ := h.requester.request reason repeats allowDeferred hbound
    exact ⟨congrArg LinkReport.request houtcome, rfl, h.of_requester hrequester⟩
  | retryDeferred repeats =>
    obtain ⟨houtcome, hrequester⟩ := h.requester.retryDeferred repeats hbound
    exact ⟨congrArg LinkReport.retryDeferred houtcome, rfl, h.of_requester hrequester⟩
  | observe data =>
    obtain ⟨hfound, hrequester⟩ := h.requester.observe data
    exact ⟨congrArg LinkReport.keyframe hfound, rfl, h.of_requester hrequester⟩
  | setEnabled enabled =>
    have hset := h.requester
    exact ⟨rfl, rfl, h.of_requester
      ⟨hset.codec_eq, hset.port_eq, hset.timing_eq, rfl, hset.health, hset.tasks⟩⟩
  | reset => exact ⟨rfl, rfl, h.reset⟩
  | startClock now =>
    have hset := h.requester
    exact ⟨rfl, rfl, h.of_requester ⟨hset.codec_eq, hset.port_eq, hset.timing_eq, hset.enabled_eq,
      hset.health, RepeatTask.alike_start hset.tasks now⟩⟩
  | proceed index due =>
    obtain ⟨hplaces, hrequester⟩ := h.requester.proceed tokens tokens' index due
    exact ⟨rfl, hplaces, h.of_requester hrequester⟩

end Alike

/-! ## Runs on the clock -/

/-- The most that can be raised by an action: a deferred request is made again, and the link comes
up. -/
theorem raises_le (m : LinkMonitor) (a : LinkAction) : m.raises a ≤ 2 := by
  have hraise : ∀ reason, m.requester.raiseCount reason ≤ 1 := by
    intro reason
    unfold Requester.raiseCount
    split <;> omega
  have hretry : m.requester.retryCount ≤ 1 := by
    unfold Requester.retryCount
    split
    · exact hraise _
    · omega
  cases a with
  | packet now sender seq =>
    have hup := hraise .streamUp
    dsimp only [raises]
    split <;> split <;> omega
  | recordingKeyframe => exact (hraise _).trans (Nat.le_succ 1)
  | request reason repeats allowDeferred => exact (hraise _).trans (Nat.le_succ 1)
  | retryDeferred repeats => exact hretry.trans (Nat.le_succ 1)
  | _ => exact Nat.zero_le 2

end LinkMonitor

/-- What happens to a link monitor on the clock. -/
inductive ClockedLinkAction where
  | act (a : LinkAction)
  /-- Time passes: the sequences go on, as long as one does so before `limit`. -/
  | elapse (limit : Option Instant) (now : Instant)
  deriving DecidableEq, Repr

/-- What a monitor shows, apart from numbers of sequences and generations. -/
structure LinkView where
  /-- The published state. -/
  state : LinkState
  /-- What is known about the link; the number of lost packets is part of it. -/
  known : HealthState
  streamPending : Bool
  recordPending : Bool
  recordDeferred : Bool
  enabled : Bool
  /-- How many sequences are under way. -/
  underWay : Nat
  deriving DecidableEq, Repr

/-- What is seen when something happens to a monitor. -/
structure LinkObservation where
  report : LinkReport
  /-- When and where datagrams are sent. -/
  sent : List (Option Instant × Net.Endpoint)
  /-- When the last sequence has gone on, if time passes. -/
  stopped : Option Instant
  /-- How often a state is published. -/
  published : Nat
  /-- What the monitor shows then. -/
  view : LinkView
  deriving DecidableEq, Repr

namespace LinkMonitor

def view (m : LinkMonitor) : LinkView where
  state := m.link.state
  known := m.health.withoutFlags
  streamPending := m.health.isPending .stream
  recordPending := m.health.isPending .record
  recordDeferred := m.health.recordDeferred
  enabled := m.requester.enabled
  underWay := m.requester.tasks.length

variable (tokens tokens' : Nat → Token)

/-- What becomes of the monitor. -/
def perform (m : LinkMonitor) : ClockedLinkAction → LinkMonitor
  | .act a => (m.act tokens a).2
  | .elapse limit now => { m with requester := (m.requester.runLimited tokens limit now).2.2 }

def performAll (m : LinkMonitor) (actions : List ClockedLinkAction) : LinkMonitor :=
  actions.foldl (perform tokens) m

def observation (m : LinkMonitor) (a : ClockedLinkAction) : LinkObservation :=
  let published := (m.perform tokens a).link.changes - m.link.changes
  let view := (m.perform tokens a).view
  match a with
  | .act a =>
    { report := (m.act tokens a).1, sent := m.sends tokens a, stopped := none, published, view }
  | .elapse limit now =>
    let (attempts, last, _) := m.requester.runLimited tokens limit now
    { report := .done, sent := attempts.map Attempt.place, stopped := some last, published, view }

/-- What is seen when one thing happens after the other. -/
def observations (m : LinkMonitor) : List ClockedLinkAction → List LinkObservation
  | [] => []
  | a :: actions => m.observation tokens a :: (m.perform tokens a).observations actions

/-- Letting time pass raises no flag. -/
def raisesOf (m : LinkMonitor) : ClockedLinkAction → Nat
  | .act a => m.raises a
  | .elapse .. => 0

/-- How many flags are raised when one thing happens after the other. -/
def raisesAll (m : LinkMonitor) : List ClockedLinkAction → Nat
  | [] => 0
  | a :: actions => m.raisesOf a + (m.perform tokens a).raisesAll actions

theorem raisesAll_append (m : LinkMonitor) (actions later : List ClockedLinkAction) :
    m.raisesAll tokens (actions ++ later) =
      m.raisesAll tokens actions + (m.performAll tokens actions).raisesAll tokens later := by
  induction actions generalizing m with
  | nil => exact (Nat.zero_add _).symm
  | cons a actions ih =>
    rw [List.cons_append, raisesAll, raisesAll, ih, Nat.add_assoc]
    rfl

theorem raisesAll_le (m : LinkMonitor) (actions : List ClockedLinkAction) :
    m.raisesAll tokens actions ≤ 2 * actions.length := by
  induction actions generalizing m with
  | nil => exact Nat.zero_le _
  | cons a actions ih =>
    have hlater := ih (m.perform tokens a)
    have hnow : m.raisesOf a ≤ 2 := by
      cases a with
      | act a => exact m.raises_le a
      | elapse limit now => exact Nat.zero_le 2
    rw [raisesAll, List.length_cons]
    omega

/-- Letting time pass is taking steps of the sequences, so it adds nothing to what can become of a
monitor. -/
theorem exists_actAll (m : LinkMonitor) (actions : List ClockedLinkAction) :
    ∃ steps : List LinkAction, m.actAll tokens steps = m.performAll tokens actions := by
  induction actions generalizing m with
  | nil => exact ⟨[], rfl⟩
  | cons a actions ih =>
    have hnow : ∃ steps : List LinkAction, m.actAll tokens steps = m.perform tokens a := by
      cases a with
      | act a => exact ⟨[a], rfl⟩
      | elapse limit now =>
        obtain ⟨steps, -, hsteps⟩ := m.runLimited_actAll tokens limit now
        exact ⟨steps, hsteps⟩
    obtain ⟨steps, hsteps⟩ := hnow
    obtain ⟨later, hlater⟩ := ih (m.perform tokens a)
    exact ⟨steps ++ later, by rw [actAll_append, hsteps, hlater]; rfl⟩

namespace Alike

variable {shift : PendingFlag → Nat} {ahead bound : Nat} {m m' : LinkMonitor}

theorem view_eq (h : m.Alike shift ahead bound m') : m.view = m'.view := by
  have hlength := h.requester.tasks.length_eq
  rw [view, view, h.state_eq, h.health.known_eq, h.health.isPending_eq, h.health.isPending_eq,
    h.health.recordDeferred_eq, h.enabled_eq, hlength]

/-- The same is seen of monitors that are alike when something happens to both, and afterwards they
are alike. -/
theorem observation (h : m.Alike shift ahead bound m') (a : ClockedLinkAction)
    (hbound : bound + m.raisesOf a < 2 ^ 63) :
    m.observation tokens a = m'.observation tokens' a ∧
      (m.perform tokens a).Alike shift ahead (bound + m.raisesOf a) (m'.perform tokens' a) := by
  have hpublished : ∀ {bound' : Nat} {m₁ m₁' : LinkMonitor}, m₁.Alike shift ahead bound' m₁' →
      m₁.link.changes - m.link.changes = m₁'.link.changes - m'.link.changes := by
    intro bound' m₁ m₁' h₁
    have hbefore := h.changes_eq
    have hafter := h₁.changes_eq
    omega
  cases a with
  | act a =>
    obtain ⟨hreport, hsent, halike⟩ := h.act tokens tokens' a hbound
    refine ⟨?_, halike⟩
    simp only [LinkMonitor.observation, perform]
    rw [hreport, hsent, hpublished halike, halike.view_eq]
  | elapse limit now =>
    obtain ⟨hsent, hstopped, hrequester⟩ := h.requester.runLimited tokens tokens' limit now
    have halike := h.of_requester hrequester
    refine ⟨?_, halike⟩
    simp only [LinkMonitor.observation, perform]
    rw [hsent, hstopped, hpublished halike, halike.view_eq]

/-- The same is seen of monitors that are alike, whatever happens to both. -/
theorem observations (h : m.Alike shift ahead bound m') (actions : List ClockedLinkAction)
    (hbound : bound + m.raisesAll tokens actions < 2 ^ 63) :
    m.observations tokens actions = m'.observations tokens' actions ∧
      (m.performAll tokens actions).Alike shift ahead (bound + m.raisesAll tokens actions)
        (m'.performAll tokens' actions) := by
  induction actions generalizing m m' bound with
  | nil => exact ⟨rfl, h⟩
  | cons a actions ih =>
    rw [raisesAll, ← Nat.add_assoc] at hbound ⊢
    obtain ⟨hnow, halike⟩ :=
      h.observation tokens tokens' a (Nat.lt_of_le_of_lt (Nat.le_add_right _ _) hbound)
    obtain ⟨hlater, hlast⟩ := ih halike hbound
    refine ⟨?_, hlast⟩
    rw [LinkMonitor.observations, LinkMonitor.observations, hnow, hlater]

end Alike

/-! ## Renewal -/

variable (codec : Codec) (port : UInt16) (repair : RepairTiming) (timing : HealthTiming)
  (enabled : Bool) (origin : Instant)

theorem alike_fresh :
    Alike (fun _ => 0) 0 0 (fresh codec port repair timing enabled origin)
      (fresh codec port repair timing enabled origin) := by
  refine ⟨rfl, rfl, rfl, rfl, rfl, rfl, rfl, ⟨rfl, rfl, fun flag => ?_⟩, .nil⟩
  cases flag <;> exact ⟨rfl, rfl, rfl, Nat.le_refl 0, Nat.le_refl 0⟩

/-- A monitor that has been reset while no sequence was under way is like a new one with the same
settings. -/
theorem Alike.renew {shift : PendingFlag → Nat} {ahead bound : Nat} {m m' : LinkMonitor}
    (h : m.Alike shift ahead bound m') (hidle : m.requester.tasks = []) :
    m.reset.Alike m.health.pendingGeneration m.reset.link.changes bound
      (fresh m.requester.codec m.requester.port m.requester.timing m.timing m.requester.enabled
        m.health.origin) := by
  refine ⟨rfl, ?_, (Nat.zero_add _).symm, rfl, rfl, rfl, rfl, h.health.renew, ?_⟩
  · show (m.link.publishIfChanged .down).state = .down
    unfold LinkCell.publishIfChanged
    split
    · next hdown => exact hdown
    · rfl
  · show List.Forall₂ _ m.requester.tasks []
    rw [hidle]
    exact .nil

/-- **A reset monitor is as good as new.** Let anything happen to a new monitor until no sequence is
under way, and reset it. Whatever happens from then on, the same is seen of it as of a new monitor
with the same origin, the same settings and the same position of the kill-switch: the same answers,
the same states published as often, the same flags, deferrals and lost packets, and datagrams sent
at the same times to the same places. It is enough that fewer flags are raised in all than there are
generations. -/
theorem renewal_law (history later : List ClockedLinkAction)
    (hidle : ((fresh codec port repair timing enabled origin).performAll tokens
      history).requester.tasks = [])
    (hfew : (fresh codec port repair timing enabled origin).raisesAll tokens
      (history ++ .act .reset :: later) < 2 ^ 63) :
    let aged := (fresh codec port repair timing enabled origin).performAll tokens history
    aged.reset.observations tokens later =
      (fresh codec port repair timing aged.requester.enabled origin).observations tokens'
        later := by
  intro aged
  -- the run is compared with itself: this bounds the generations by the number of raises
  have hbefore : (fresh codec port repair timing enabled origin).raisesAll tokens history +
      aged.reset.raisesAll tokens later < 2 ^ 63 := by
    rw [raisesAll_append, raisesAll] at hfew
    exact (congrArg (_ + ·) (Nat.zero_add _)).symm.trans_lt hfew
  have haged : aged.Alike (fun _ => 0) 0
      (0 + (fresh codec port repair timing enabled origin).raisesAll tokens history) aged :=
    ((alike_fresh codec port repair timing enabled origin).observations tokens tokens history
      (by omega)).2
  obtain ⟨steps, hsteps⟩ :=
    (fresh codec port repair timing enabled origin).exists_actAll tokens history
  have hafter : aged = after tokens codec port repair timing enabled origin steps := hsteps.symm
  have hfollows := follows_after tokens codec port repair timing enabled origin steps
  have hsettings := settings_after tokens codec port repair timing enabled origin steps
  rw [← hafter] at hfollows hsettings
  obtain ⟨hcodec, hport, hrepair⟩ := hsettings
  have hrenewed := haged.renew hidle
  rw [hcodec, hport, hrepair, hfollows.timing_eq, hfollows.origin_eq, Nat.zero_add] at hrenewed
  exact (hrenewed.observations tokens tokens' later hbefore).1

/-- The sequences of a deferred recording and of a new stream have run out before the reset, so that
the flags are at their first generations. Afterwards the stream comes up again, and a keyframe ends
its sequence. -/
theorem renewal_law_of_new_stream :
    let sender : Net.Endpoint := ⟨.v4 10 0 0 1, 5600⟩
    let history := [.act .recordingKeyframe, .act (.packet 0 (some sender) (some 7)),
      .elapse none 0]
    let later := [.act (.packet 90000000000 (some sender) (some 9)), .act .recordingKeyframe,
      .elapse (some 90300000000) 90000000000,
      .act (.observe [0, 0, 0, 1, 0x26, 0x01, 0xaf, 0x10, 0x42]), .elapse none 90300000000]
    let m := fresh .h265 11223 {} {} true 0
    let aged := m.performAll Token.counting history
    aged.requester.tasks = [] ∧ aged.health.pendingGeneration .stream = 1 ∧
      m.raisesAll Token.counting (history ++ .act .reset :: later) < 2 ^ 63 ∧
      aged.reset.observations Token.counting later = m.observations Token.counting later ∧
      (m.observations Token.counting later).map (·.sent.length) = [0, 0, 6, 0, 0] := by
  intro sender history later m aged
  have hlength : 2 * (history ++ .act .reset :: later).length < 2 ^ 63 := by decide +revert
  have hidle : aged.requester.tasks = [] := by cbv
  have hgeneration : aged.health.pendingGeneration .stream = 1 := by cbv
  have henabled : aged.requester.enabled = true := by cbv
  have hfew : m.raisesAll Token.counting (history ++ .act .reset :: later) < 2 ^ 63 :=
    (m.raisesAll_le Token.counting _).trans_lt hlength
  have hlaw := renewal_law Token.counting Token.counting .h265 11223 {} {} true 0 history later
    hidle hfew
  have hsame : aged.reset.observations Token.counting later =
      (fresh .h265 11223 {} {} aged.requester.enabled 0).observations Token.counting later := hlaw
  rw [henabled] at hsame
  exact ⟨hidle, hgeneration, hfew, hsame, by cbv⟩

end LinkMonitor

end VideoReceiver
