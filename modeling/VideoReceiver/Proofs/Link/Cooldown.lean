import Mathlib.Logic.Function.Basic
import VideoReceiver.Proofs.Link.Transitions

/-!
# Cooldowns

Lost packets, a stalled decoder and a decoder error make the monitor ask for a keyframe. Each of the
three has a cooldown, which only its own requests consume. The stamp of the last request is kept for
this, and zero stands for no request. Stamps wrap around: the last millisecond of their range has
the stamp zero, and a request made in it is forgotten.

## Main definitions

- `Trigger`, `LinkAction.attempt?`: the three causes, and the actions that may find them
- `LinkMonitor.attempt`: what is done about a cause that has been found
- `LinkMonitor.Ready`: the cause is there, and requests may be made
- `LinkMonitor.Attempted`: what an attempt does to the stamps
- `LinkMonitor.triggers`, `requestTimes`: the requests made in a run

## Main statements

- `LinkMonitor.attempted_act`: an attempt makes a request if it is ready and the cooldown is over
- `LinkMonitor.limited_after`: how the stamps and the requests of a run belong together
- `LinkMonitor.cooldown_law`: how far apart requests are, and when one is made
-/

namespace VideoReceiver

/-- A cause of a request that has a cooldown. -/
inductive Trigger where
  | gap
  | stall
  | integrity
  deriving DecidableEq, Repr

def Trigger.cooldown (timing : HealthTiming) : Trigger → Duration
  | gap => timing.gapCooldown
  | stall => timing.stallCooldown
  | integrity => timing.integrityCooldown

/-- The reason that a cause gives for its request. -/
def Trigger.reason : Trigger → RepairReason
  | gap => .rtpGap
  | stall => .decodeStall
  | integrity => .integrity

theorem Trigger.tracking_reason (k : Trigger) : k.reason.tracking = none := by cases k <;> rfl

/-- The cause that an action may find, and when. -/
def LinkAction.attempt? : LinkAction → Option (Trigger × Instant)
  | packet now _ _ => some (.gap, now)
  | tick now => some (.stall, now)
  | integrityRepair now => some (.integrity, now)
  | _ => none

/-- Whether a report tells of a request that has a cooldown. -/
def LinkReport.isRequest : LinkReport → Bool
  | packet report => report.gapRequest
  | tick report => report.stallRequest
  | integrityRepair made => made
  | _ => false

namespace HealthState

/-- The stamps of the last requests. -/
def lastRequest (s : HealthState) : Trigger → Nat
  | .gap => s.lastGapRequest
  | .stall => s.lastStallRequest
  | .integrity => s.lastIntegrityRequest

def setLastRequest (s : HealthState) (k : Trigger) (stamp : Nat) : HealthState :=
  match k with
  | .gap => { s with lastGapRequest := stamp }
  | .stall => { s with lastStallRequest := stamp }
  | .integrity => { s with lastIntegrityRequest := stamp }

theorem lastRequest_setLastRequest (s : HealthState) (k : Trigger) (stamp : Nat) :
    (s.setLastRequest k stamp).lastRequest = Function.update s.lastRequest k stamp := by
  funext j
  by_cases hj : j = k
  · subst hj
    rw [Function.update_self]
    cases j <;> rfl
  · rw [Function.update_of_ne hj]
    cases j <;> cases k <;> first | rfl | exact absurd rfl hj

theorem lastRequest_of_withoutFlags {s s' : HealthState} (h : s'.withoutFlags = s.withoutFlags) :
    s'.lastRequest = s.lastRequest := by
  funext k
  have hflags : ∀ s : HealthState, s.withoutFlags.lastRequest k = s.lastRequest k := by
    intro s
    cases k <;> rfl
  rw [← hflags s', h, hflags s]

/-- The stamp zero is that of the last millisecond of the range. -/
theorem stamp_eq_zero_iff (s : HealthState) (t : Instant) :
    s.stamp t = 0 ↔ (t.since s.origin).toMillis % stampRange = stampRange - 1 := by
  unfold stamp stampRange
  omega

end HealthState

/-! ## The kill-switch -/

namespace Requester

theorem enabled_request (r : Requester) (reason : RepairReason) (repeats : Nat)
    (allowDeferred : Bool) : (r.request reason repeats allowDeferred).2.enabled = r.enabled := by
  unfold request
  split
  · rfl
  · dsimp only
    split
    · split <;> rfl
    · rfl

theorem enabled_retryDeferred (r : Requester) (repeats : Nat) :
    (r.retryDeferred repeats).2.enabled = r.enabled := by
  unfold retryDeferred
  split
  · exact enabled_request _ _ _ _
  · rfl

end Requester

namespace LinkMonitor

variable {tokens : Nat → Token}

theorem enabled_hear (m : LinkMonitor) (now : Instant) (sender : Option Net.Endpoint) :
    (m.hear now sender).requester.enabled = m.requester.enabled := by
  cases sender with
  | none => rfl
  | some s => exact Requester.enabled_retryDeferred _ _

theorem enabled_arrive (m : LinkMonitor) (now : Instant) (sender : Option Net.Endpoint) :
    (m.arrive now sender).requester.enabled = m.requester.enabled := by
  unfold arrive
  split
  · exact m.enabled_hear now sender
  · exact (Requester.enabled_request _ _ _ _).trans (m.enabled_hear now sender)

/-! ## Attempts -/

/-- A cause has been found, so a request is made unless the last one is too recent. -/
def attempt (m : LinkMonitor) (k : Trigger) (now : Instant) : Bool × LinkMonitor :=
  if m.requester.enabled then
    match m.health.claim (m.health.lastRequest k) now (k.cooldown m.timing) with
    | some stamp => (true, (m.setHealth (m.health.setLastRequest k stamp)).send k.reason 1)
    | none => (false, m)
  else (false, m)

theorem onLoss_eq (m : LinkMonitor) (now : Instant) (lost : Nat) :
    m.onLoss now lost =
      (m.setHealth { m.health with lostPackets := m.health.lostPackets + lost }).attempt .gap now :=
  rfl

theorem requestIntegrityRepair_eq (m : LinkMonitor) (now : Instant) :
    m.requestIntegrityRepair now =
      if m.health.streamUp then m.attempt .integrity now else (false, m) := by
  unfold requestIntegrityRepair
  cases m.health.streamUp <;> rfl

theorem tick_eq (m : LinkMonitor) (now : Instant) :
    m.tick now =
      if !m.health.streamUp then ({}, m)
      else if (m.health.packetAge now).any (m.timing.downAfter < ·) then
        ({ wentDown := true }, m.goDown)
      else if m.isStalled now then
        ({ stallRequest := (m.attempt .stall now).1 }, (m.attempt .stall now).2)
      else ({}, m) := by
  unfold tick attempt
  cases m.isStalled now with
  | false => rfl
  | true =>
    cases m.requester.enabled with
    | false => simp only [Bool.and_false, Bool.false_eq_true, if_false, if_true]
    | true =>
      dsimp only [HealthState.lastRequest, Trigger.cooldown, Bool.and_true, if_true]
      cases m.health.claim m.health.lastStallRequest now m.timing.stallCooldown with
      | none => rfl
      | some stamp => rfl

/-- The cooldown of a cause is over, or it has made no request. -/
def MayRequest (m : LinkMonitor) (k : Trigger) (now : Instant) : Prop :=
  m.health.lastRequest k = 0 ∨
    (k.cooldown m.timing).toMillis ≤ m.health.stamp now - m.health.lastRequest k

/-- The packet's sequence number shows that others have been lost. -/
def FindsGap (m : LinkMonitor) (now : Instant) (seq : UInt16) : Prop :=
  ∃ last age, m.health.rtpSequence now = some (last, age) ∧
    2 ≤ Rtp.distance seq last ∧ Rtp.distance seq last < m.timing.reorderThreshold

/-- Packets arrive, but the last picture is too old. The check has not found the link down. -/
def FindsStall (m : LinkMonitor) (now : Instant) : Prop :=
  ∃ decoded packet, m.health.decodedAge now = some decoded ∧
    m.health.packetAge now = some packet ∧ m.timing.stallAfter < decoded ∧
    packet ≤ m.timing.stallPacketWindow ∧ packet ≤ m.timing.downAfter

/-- The link is up, requests may be made, and the action finds its cause. -/
def Ready (m : LinkMonitor) (a : LinkAction) : Prop :=
  m.requester.enabled = true ∧ m.health.streamUp = true ∧
    match a with
    | .packet now _ (some seq) => m.FindsGap now seq
    | .tick now => m.FindsStall now
    | .integrityRepair _ => True
    | _ => False

/-- What an attempt does: it makes a request if it is ready and the cooldown is over, and then the
request's stamp is kept. Otherwise all stamps stay. -/
inductive Attempted (m : LinkMonitor) (k : Trigger) (now : Instant) (ready : Prop)
    (m' : LinkMonitor) : Bool → Prop where
  | made (hready : ready) (hmay : m.MayRequest k now)
      (hlast : m'.health.lastRequest =
        Function.update m.health.lastRequest k (m.health.stamp now)) :
      Attempted m k now ready m' true
  | refused (hno : ready → ¬m.MayRequest k now)
      (hlast : m'.health.lastRequest = m.health.lastRequest) : Attempted m k now ready m' false

/-- Two monitors keep the same cooldowns. -/
structure SameCooldowns (m m' : LinkMonitor) : Prop where
  timing_eq : m'.timing = m.timing
  origin_eq : m'.health.origin = m.health.origin
  lastRequest_eq : m'.health.lastRequest = m.health.lastRequest

theorem Attempted.unready {m m' : LinkMonitor} {k : Trigger} {now : Instant} {ready : Prop}
    (hno : ¬ready) (hlast : m'.health.lastRequest = m.health.lastRequest) :
    Attempted m k now ready m' false :=
  .refused (fun h => absurd h hno) hlast

theorem Attempted.of_iff {m₁ m m' : LinkMonitor} {k : Trigger} {now : Instant}
    {ready₁ ready : Prop} {made : Bool} (h : Attempted m₁ k now ready₁ m' made)
    (hready : ready₁ ↔ ready) (hsame : SameCooldowns m m₁) :
    Attempted m k now ready m' made := by
  have hlast := hsame.lastRequest_eq
  have hstamp : m₁.health.stamp now = m.health.stamp now :=
    HealthState.stamp_eq_of_origin_eq hsame.origin_eq now
  have hmay : m₁.MayRequest k now ↔ m.MayRequest k now := by
    unfold MayRequest
    rw [hlast, hstamp, hsame.timing_eq]
  cases h with
  | made h₁ hmay₁ hlast' =>
    refine .made (hready.1 h₁) (hmay.1 hmay₁) ?_
    rw [hlast', hlast, hstamp]
  | refused hno hlast' =>
    refine .refused ?_ (hlast'.trans hlast)
    intro h hm
    exact hno (hready.2 h) (hmay.2 hm)

theorem Attempted.isRequest_iff {m m' : LinkMonitor} {k : Trigger} {now : Instant} {ready : Prop}
    {made : Bool} (h : Attempted m k now ready m' made) :
    made = true ↔ ready ∧ m.MayRequest k now := by
  cases h with
  | made hready hmay => exact iff_of_true rfl ⟨hready, hmay⟩
  | refused hno => exact iff_of_false nofun (fun h => hno h.1 h.2)

theorem attempted_attempt (m : LinkMonitor) (k : Trigger) (now : Instant) :
    Attempted m k now (m.requester.enabled = true) (m.attempt k now).2 (m.attempt k now).1 := by
  unfold attempt
  by_cases henabled : m.requester.enabled = true
  swap
  · rw [if_neg henabled]
    exact .unready henabled rfl
  rw [if_pos henabled]
  by_cases hmay : m.MayRequest k now
  · have hclaim : m.health.claim (m.health.lastRequest k) now (k.cooldown m.timing) =
        some (m.health.stamp now) := if_pos hmay
    rw [hclaim]
    refine .made henabled hmay ?_
    rw [HealthState.lastRequest_of_withoutFlags (withoutFlags_send _ k.reason 1)]
    exact m.health.lastRequest_setLastRequest k _
  · have hclaim : m.health.claim (m.health.lastRequest k) now (k.cooldown m.timing) = none :=
      if_neg hmay
    rw [hclaim]
    exact .refused (fun _ => hmay) rfl

theorem attempted_onLoss (m : LinkMonitor) (now : Instant) (lost : Nat) :
    Attempted m .gap now (m.requester.enabled = true) (m.onLoss now lost).2
      (m.onLoss now lost).1 := by
  rw [onLoss_eq]
  -- how many packets were lost does not matter
  exact (attempted_attempt _ .gap now).of_iff Iff.rfl ⟨rfl, rfl, rfl⟩

theorem attempted_trackSequence (m : LinkMonitor) (now : Instant) (seq : UInt16) :
    Attempted m .gap now (m.requester.enabled = true ∧ m.FindsGap now seq)
      (m.trackSequence now seq).2 (m.trackSequence now seq).1.gapRequest := by
  -- stated for any base, so that the packed word is never unfolded
  have hbase : ∀ rtpBase, SameCooldowns m (m.setHealth { m.health with rtpBase }) := fun _ =>
    ⟨rfl, rfl, rfl⟩
  have hset : SameCooldowns m (m.setHealth (m.health.setRtpSequence seq now)) := hbase _
  cases hstored : m.health.rtpSequence now with
  | none =>
    have hno : ¬m.FindsGap now seq := by
      rintro ⟨last, age, hlast, -⟩
      rw [hstored] at hlast
      cases hlast
    simp only [trackSequence, hstored]
    exact .unready (fun h => hno h.2) hset.lastRequest_eq
  | some base =>
    obtain ⟨last, age⟩ := base
    have hfinds : m.FindsGap now seq ↔
        2 ≤ Rtp.distance seq last ∧ Rtp.distance seq last < m.timing.reorderThreshold := by
      simp [FindsGap, hstored]
    simp only [trackSequence, hstored, hfinds]
    generalize Rtp.distance seq last = ahead
    by_cases hduplicate : ahead = 0
    · rw [if_pos hduplicate]
      exact .unready (fun h => by simp [hduplicate] at h) rfl
    by_cases hnext : ahead = 1
    · rw [if_neg hduplicate, if_pos hnext]
      exact .unready (fun h => by simp [hnext] at h) hset.lastRequest_eq
    rw [if_neg hduplicate, if_neg hnext]
    by_cases hgap : ahead < m.timing.reorderThreshold
    · rw [if_pos hgap]
      have hahead : 2 ≤ ahead := by grind
      have hready : m.requester.enabled = true ↔ m.requester.enabled = true ∧
          2 ≤ ahead ∧ ahead < m.timing.reorderThreshold := by simp [hahead, hgap]
      exact (attempted_onLoss _ now _).of_iff hready hset
    · rw [if_neg hgap]
      split
      · exact .unready (fun h => hgap h.2.2) hset.lastRequest_eq
      · exact .unready (fun h => hgap h.2.2) rfl

theorem sameCooldowns_arrive (m : LinkMonitor) (now : Instant) (sender : Option Net.Endpoint) :
    SameCooldowns m (m.arrive now sender) := by
  have hreceived := m.received_arrive now sender
  have hlast : (m.arrive now sender).health.withoutFlags.lastRequest =
      m.health.withoutFlags.lastRequest := by
    rw [withoutFlags_arrive]
    funext k
    cases k <;> rfl
  exact ⟨hreceived.timing_eq, hreceived.origin_eq, hlast⟩

theorem findsGap_arrive (m : LinkMonitor) (now : Instant) (sender : Option Net.Endpoint)
    (seq : UInt16) :
    (m.arrive now sender).FindsGap now seq ↔ m.health.streamUp = true ∧ m.FindsGap now seq := by
  have hreceived := m.received_arrive now sender
  have hbase : (m.arrive now sender).health.rtpBase =
      if m.health.streamUp then m.health.rtpBase else .empty :=
    congrArg HealthState.rtpBase (m.withoutFlags_arrive now sender)
  by_cases hup : m.health.streamUp = true
  · rw [if_pos hup] at hbase
    have hsequence : (m.arrive now sender).health.rtpSequence now = m.health.rtpSequence now := by
      rw [HealthState.rtpSequence, hbase,
        HealthState.stamp_eq_of_origin_eq hreceived.origin_eq now]
      rfl
    unfold FindsGap
    rw [hsequence, hreceived.timing_eq]
    exact (and_iff_right hup).symm
  · rw [if_neg hup] at hbase
    -- a link that comes up has no number to compare with
    refine iff_of_false ?_ (fun h => hup h.1)
    rintro ⟨last, age, hlast, -⟩
    rw [HealthState.rtpSequence_of_empty hbase] at hlast
    cases hlast

theorem attempted_onPacket (m : LinkMonitor) (now : Instant) (sender : Option Net.Endpoint)
    (seq : Option UInt16) :
    Attempted m .gap now (m.Ready (.packet now sender seq)) (m.onPacket now sender seq).2
      (m.onPacket now sender seq).1.gapRequest := by
  have hsame := m.sameCooldowns_arrive now sender
  rw [onPacket_eq]
  cases seq with
  | none => exact .unready (fun h => h.2.2) hsame.lastRequest_eq
  | some seq =>
    refine (attempted_trackSequence (m.arrive now sender) now seq).of_iff ?_ hsame
    rw [enabled_arrive, findsGap_arrive]
    exact Iff.rfl

theorem findsStall_iff {m : LinkMonitor} {now : Instant}
    (hrecent : ∀ age, m.health.packetAge now = some age → age ≤ m.timing.downAfter) :
    m.FindsStall now ↔ m.isStalled now = true := by
  unfold FindsStall isStalled
  cases hdecoded : m.health.decodedAge now with
  | none => simp
  | some decoded =>
    cases hpacket : m.health.packetAge now with
    | none => simp
    | some packet => simp [hrecent packet hpacket]

theorem attempted_tick (m : LinkMonitor) (now : Instant) :
    Attempted m .stall now (m.Ready (.tick now)) (m.tick now).2 (m.tick now).1.stallRequest := by
  rw [tick_eq]
  by_cases hup : m.health.streamUp = true
  swap
  · rw [if_pos (by simp [hup])]
    exact .unready (fun h => hup h.2.1) rfl
  rw [if_neg (by simp [hup])]
  by_cases hold : (m.health.packetAge now).any (m.timing.downAfter < ·) = true
  · rw [if_pos hold]
    refine .unready ?_ rfl
    rintro ⟨-, -, decoded, packet, -, hpacket, -, -, hrecent⟩
    rw [hpacket] at hold
    simp [Nat.not_lt.2 hrecent] at hold
  have hrecent : ∀ age, m.health.packetAge now = some age → age ≤ m.timing.downAfter := by
    simpa [Option.any_eq_true] using hold
  rw [if_neg hold]
  by_cases hstalled : m.isStalled now = true
  · have hready : m.requester.enabled = true ↔ m.Ready (.tick now) :=
      ⟨fun h => ⟨h, hup, (findsStall_iff hrecent).2 hstalled⟩, fun h => h.1⟩
    rw [if_pos hstalled]
    exact (m.attempted_attempt .stall now).of_iff hready ⟨rfl, rfl, rfl⟩
  · rw [if_neg hstalled]
    exact .unready (fun h => hstalled ((findsStall_iff hrecent).1 h.2.2)) rfl

theorem attempted_requestIntegrityRepair (m : LinkMonitor) (now : Instant) :
    Attempted m .integrity now (m.Ready (.integrityRepair now)) (m.requestIntegrityRepair now).2
      (m.requestIntegrityRepair now).1 := by
  rw [requestIntegrityRepair_eq]
  by_cases hup : m.health.streamUp = true
  · have hready : m.requester.enabled = true ↔ m.Ready (.integrityRepair now) :=
      ⟨fun h => ⟨h, hup, trivial⟩, fun h => h.1⟩
    rw [if_pos hup]
    exact (m.attempted_attempt .integrity now).of_iff hready ⟨rfl, rfl, rfl⟩
  · rw [if_neg hup]
    exact .unready (fun h => hup h.2.1) rfl

/-- An attempt makes a request exactly if it is ready and the cooldown of its cause is over. -/
theorem attempted_act (tokens : Nat → Token) (m : LinkMonitor) {a : LinkAction} {k : Trigger}
    {now : Instant} (h : a.attempt? = some (k, now)) :
    Attempted m k now (m.Ready a) (m.act tokens a).2 (m.act tokens a).1.isRequest := by
  cases a with
  | packet now sender seq =>
    cases h
    exact m.attempted_onPacket now sender seq
  | tick now =>
    cases h
    exact m.attempted_tick now
  | integrityRepair now =>
    cases h
    exact m.attempted_requestIntegrityRepair now
  | _ => cases h

/-- What is no attempt leaves the cooldowns alone, unless it is a reset. -/
theorem lastRequest_act (tokens : Nat → Token) (m : LinkMonitor) {a : LinkAction}
    (h : a.attempt? = none) (hreset : a ≠ .reset) :
    (m.act tokens a).2.health.lastRequest = m.health.lastRequest := by
  have hrequest : ∀ requester : Requester,
      requester.health.withoutFlags = m.health.withoutFlags →
        requester.health.lastRequest = m.health.lastRequest := fun _ h =>
    HealthState.lastRequest_of_withoutFlags h
  cases a with
  | packet now sender seq => cases h
  | tick now => cases h
  | integrityRepair now => cases h
  | reset => exact absurd rfl hreset
  | frameDecoded now =>
    funext k
    cases k <;> rfl
  | setEnabled enabled => rfl
  | startClock now => rfl
  | recordingKeyframe =>
    exact hrequest (m.requester.request .recordStart _ _).2 (Requester.withoutFlags_request _ _ _ _)
  | request reason repeats allowDeferred =>
    exact hrequest _ (m.requester.withoutFlags_request reason repeats allowDeferred)
  | retryDeferred repeats => exact hrequest _ (m.requester.withoutFlags_retryDeferred repeats)
  | observe data => exact hrequest _ (m.requester.withoutFlags_observe data)
  | proceed index due => exact hrequest _ (RepairRun.withoutFlags_proceed tokens _ index due)

/-! ## Runs -/

variable (tokens) in
/-- The request that an action makes. -/
def trigger? (m : LinkMonitor) (a : LinkAction) : Option (Trigger × Instant) :=
  if (m.act tokens a).1.isRequest then a.attempt? else none

variable (tokens) in
/-- The requests made in a run, in order. -/
def triggers (m : LinkMonitor) : List LinkAction → List (Trigger × Instant)
  | [] => []
  | a :: actions => (m.trigger? tokens a).toList ++ (m.act tokens a).2.triggers actions

theorem triggers_append (m : LinkMonitor) (actions later : List LinkAction) :
    m.triggers tokens (actions ++ later) =
      m.triggers tokens actions ++ (m.actAll tokens actions).triggers tokens later := by
  induction actions generalizing m with
  | nil => rfl
  | cons a actions ih =>
    show _ ++ (m.act tokens a).2.triggers tokens (actions ++ later) = _
    rw [ih, ← List.append_assoc]
    rfl

/-- When requests of one cause were made. -/
def requestTimes (k : Trigger) (made : List (Trigger × Instant)) : List Instant :=
  made.filterMap fun r => if r.1 = k then some r.2 else none

/-- The stamps are those of the requests made so far, which keep their distance. -/
structure Limited (m : LinkMonitor) (made : List (Trigger × Instant)) : Prop where
  last_eq : ∀ k, m.health.lastRequest k =
    ((requestTimes k made).getLast?.map m.health.stamp).getD 0
  spaced : ∀ k, 0 < (k.cooldown m.timing).toMillis →
    (requestTimes k made).IsChain fun t t' => m.health.stamp t ≠ 0 →
      m.health.stamp t + (k.cooldown m.timing).toMillis ≤ m.health.stamp t'

/-- A cooldown is over if the stamp of the last request allows it. -/
theorem Limited.mayRequest_iff {m : LinkMonitor} {made : List (Trigger × Instant)}
    (h : Limited m made) {k : Trigger} (hcooldown : 0 < (k.cooldown m.timing).toMillis)
    (now : Instant) :
    m.MayRequest k now ↔ ∀ t ∈ (requestTimes k made).getLast?, m.health.stamp t = 0 ∨
      m.health.stamp t + (k.cooldown m.timing).toMillis ≤ m.health.stamp now := by
  unfold MayRequest
  rw [h.last_eq k]
  cases (requestTimes k made).getLast? with
  | none => simp
  | some t =>
    simp only [Option.map_some, Option.getD_some, Option.mem_some_iff, forall_eq']
    omega

theorem Limited.of_sameCooldowns {m m' : LinkMonitor} {made : List (Trigger × Instant)}
    (h : Limited m made) (hsame : SameCooldowns m m') : Limited m' made := by
  have hstamp : m'.health.stamp = m.health.stamp :=
    funext (HealthState.stamp_eq_of_origin_eq hsame.origin_eq)
  constructor
  · intro k
    rw [hsame.lastRequest_eq, hstamp]
    exact h.last_eq k
  · rw [hsame.timing_eq, hstamp]
    exact h.spaced

/-- A request that its cooldown allows keeps the distance from the last one. -/
theorem Limited.add {m m' : LinkMonitor} {made : List (Trigger × Instant)} (h : Limited m made)
    {k : Trigger} {now : Instant} (hmay : m.MayRequest k now) (htiming : m'.timing = m.timing)
    (horigin : m'.health.origin = m.health.origin)
    (hlast : m'.health.lastRequest =
      Function.update m.health.lastRequest k (m.health.stamp now)) :
    Limited m' (made ++ [(k, now)]) := by
  have hstamp : m'.health.stamp = m.health.stamp :=
    funext (HealthState.stamp_eq_of_origin_eq horigin)
  have htimes : ∀ j, requestTimes j (made ++ [(k, now)]) =
      requestTimes j made ++ if k = j then [now] else [] := by
    intro j
    by_cases hj : k = j <;> simp [requestTimes, hj]
  constructor
  · intro j
    rw [hlast, hstamp, htimes j]
    by_cases hj : k = j
    · subst hj
      simp
    · rw [Function.update_of_ne (Ne.symm hj), if_neg hj, List.append_nil]
      exact h.last_eq j
  · rw [htiming, hstamp]
    intro j hcooldown
    rw [htimes j]
    by_cases hj : k = j
    · subst hj
      rw [if_pos rfl]
      refine (h.spaced k hcooldown).append (.singleton now) ?_
      intro t ht t' ht' hne
      obtain rfl : now = t' := by simpa using ht'
      exact ((h.mayRequest_iff hcooldown now).1 hmay t ht).resolve_left hne
    · rw [if_neg hj, List.append_nil]
      exact h.spaced j hcooldown

theorem Limited.act {m : LinkMonitor} {made : List (Trigger × Instant)} (h : Limited m made)
    {a : LinkAction} (hreset : a ≠ .reset) (htiming : (m.act tokens a).2.timing = m.timing)
    (horigin : (m.act tokens a).2.health.origin = m.health.origin) :
    Limited (m.act tokens a).2 (made ++ (m.trigger? tokens a).toList) := by
  cases hattempt : a.attempt? with
  | none =>
    have hno : m.trigger? tokens a = none := by simp [trigger?, hattempt]
    rw [hno, Option.toList_none, List.append_nil]
    exact h.of_sameCooldowns ⟨htiming, horigin, m.lastRequest_act tokens hattempt hreset⟩
  | some attempt =>
    obtain ⟨k, now⟩ := attempt
    have hattempted := m.attempted_act tokens hattempt
    have htrigger : m.trigger? tokens a =
        if (m.act tokens a).1.isRequest then some (k, now) else none := by
      rw [trigger?, hattempt]
    rw [htrigger]
    generalize (m.act tokens a).1.isRequest = made? at hattempted
    cases hattempted with
    | made hready hmay hlast => exact h.add hmay htiming horigin hlast
    | refused hno hlast =>
      rw [if_neg (by decide), Option.toList_none, List.append_nil]
      exact h.of_sameCooldowns ⟨htiming, horigin, hlast⟩

section After

variable (tokens) (codec : Codec) (port : UInt16) (repair : RepairTiming) (timing : HealthTiming)
  (enabled : Bool) (origin : Instant)

theorem limited_after (actions : List LinkAction) (hreset : .reset ∉ actions) :
    Limited (after tokens codec port repair timing enabled origin actions)
      ((after tokens codec port repair timing enabled origin []).triggers tokens actions) := by
  induction actions using List.reverseRecOn with
  | nil => exact ⟨fun k => by cases k <;> rfl, fun k _ => .nil⟩
  | append_singleton actions a ih =>
    have hbefore := follows_after tokens codec port repair timing enabled origin actions
    have hafter := hbefore.effect (effect_act tokens _ a)
    rw [List.mem_append, List.mem_singleton, not_or] at hreset
    have hact := (ih hreset.1).act (Ne.symm hreset.2)
      (hafter.timing_eq.trans hbefore.timing_eq.symm)
      (hafter.origin_eq.trans hbefore.origin_eq.symm)
    rw [after_append, triggers_append]
    show Limited _ (_ ++ (_ ++ []))
    rw [List.append_nil]
    exact hact

/-- **How far apart requests are, and when one is made.** Take a run of a fresh monitor without a
reset, at whatever times, and a cause whose cooldown is positive. Of two requests of that cause that
follow each other the later one has a stamp that is larger by at least the cooldown, unless the
stamp of the earlier one is zero. An attempt makes a request exactly if it is ready and either there
has been no request of that cause, or the stamp of the last one is zero or smaller by at least the
cooldown. So neither refused attempts nor requests of another cause delay it. Zero is the stamp of
the last millisecond of the range, and of no other. -/
theorem cooldown_law (actions : List LinkAction) (hreset : .reset ∉ actions) (k : Trigger)
    (hcooldown : 0 < (k.cooldown timing).toMillis) :
    let fresh := after tokens codec port repair timing enabled origin []
    let m := after tokens codec port repair timing enabled origin actions
    let times := requestTimes k (fresh.triggers tokens actions)
    times.IsChain (fun t t' => m.health.stamp t ≠ 0 →
        m.health.stamp t + (k.cooldown timing).toMillis ≤ m.health.stamp t') ∧
      (∀ a now, a.attempt? = some (k, now) →
        ((m.act tokens a).1.isRequest = true ↔ m.Ready a ∧
          ∀ t ∈ times.getLast?, m.health.stamp t = 0 ∨
            m.health.stamp t + (k.cooldown timing).toMillis ≤ m.health.stamp now)) ∧
      ∀ t, m.health.stamp t = 0 ↔ (t.since origin).toMillis % stampRange = stampRange - 1 := by
  intro fresh m times
  have hfollows : Follows timing origin actions m :=
    follows_after tokens codec port repair timing enabled origin actions
  have hlimited : Limited m (fresh.triggers tokens actions) :=
    limited_after tokens codec port repair timing enabled origin actions hreset
  rw [← hfollows.timing_eq] at hcooldown ⊢
  refine ⟨hlimited.spaced k hcooldown, ?_, ?_⟩
  · intro a now hattempt
    rw [← hlimited.mayRequest_iff hcooldown now]
    exact (m.attempted_act tokens hattempt).isRequest_iff
  · intro t
    rw [HealthState.stamp_eq_zero_iff, hfollows.origin_eq]

end After

/-- Time goes backwards, the switch is used and another cause makes a request. The next request for
lost packets is made as soon as the cooldown of the last one is over. -/
theorem cooldown_law_of_unordered_times :
    let actions : List LinkAction := [.packet 0 none (some 10), .packet 900000000 none (some 20),
      .packet 100000000 none (some 30), .setEnabled false, .packet 1400000000 none (some 40),
      .setEnabled true, .integrityRepair 1399000000]
    let fresh := after Token.counting .h265 11223 {} {} true 0 []
    let m := after Token.counting .h265 11223 {} {} true 0 actions
    .reset ∉ actions ∧ 0 < (Trigger.gap.cooldown {}).toMillis ∧
      requestTimes .gap (fresh.triggers Token.counting actions) = [900000000] ∧
      m.Ready (.packet 1400000000 none (some 50)) ∧
      (m.act Token.counting (.packet 1400000000 none (some 50))).1.isRequest = true := by
  intro actions fresh m
  have hreset : .reset ∉ actions := by decide +revert
  have hcooldown : 0 < (Trigger.gap.cooldown {}).toMillis := by decide
  have htimes : requestTimes .gap (fresh.triggers Token.counting actions) = [900000000] := by
    decide +kernel +revert
  have hover : m.health.stamp 900000000 + (Trigger.gap.cooldown {}).toMillis ≤
      m.health.stamp 1400000000 := by
    decide +kernel +revert
  have hready : m.Ready (.packet 1400000000 none (some 50)) := by
    refine ⟨?_, ?_, 40, 0, ?_⟩ <;> decide +kernel +revert
  obtain ⟨-, hrequest, -⟩ :=
    cooldown_law Token.counting .h265 11223 {} {} true 0 actions hreset .gap hcooldown
  refine ⟨hreset, hcooldown, htimes, hready, (hrequest _ _ rfl).2 ⟨hready, ?_⟩⟩
  intro t ht
  rw [htimes] at ht
  obtain rfl : 900000000 = t := by simpa using ht
  exact .inr hover

/-- A request in the last millisecond of the range is forgotten, and the next one follows it after a
millisecond. -/
theorem request_within_cooldown :
    let m := after Token.counting .h265 11223 {} {} true 0
      [.packet 0 none none, .integrityRepair 18446744073709551615000000]
    requestTimes .integrity ((after Token.counting .h265 11223 {} {} true 0 []).triggers
        Token.counting [.packet 0 none none, .integrityRepair 18446744073709551615000000]) =
        [18446744073709551615000000] ∧
      18446744073709551616000000 - 18446744073709551615000000 < m.timing.integrityCooldown ∧
      (m.act Token.counting (.integrityRepair 18446744073709551616000000)).1.isRequest = true := by
  decide +kernel

end LinkMonitor

end VideoReceiver
