import VideoReceiver.Proofs.Link.Independence

/-!
# Deferred recording requests

A recording request for which no sender is known is deferred. However many are, a single request is
made for them with the first packet that tells its sender while requests are switched on, unless a
keyframe has confirmed the recording or the monitor has been reset before.

## Main definitions

- `Requester.Starts`, `LinkMonitor.started`: the sequences that are started
- `LinkMonitor.resolves`: whether an action ends a deferral
- `Requester.KeepsDeferral`: a deferral stays as it is

## Main statements

- `LinkMonitor.recordDeferred_act`: what an action does to a deferral
- `LinkMonitor.recordDeferred_iff`: whether a recording is deferred after a run
- `LinkMonitor.exists_starts_act`: the sequences that an action starts
- `LinkMonitor.deferral_law`: how deferred requests are made again
-/

namespace VideoReceiver

/-- Whether an action asks the requester itself. -/
def LinkAction.isDirect : LinkAction → Bool
  | request .. | retryDeferred _ => true
  | _ => false

namespace HealthState

theorem sender_raiseFor (s : HealthState) (reason : RepairReason) :
    (s.raiseFor reason).2.sender = s.sender := by
  unfold raiseFor
  split
  · next flag _ => cases flag <;> rfl
  · rfl

theorem recordDeferred_raiseFor (s : HealthState) (reason : RepairReason) :
    (s.raiseFor reason).2.recordDeferred = s.recordDeferred := by
  unfold raiseFor
  split
  · next flag _ => cases flag <;> rfl
  · rfl

end HealthState

namespace Requester

/-! ## Starting sequences -/

/-- The sequence that a request starts for a sender. -/
def newSequence (r : Requester) (reason : RepairReason) (repeats : Nat) (sender : Net.Endpoint) :
    RepeatSequence where
  id := r.dispatched + 1
  reason
  tracking := (r.health.raiseFor reason).1
  target := sender.withPort r.port
  timing := r.timing
  burstsLeft := repeats

/-- The given sequences are started behind the others; nothing that they are made from changes. -/
structure Starts (r : Requester) (started : List RepeatSequence) (r' : Requester) : Prop where
  tasks_eq : r'.tasks = r.tasks ++ started.map fun s => (⟨s, none⟩ : RepeatTask)
  dispatched_eq : r'.dispatched = r.dispatched + started.length
  codec_eq : r'.codec = r.codec
  port_eq : r'.port = r.port
  timing_eq : r'.timing = r.timing

variable {r r' r₁ r₂ r₃ : Requester}

theorem Starts.nothing (htasks : r'.tasks = r.tasks) (hdispatched : r'.dispatched = r.dispatched)
    (hcodec : r'.codec = r.codec) (hport : r'.port = r.port) (htiming : r'.timing = r.timing) :
    r.Starts [] r' :=
  ⟨by rw [htasks, List.map_nil, List.append_nil], hdispatched, hcodec, hport, htiming⟩

theorem Starts.trans {started more : List RepeatSequence} (h₁ : r₁.Starts started r₂)
    (h₂ : r₂.Starts more r₃) : r₁.Starts (started ++ more) r₃ where
  tasks_eq := by rw [h₂.tasks_eq, h₁.tasks_eq, List.map_append, List.append_assoc]
  dispatched_eq := by
    rw [h₂.dispatched_eq, h₁.dispatched_eq, List.length_append, Nat.add_assoc]
  codec_eq := h₂.codec_eq.trans h₁.codec_eq
  port_eq := h₂.port_eq.trans h₁.port_eq
  timing_eq := h₂.timing_eq.trans h₁.timing_eq

/-- A request starts a sequence exactly if it is not switched off and a sender is known. It is
deferred if that is allowed and no sender is known. -/
theorem request_cases (r : Requester) (reason : RepairReason) (repeats : Nat)
    (allowDeferred : Bool) :
    (∃ sender, r.enabled = true ∧ r.health.sender = some sender ∧
        (r.request reason repeats allowDeferred).1 = .dispatched ∧
        (r.request reason repeats allowDeferred).2.health.recordDeferred =
          r.health.recordDeferred ∧
        r.Starts [r.newSequence reason repeats sender]
          (r.request reason repeats allowDeferred).2) ∨
      ((r.enabled = true → r.health.sender = none) ∧
        (r.request reason repeats allowDeferred).2.health.recordDeferred =
          (r.health.recordDeferred ||
            (r.request reason repeats allowDeferred).1 == .deferred) ∧
        (allowDeferred = false → (r.request reason repeats allowDeferred).1 ≠ .deferred) ∧
        r.Starts [] (r.request reason repeats allowDeferred).2) := by
  by_cases he : r.enabled = true
  · cases hs : r.health.sender with
    | none =>
      rw [request_of_no_sender he (by rw [HealthState.sender_raiseFor, hs])]
      refine .inr ⟨fun _ => rfl, ?_⟩
      cases allowDeferred with
      | false =>
        refine ⟨?_, fun _ => nofun, .nothing rfl rfl rfl rfl rfl⟩
        exact (r.health.recordDeferred_raiseFor reason).trans (Bool.or_false _).symm
      | true => exact ⟨(Bool.or_true _).symm, nofun, .nothing rfl rfl rfl rfl rfl⟩
    | some sender =>
      rw [request_of_sender he (by rw [HealthState.sender_raiseFor, hs])]
      exact .inl ⟨sender, he, rfl, rfl, r.health.recordDeferred_raiseFor reason,
        rfl, rfl, rfl, rfl, rfl⟩
  · have hoff : r.enabled = false := Bool.eq_false_iff.2 he
    rw [request_of_disabled hoff]
    exact .inr ⟨fun h => absurd h he, (Bool.or_false _).symm, fun _ => nofun,
      .nothing rfl rfl rfl rfl rfl⟩

theorem exists_starts_request (r : Requester) (reason : RepairReason) (repeats : Nat)
    (allowDeferred : Bool) :
    ∃ started, r.Starts started (r.request reason repeats allowDeferred).2 := by
  obtain ⟨sender, -, -, -, -, hstarts⟩ | ⟨-, -, -, hstarts⟩ :=
    r.request_cases reason repeats allowDeferred
  · exact ⟨_, hstarts⟩
  · exact ⟨[], hstarts⟩

theorem exists_starts_retryDeferred (r : Requester) (repeats : Nat) :
    ∃ started, r.Starts started (r.retryDeferred repeats).2 := by
  unfold retryDeferred
  split
  · let r₁ : Requester := { r with health := { r.health with recordDeferred := false } }
    have hcleared : r.Starts [] r₁ := .nothing rfl rfl rfl rfl rfl
    obtain ⟨started, hstarts⟩ := r₁.exists_starts_request .recordStartDeferred repeats false
    exact ⟨_, hcleared.trans hstarts⟩
  · exact ⟨[], .nothing rfl rfl rfl rfl rfl⟩

/-- A deferral stays as it is, and the sequences that are started have other reasons. -/
def KeepsDeferral (r r' : Requester) : Prop :=
  r'.health.recordDeferred = r.health.recordDeferred ∧
    ∃ started, r.Starts started r' ∧ ∀ s ∈ started, s.reason ≠ .recordStartDeferred

theorem KeepsDeferral.of_health {health : HealthState}
    (h : health.recordDeferred = r.health.recordDeferred) :
    r.KeepsDeferral { r with health } :=
  ⟨h, [], .nothing rfl rfl rfl rfl rfl, nofun⟩

theorem KeepsDeferral.refl (r : Requester) : r.KeepsDeferral r := .of_health rfl

theorem KeepsDeferral.trans (h₁ : r₁.KeepsDeferral r₂) (h₂ : r₂.KeepsDeferral r₃) :
    r₁.KeepsDeferral r₃ := by
  obtain ⟨hsame₁, started, hstarts₁, hother₁⟩ := h₁
  obtain ⟨hsame₂, more, hstarts₂, hother₂⟩ := h₂
  exact ⟨hsame₂.trans hsame₁, started ++ more, hstarts₁.trans hstarts₂,
    List.forall_mem_append.2 ⟨hother₁, hother₂⟩⟩

theorem keepsDeferral_request (r : Requester) (reason : RepairReason)
    (hreason : reason ≠ .recordStartDeferred) (repeats : Nat) :
    r.KeepsDeferral (r.request reason repeats false).2 := by
  obtain ⟨sender, -, -, -, hdeferred, hstarts⟩ | ⟨-, hdeferred, hnot, hstarts⟩ :=
    r.request_cases reason repeats false
  · exact ⟨hdeferred, _, hstarts, List.forall_mem_singleton.2 hreason⟩
  · refine ⟨?_, [], hstarts, nofun⟩
    rw [hdeferred, beq_false_of_ne (hnot rfl), Bool.or_false]

/-- The sequences that are started for deferred recordings, among any others. -/
def StartsDeferred (r : Requester) (restarted : List RepeatSequence) (r' : Requester) : Prop :=
  ∃ started, r.Starts started r' ∧
    started.filter (·.reason == .recordStartDeferred) = restarted

theorem StartsDeferred.trans {restarted : List RepeatSequence}
    (h₁ : r₁.StartsDeferred restarted r₂) (h₂ : r₂.KeepsDeferral r₃) :
    r₁.StartsDeferred restarted r₃ := by
  obtain ⟨started, hstarts₁, rfl⟩ := h₁
  obtain ⟨-, more, hstarts₂, hother⟩ := h₂
  refine ⟨started ++ more, hstarts₁.trans hstarts₂, ?_⟩
  have hnone : more.filter (·.reason == .recordStartDeferred) = [] := by
    rw [List.filter_eq_nil_iff]
    intro s hs
    rw [beq_iff_eq]
    exact hother s hs
  rw [List.filter_append, hnone, List.append_nil]

theorem StartsDeferred.nothing (h : r.Starts [] r') : r.StartsDeferred [] r' := ⟨[], h, rfl⟩

theorem KeepsDeferral.startsDeferred (h : r.KeepsDeferral r') : r.StartsDeferred [] r' :=
  StartsDeferred.trans (.nothing (.nothing rfl rfl rfl rfl rfl)) h

theorem starts_observe (r : Requester) (data : Bytes) : r.Starts [] (r.observe data).2 := by
  unfold observe
  split
  · split
    · exact .nothing rfl rfl rfl rfl rfl
    · exact .nothing rfl rfl rfl rfl rfl
  · exact .nothing rfl rfl rfl rfl rfl

/-- The sequence that a deferred request starts for a sender, if there is one. -/
def deferredStart (r : Requester) (repeats : Nat) (sender : Net.Endpoint) :
    List RepeatSequence :=
  if r.enabled && r.health.recordDeferred then
    [r.newSequence .recordStartDeferred repeats sender] else []

theorem retryDeferred_spec {sender : Net.Endpoint} (hsender : r.health.sender = some sender)
    (repeats : Nat) :
    (r.retryDeferred repeats).2.health.recordDeferred =
        (r.health.recordDeferred && !r.enabled) ∧
      r.Starts (r.deferredStart repeats sender) (r.retryDeferred repeats).2 := by
  unfold retryDeferred deferredStart
  by_cases hretry : (r.enabled && r.health.recordDeferred) = true
  · rw [if_pos hretry, if_pos hretry]
    rw [Bool.and_eq_true] at hretry
    let r₁ : Requester := { r with health := { r.health with recordDeferred := false } }
    obtain ⟨sender', -, hsender', -, hdeferred, hstarts⟩ | ⟨hnone, -⟩ :=
      r₁.request_cases .recordStartDeferred repeats false
    · have hsame : sender' = sender := Option.some.inj (hsender'.symm.trans hsender)
      subst hsame
      refine ⟨hdeferred.trans ?_, hstarts.tasks_eq, hstarts.dispatched_eq, hstarts.codec_eq,
        hstarts.port_eq, hstarts.timing_eq⟩
      rw [hretry.1, Bool.not_true, Bool.and_false]
    · have hno : r.health.sender = none := hnone hretry.1
      rw [hsender] at hno
      cases hno
  · rw [if_neg hretry, if_neg hretry]
    refine ⟨?_, .nothing rfl rfl rfl rfl rfl⟩
    cases he : r.enabled with
    | false => rw [Bool.not_false, Bool.and_true]
    | true =>
      rw [he, Bool.true_and] at hretry
      rw [Bool.not_true, Bool.and_false, Bool.eq_false_iff.2 hretry]

end Requester

namespace LinkMonitor

open Requester (KeepsDeferral Starts)

/-! ## Packets and checks -/

theorem keepsDeferral_send (m : LinkMonitor) (reason : RepairReason)
    (hreason : reason ≠ .recordStartDeferred) (repeats : Nat) :
    m.requester.KeepsDeferral (m.send reason repeats).requester :=
  m.requester.keepsDeferral_request reason hreason repeats

theorem keepsDeferral_comeUp (m : LinkMonitor) :
    m.requester.KeepsDeferral m.comeUp.requester := by
  have hup : m.requester.KeepsDeferral
      (m.setHealth { m.health with streamUp := true }.clearRtpSequence).requester := .of_health rfl
  exact hup.trans (Requester.keepsDeferral_request _ .streamUp (by decide) _)

theorem keepsDeferral_onLoss (m : LinkMonitor) (now : Instant) (lost : Nat) :
    m.requester.KeepsDeferral (m.onLoss now lost).2.requester := by
  let m₁ := m.setHealth { m.health with lostPackets := m.health.lostPackets + lost }
  have hlost : m.requester.KeepsDeferral m₁.requester := .of_health rfl
  have hclaimed : ∀ stamp, m₁.requester.KeepsDeferral
      (m₁.setHealth { m₁.health with lastGapRequest := stamp }).requester := fun _ => .of_health rfl
  simp only [onLoss]
  split
  · split
    · next stamp _ =>
      exact hlost.trans ((hclaimed stamp).trans (keepsDeferral_send _ .rtpGap (by decide) 1))
    · exact hlost
  · exact hlost

theorem keepsDeferral_trackSequence (m : LinkMonitor) (now : Instant) (seq : UInt16) :
    m.requester.KeepsDeferral (m.trackSequence now seq).2.requester := by
  -- stated for any base, so that the packed word is never unfolded
  have hbase : ∀ rtpBase, m.requester.KeepsDeferral
      (m.setHealth { m.health with rtpBase }).requester := fun _ => .of_health rfl
  have hset : m.requester.KeepsDeferral
      (m.setHealth (m.health.setRtpSequence seq now)).requester := hbase _
  simp only [trackSequence]
  cases m.health.rtpSequence now with
  | none => exact hset
  | some base =>
    dsimp only
    generalize Rtp.distance seq base.1 = ahead
    by_cases hduplicate : ahead = 0
    · rw [if_pos hduplicate]
      exact .refl _
    by_cases hnext : ahead = 1
    · rw [if_neg hduplicate, if_pos hnext]
      exact hset
    by_cases hgap : ahead < m.timing.reorderThreshold
    · rw [if_neg hduplicate, if_neg hnext, if_pos hgap]
      exact hset.trans (keepsDeferral_onLoss _ now _)
    rw [if_neg hduplicate, if_neg hnext, if_neg hgap]
    split
    · exact hset
    · exact .refl _

theorem keepsDeferral_tick (m : LinkMonitor) (now : Instant) :
    m.requester.KeepsDeferral (m.tick now).2.requester := by
  have hclaimed : ∀ stamp, m.requester.KeepsDeferral
      (m.setHealth { m.health with lastStallRequest := stamp }).requester :=
    fun _ => .of_health rfl
  have hdown : m.requester.KeepsDeferral m.goDown.requester := .of_health rfl
  unfold tick
  split
  · exact .refl _
  · split
    · exact hdown
    · split
      · split
        · next stamp _ =>
          exact (hclaimed stamp).trans (keepsDeferral_send _ .decodeStall (by decide) 1)
        · exact .refl _
      · exact .refl _

theorem keepsDeferral_requestIntegrityRepair (m : LinkMonitor) (now : Instant) :
    m.requester.KeepsDeferral (m.requestIntegrityRepair now).2.requester := by
  have hclaimed : ∀ stamp, m.requester.KeepsDeferral
      (m.setHealth { m.health with lastIntegrityRequest := stamp }).requester :=
    fun _ => .of_health rfl
  unfold requestIntegrityRepair
  split
  · split
    · next stamp _ => exact (hclaimed stamp).trans (keepsDeferral_send _ .integrity (by decide) 1)
    · exact .refl _
  · exact .refl _

/-- What a packet does once its sender has been noted. -/
theorem keepsDeferral_onPacket (m : LinkMonitor) (now : Instant) (sender : Option Net.Endpoint)
    (seq : Option UInt16) :
    (m.hear now sender).requester.KeepsDeferral (m.onPacket now sender seq).2.requester := by
  have harrive : (m.hear now sender).requester.KeepsDeferral (m.arrive now sender).requester := by
    unfold arrive
    split
    · exact .refl _
    · exact keepsDeferral_comeUp _
  rw [onPacket_eq]
  cases seq with
  | none => exact harrive
  | some seq => exact harrive.trans (keepsDeferral_trackSequence _ now seq)

/-- The sequence that a packet starts for a deferred recording, if there is one. -/
theorem hear_some (m : LinkMonitor) (now : Instant) (sender : Net.Endpoint) :
    (m.hear now (some sender)).health.recordDeferred =
        (m.health.recordDeferred && !m.requester.enabled) ∧
      m.requester.Starts (m.requester.deferredStart m.timing.recordStartBursts sender)
        (m.hear now (some sender)).requester := by
  let m₁ := m.setHealth { m.health.recordPacket now with sender := some sender }
  obtain ⟨hdeferred, hstarts⟩ :=
    Requester.retryDeferred_spec (r := m₁.requester) rfl m.timing.recordStartBursts
  exact ⟨hdeferred, hstarts.tasks_eq, hstarts.dispatched_eq, hstarts.codec_eq, hstarts.port_eq,
    hstarts.timing_eq⟩

/-! ## Actions -/

variable (tokens : Nat → Token)

/-- Whether an action ends a deferral: a packet that tells its sender, unless requests are switched
off; a keyframe that lowers the recording's flag; and a reset. -/
def resolves (m : LinkMonitor) : LinkAction → Bool
  | .packet _ (some _) _ => m.requester.enabled
  | .observe data =>
    m.health.isPending .record && !(m.observe data).2.health.isPending .record
  | .reset => true
  | _ => false

/-- The sequences that an action starts. A step of a sequence starts none. -/
def started (m : LinkMonitor) (a : LinkAction) : List RepeatSequence :=
  if a.isStep then []
  else ((m.act tokens a).2.requester.tasks.drop m.requester.tasks.length).map (·.sequence)

/-- The sequence that an action starts for a deferred recording, if there is one. -/
def deferredStart (m : LinkMonitor) : LinkAction → List RepeatSequence
  | .packet _ (some sender) _ => m.requester.deferredStart m.timing.recordStartBursts sender
  | _ => []

theorem started_eq {m : LinkMonitor} {a : LinkAction} {started : List RepeatSequence}
    (hstep : a.isStep = false) (h : m.requester.Starts started (m.act tokens a).2.requester) :
    m.started tokens a = started := by
  have hsequences : (started.map fun s => (⟨s, none⟩ : RepeatTask)).map (·.sequence) = started := by
    rw [List.map_map]
    exact List.map_id started
  rw [LinkMonitor.started, if_neg (Bool.eq_false_iff.1 hstep), h.tasks_eq, List.drop_left,
    hsequences]

/-- A keyframe ends a deferral exactly if it lowers the recording's flag. -/
theorem recordDeferred_observe (r : Requester) (data : Bytes) :
    (r.observe data).2.health.recordDeferred =
      (r.health.recordDeferred && !(r.health.isPending .record &&
        !(r.observe data).2.health.isPending .record)) := by
  unfold Requester.observe
  by_cases hlooks : (r.enabled && (r.health.isPending .stream || r.health.isPending .record)) = true
  · rw [if_pos hlooks]
    cases AnnexB.findKeyframe r.codec data with
    | none => simp
    | some nalType =>
      -- only a flag that is up is lowered
      cases hup : r.health.recordPending.raised <;>
        simp [HealthState.confirm, PendingSlot.confirm, HealthState.isPending,
          HealthState.pendingSlot, HealthState.setPendingSlot, hup]
  · rw [if_neg hlooks]
    simp

/-- A deferral begins with a recording request that is deferred and lasts until it is resolved. -/
theorem recordDeferred_act (m : LinkMonitor) {a : LinkAction} (ha : a.isDirect = false) :
    (m.act tokens a).2.health.recordDeferred =
      ((m.health.recordDeferred && !m.resolves a) ||
        (m.act tokens a).1 == .request .deferred) := by
  have hkept : ∀ {m' : LinkMonitor} {report : LinkReport},
      m'.health.recordDeferred = m.health.recordDeferred →
        (report == .request .deferred) = false →
          m'.health.recordDeferred =
            ((m.health.recordDeferred && !false) || report == .request .deferred) := by
    intro m' report hsame hreport
    rw [hsame, hreport, Bool.or_false, Bool.not_false, Bool.and_true]
  cases a with
  | packet now sender seq =>
    have hpacket := (m.keepsDeferral_onPacket now sender seq).1
    cases sender with
    | none => exact hkept hpacket rfl
    | some sender =>
      refine hpacket.trans ((m.hear_some now sender).1.trans ?_)
      exact (Bool.or_false _).symm
  | tick now => exact hkept (m.keepsDeferral_tick now).1 rfl
  | frameDecoded now => exact hkept rfl rfl
  | integrityRepair now => exact hkept (m.keepsDeferral_requestIntegrityRepair now).1 rfl
  | recordingKeyframe =>
    obtain ⟨-, -, -, houtcome, hdeferred, -⟩ | ⟨-, hdeferred, -⟩ :=
      m.requester.request_cases .recordStart m.timing.recordStartBursts true
    · refine hkept hdeferred ?_
      simp only [act, requestRecordingKeyframe, houtcome]
      rfl
    · have hreport : ∀ outcome : RequestOutcome,
          (LinkReport.request outcome == .request .deferred) = (outcome == .deferred) := by
        intro outcome
        cases outcome <;> rfl
      show _ = ((m.health.recordDeferred && true) || (LinkReport.request _ == _))
      rw [hreport, Bool.and_true]
      exact hdeferred
  | request reason repeats allowDeferred => cases ha
  | retryDeferred repeats => cases ha
  | observe data =>
    refine (recordDeferred_observe m.requester data).trans ?_
    exact (Bool.or_false _).symm
  | setEnabled enabled => exact hkept rfl rfl
  | reset =>
    rw [resolves, Bool.not_true, Bool.and_false]
    rfl
  | startClock now => exact hkept rfl rfl
  | proceed index due => exact hkept (m.inert_proceed tokens index due).recordDeferred_eq rfl

theorem startsDeferred_act (m : LinkMonitor) {a : LinkAction} (ha : a.isDirect = false)
    (hstep : a.isStep = false) :
    m.requester.StartsDeferred (m.deferredStart a) (m.act tokens a).2.requester := by
  cases a with
  | packet now sender seq =>
    have hpacket := m.keepsDeferral_onPacket now sender seq
    cases sender with
    | none =>
      have hheard : m.requester.KeepsDeferral (m.hear now none).requester := .of_health rfl
      exact (hheard.trans hpacket).startsDeferred
    | some sender =>
      refine Requester.StartsDeferred.trans ⟨_, (m.hear_some now sender).2, ?_⟩ hpacket
      show List.filter _ (m.requester.deferredStart _ _) = m.requester.deferredStart _ _
      unfold Requester.deferredStart
      split
      · rfl
      · rfl
  | tick now => exact (m.keepsDeferral_tick now).startsDeferred
  | frameDecoded now => exact .nothing (.nothing rfl rfl rfl rfl rfl)
  | integrityRepair now => exact (m.keepsDeferral_requestIntegrityRepair now).startsDeferred
  | recordingKeyframe =>
    obtain ⟨sender, -, -, -, -, hstarts⟩ | ⟨-, -, -, hstarts⟩ :=
      m.requester.request_cases .recordStart m.timing.recordStartBursts true
    · exact ⟨_, hstarts, rfl⟩
    · exact .nothing hstarts
  | request reason repeats allowDeferred => cases ha
  | retryDeferred repeats => cases ha
  | observe data => exact .nothing (m.requester.starts_observe data)
  | setEnabled enabled => exact .nothing (.nothing rfl rfl rfl rfl rfl)
  | reset => exact .nothing (.nothing rfl rfl rfl rfl rfl)
  | startClock now => cases hstep
  | proceed index due => cases hstep

/-- Every sequence that is dispatched is one that the action starts. Only a packet that tells its
sender starts one for a deferred recording, and then only one. -/
theorem started_act (m : LinkMonitor) {a : LinkAction} (ha : a.isDirect = false) :
    (m.act tokens a).2.requester.dispatched =
        m.requester.dispatched + (m.started tokens a).length ∧
      (m.started tokens a).filter (·.reason == .recordStartDeferred) = m.deferredStart a := by
  by_cases hstep : a.isStep = true
  · have hnone : m.started tokens a = [] := if_pos hstep
    rw [hnone]
    cases a with
    | startClock now => exact ⟨rfl, rfl⟩
    | proceed index due => exact ⟨(m.inert_proceed tokens index due).dispatched_eq, rfl⟩
    | _ => cases hstep
  · rw [Bool.not_eq_true] at hstep
    obtain ⟨started, hstarts, hfilter⟩ := startsDeferred_act tokens m ha hstep
    rw [started_eq tokens hstep hstarts]
    exact ⟨hstarts.dispatched_eq, hfilter⟩

theorem exists_starts_act (m : LinkMonitor) {a : LinkAction} (hstep : a.isStep = false) :
    ∃ started, m.requester.Starts started (m.act tokens a).2.requester := by
  by_cases ha : a.isDirect = true
  · cases a with
    | request reason repeats allowDeferred =>
      exact m.requester.exists_starts_request reason repeats allowDeferred
    | retryDeferred repeats => exact m.requester.exists_starts_retryDeferred repeats
    | _ => cases ha
  · obtain ⟨started, hstarts, -⟩ := startsDeferred_act tokens m (Bool.eq_false_iff.2 ha) hstep
    exact ⟨started, hstarts⟩

/-- What requests ask for, where they go and how they are repeated stays the same. -/
theorem settings_act (m : LinkMonitor) (a : LinkAction) :
    (m.act tokens a).2.requester.codec = m.requester.codec ∧
      (m.act tokens a).2.requester.port = m.requester.port ∧
      (m.act tokens a).2.requester.timing = m.requester.timing := by
  by_cases hstep : a.isStep = true
  · cases a with
    | startClock now => exact ⟨rfl, rfl, rfl⟩
    | proceed index due =>
      simp only [act, RepairRun.proceed]
      split
      · exact ⟨rfl, rfl, rfl⟩
      · exact ⟨rfl, rfl, rfl⟩
    | _ => cases hstep
  · obtain ⟨started, hstarts⟩ := exists_starts_act tokens m (Bool.eq_false_iff.2 hstep)
    exact ⟨hstarts.codec_eq, hstarts.port_eq, hstarts.timing_eq⟩

/-! ## Runs -/

section After

variable (codec : Codec) (port : UInt16) (repair : RepairTiming) (timing : HealthTiming)
  (enabled : Bool) (origin : Instant)

theorem settings_after (actions : List LinkAction) :
    let m := after tokens codec port repair timing enabled origin actions
    m.requester.codec = codec ∧ m.requester.port = port ∧ m.requester.timing = repair := by
  induction actions using List.reverseRecOn with
  | nil => exact ⟨rfl, rfl, rfl⟩
  | append_singleton actions a ih =>
    obtain ⟨hcodec, hport, htiming⟩ := ih
    rw [after_append]
    have hact :=
      settings_act tokens (after tokens codec port repair timing enabled origin actions) a
    exact ⟨hact.1.trans hcodec, hact.2.1.trans hport, hact.2.2.trans htiming⟩

/-- A recording is deferred exactly if one of its requests was and nothing has resolved it since. -/
theorem recordDeferred_iff (actions : List LinkAction)
    (hown : ∀ a ∈ actions, a.isDirect = false) :
    let run := after tokens codec port repair timing enabled origin
    (run actions).health.recordDeferred = true ↔
      ∃ before later, actions = before ++ .recordingKeyframe :: later ∧
        ((run before).act tokens .recordingKeyframe).1 = .request .deferred ∧
        ∀ earlier a rest, later = earlier ++ a :: rest →
          (run (before ++ .recordingKeyframe :: earlier)).resolves a = false := by
  intro run
  induction actions using List.reverseRecOn with
  | nil =>
    refine iff_of_false Bool.false_ne_true ?_
    rintro ⟨before, later, hsplit, -⟩
    exact List.append_ne_nil_of_right_ne_nil before (List.cons_ne_nil _ later) hsplit.symm
  | append_singleton actions a ih =>
    obtain ⟨hbefore, ha⟩ := List.forall_mem_append.1 hown
    have hlast : run (actions ++ [a]) = ((run actions).act tokens a).2 :=
      after_append tokens codec port repair timing enabled origin actions [a]
    rw [hlast, recordDeferred_act tokens (run actions) (ha a List.mem_cons_self), Bool.or_eq_true,
      Bool.and_eq_true, Bool.not_eq_true', beq_iff_eq, ih hbefore]
    constructor
    · rintro (⟨⟨before, later, rfl, houtcome, hquiet⟩, hresolves⟩ | hnow)
      · refine ⟨before, later ++ [a], by simp, houtcome, fun earlier b rest hsplit => ?_⟩
        -- the action is the last one, or one of those before it
        rcases List.eq_nil_or_concat rest with rfl | ⟨rest, c, rfl⟩
        · obtain ⟨rfl, hb⟩ := List.append_inj' hsplit rfl
          cases hb
          exact hresolves
        · rw [List.concat_eq_append, ← List.cons_append, ← List.append_assoc] at hsplit
          exact hquiet earlier b rest (List.append_inj' hsplit rfl).1
      · have hrequest : a = .recordingKeyframe := by
          cases a with
          | recordingKeyframe => rfl
          | request reason repeats allowDeferred => cases ha _ List.mem_cons_self
          | retryDeferred repeats => cases ha _ List.mem_cons_self
          | _ => cases hnow
        subst hrequest
        refine ⟨actions, [], rfl, hnow, fun earlier b rest hsplit => ?_⟩
        exact absurd hsplit.symm (List.append_ne_nil_of_right_ne_nil _ (List.cons_ne_nil _ _))
    · rintro ⟨before, later, hsplit, houtcome, hquiet⟩
      rcases List.eq_nil_or_concat later with rfl | ⟨later, b, rfl⟩
      · obtain ⟨rfl, hb⟩ := List.append_inj' hsplit rfl
        cases hb
        exact .inr houtcome
      · rw [List.concat_eq_append] at hsplit hquiet
        rw [← List.cons_append, ← List.append_assoc] at hsplit
        obtain ⟨rfl, hb⟩ := List.append_inj' hsplit rfl
        cases hb
        refine .inl ⟨⟨before, later, rfl, houtcome, fun earlier c rest hlater => ?_⟩,
          hquiet later a [] rfl⟩
        exact hquiet earlier c (rest ++ [a]) (by rw [hlater]; simp)

/-- **How deferred requests are made again.** Take a run of a fresh monitor in which nobody but the
monitor asks the requester. A recording is deferred exactly if one of the requests for it was, and
since then there has been no keyframe that lowers the recording's flag, no reset, and no packet that
tells its sender while requests are switched on; nothing else ends a deferral. Each of these ends
it. Whatever happens next, a sequence for deferred requests is started exactly by such a packet, and
then it is one, however many requests were deferred; it is addressed to the packet's sender at the
configured port. -/
theorem deferral_law (actions : List LinkAction) (hown : ∀ a ∈ actions, a.isDirect = false) :
    let run := after tokens codec port repair timing enabled origin
    let m := run actions
    (m.health.recordDeferred = true ↔
        ∃ before later, actions = before ++ .recordingKeyframe :: later ∧
          ((run before).act tokens .recordingKeyframe).1 = .request .deferred ∧
          ∀ earlier a rest, later = earlier ++ a :: rest →
            (run (before ++ .recordingKeyframe :: earlier)).resolves a = false) ∧
      ∀ a, a.isDirect = false →
        (m.resolves a = true → (m.act tokens a).2.health.recordDeferred = false) ∧
        (m.act tokens a).2.requester.dispatched =
          m.requester.dispatched + (m.started tokens a).length ∧
        (m.started tokens a).filter (·.reason == .recordStartDeferred) =
          match a with
          | .packet _ (some sender) _ =>
            if m.requester.enabled && m.health.recordDeferred then
              [{ id := m.requester.dispatched + 1
                 reason := .recordStartDeferred
                 tracking := some (.record, (m.health.pendingSlot .record).raise.1)
                 target := sender.withPort port
                 timing := repair
                 burstsLeft := timing.recordStartBursts }]
            else []
          | _ => [] := by
  intro run m
  have htiming : m.timing = timing :=
    (follows_after tokens codec port repair timing enabled origin actions).timing_eq
  obtain ⟨-, hport, hrepair⟩ : m.requester.codec = codec ∧ m.requester.port = port ∧
      m.requester.timing = repair :=
    settings_after tokens codec port repair timing enabled origin actions
  refine ⟨recordDeferred_iff tokens codec port repair timing enabled origin actions hown,
    fun a ha => ⟨fun hresolves => ?_, (started_act tokens m ha).1, ?_⟩⟩
  · -- what ends a deferral is no request for a recording
    have hnone : ((m.act tokens a).1 == .request .deferred) = false := by
      cases a with
      | recordingKeyframe => cases hresolves
      | request reason repeats allowDeferred => cases ha
      | retryDeferred repeats => cases ha
      | _ => rfl
    rw [recordDeferred_act tokens m ha, hresolves, hnone, Bool.not_true, Bool.and_false,
      Bool.or_false]
  · rw [(started_act tokens m ha).2, ← htiming, ← hport, ← hrepair]
    cases a with
    | packet now sender seq => cases sender <;> rfl
    | _ => rfl

end After

/-- Two requests are deferred before the sender is known, and a packet tells it while requests are
switched off. The next one starts a single sequence. -/
theorem deferral_law_of_two_requests :
    let sender : Net.Endpoint := ⟨.v4 10 0 0 1, 5600⟩
    let actions := [.recordingKeyframe, .packet 0 none none, .recordingKeyframe, .setEnabled false,
      .packet 1000000 (some sender) none, .setEnabled true, .packet 2000000 none none]
    let m := after Token.counting .h265 11223 {} {} true 0 actions
    (∀ a ∈ actions, a.isDirect = false) ∧ m.health.recordDeferred = true ∧
      ((m.started Token.counting (.packet 3000000 (some sender) none)).filter
        (·.reason == .recordStartDeferred)).map (·.target) = [sender.withPort 11223] ∧
      (m.act Token.counting (.packet 3000000 (some sender) none)).2.health.recordDeferred =
        false := by
  intro sender actions m
  have hown : ∀ a ∈ actions, a.isDirect = false := by decide +revert
  have hdeferred : m.health.recordDeferred = true := by decide +kernel +revert
  have henabled : m.requester.enabled = true := by decide +kernel +revert
  obtain ⟨-, hnext⟩ :=
    deferral_law Token.counting .h265 11223 {} {} true 0 actions hown
  obtain ⟨hresolved, -, hstarted⟩ := hnext (.packet 3000000 (some sender) none) rfl
  refine ⟨hown, hdeferred, ?_, hresolved henabled⟩
  rw [hstarted]
  show List.map _ (if (m.requester.enabled && m.health.recordDeferred) = true then _ else _) = _
  rw [henabled, hdeferred]
  rfl

end LinkMonitor

end VideoReceiver
