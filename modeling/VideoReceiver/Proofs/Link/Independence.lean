import VideoReceiver.Proofs.Link.Cooldown
import VideoReceiver.Proofs.Repair.Switch

/-!
# Tracking the link and repairing the stream

What the monitor tracks of the link is what a monitor tracks that never asks for a keyframe: the run
of the one is mirrored by a run of the other in which requests, keyframes, the kill-switch and the
repeat sequences do not occur. While requests are switched off, only a reset touches what they are
decided by; the sequences that are still under way may lower their own flags.

## Main definitions

- `LinkAction.isTracking`: packets, checks, decoded pictures and resets
- `LinkMonitor.tracked`, `LinkReport.tracked`: what is tracked, and what is reported of it
- `LinkMonitor.trackedTrace`: what is reported and tracked, step by step
- `LinkMonitor.Inert`: what requests are decided by has not changed

## Main statements

- `LinkMonitor.tracked_act`, `LinkMonitor.tracked_act_of_not_isTracking`: one action
- `LinkMonitor.tracked_actAll`, `LinkMonitor.trackedTrace_eq`: runs
- `LinkMonitor.inert_act`, `LinkMonitor.inert_actAll`: a monitor that is switched off
- `LinkMonitor.independence_law`: runs that track the same link
-/

namespace VideoReceiver

/-- Whether an action tells of the link. -/
def LinkAction.isTracking : LinkAction → Bool
  | packet .. | tick _ | frameDecoded _ | reset => true
  | _ => false

/-- What a report tells of the link, whether or not a request has been made. -/
def LinkReport.tracked : LinkReport → LinkReport
  | packet report => packet { report with gapRequest := false }
  | tick report => tick { report with stallRequest := false }
  | report => report

/-- What is known about the link. -/
def HealthState.tracked (s : HealthState) : HealthState :=
  { s.withoutFlags with lastIntegrityRequest := 0, lastGapRequest := 0, lastStallRequest := 0 }

theorem HealthState.tracked_of_withoutFlags {s s' : HealthState}
    (h : s'.withoutFlags = s.withoutFlags) : s'.tracked = s.tracked := by
  rw [tracked, h, tracked]

namespace LinkMonitor

variable {tokens : Nat → Token}

/-- A monitor that tracks the same link and never makes a request. -/
def tracked (m : LinkMonitor) : LinkMonitor where
  requester := { health := m.health.tracked, enabled := false }
  timing := m.timing
  link := m.link

theorem tracked_eq {m m' : LinkMonitor} (hlink : m'.link = m.link) (htiming : m'.timing = m.timing)
    (h : m'.health.tracked = m.health.tracked) : m'.tracked = m.tracked := by
  rw [tracked, hlink, htiming, h, tracked]

theorem tracked_requester (m : LinkMonitor) {requester : Requester}
    (h : requester.health.withoutFlags = m.health.withoutFlags) :
    tracked { m with requester } = m.tracked :=
  tracked_eq rfl rfl (HealthState.tracked_of_withoutFlags h)

@[simp] theorem tracked_send (m : LinkMonitor) (reason : RepairReason) (repeats : Nat) :
    (m.send reason repeats).tracked = m.tracked :=
  m.tracked_requester (m.requester.withoutFlags_request reason repeats false)

/-! ## A monitor that is switched off -/

theorem send_of_disabled {m : LinkMonitor} (h : m.requester.enabled = false)
    (reason : RepairReason) (repeats : Nat) : m.send reason repeats = m := by
  rw [send, Requester.request_of_disabled h]

theorem noteSender_of_disabled {m : LinkMonitor} (h : m.requester.enabled = false)
    (sender : Net.Endpoint) :
    m.noteSender sender = m.setHealth { m.health with sender := some sender } := by
  simp [noteSender, Requester.retryDeferred, setHealth, h]

theorem comeUp_of_disabled {m : LinkMonitor} (h : m.requester.enabled = false) :
    m.comeUp =
      { m.setHealth { m.health with streamUp := true, rtpBase := .empty } with
        link := m.link.publish .up } := by
  let m₁ : LinkMonitor :=
    { m.setHealth { m.health with streamUp := true, rtpBase := .empty } with
      link := m.link.publish .up }
  have hoff : m₁.requester.enabled = false := h
  exact send_of_disabled hoff .streamUp m.timing.streamUpBursts

theorem onLoss_of_disabled {m : LinkMonitor} (h : m.requester.enabled = false) (now : Instant)
    (lost : Nat) :
    m.onLoss now lost =
      (false, m.setHealth { m.health with lostPackets := m.health.lostPackets + lost }) := by
  have hsame : (m.setHealth { m.health with
      lostPackets := m.health.lostPackets + lost }).requester.enabled = false := h
  simp only [onLoss, hsame, Bool.false_eq_true, if_false]

/-! ## Packets and checks -/

theorem tracked_noteSender (m : LinkMonitor) (sender : Net.Endpoint) :
    (m.noteSender sender).tracked = m.tracked.noteSender sender := by
  have hnoted : (m.noteSender sender).health.tracked =
      (m.setHealth { m.health with sender := some sender }).health.tracked :=
    HealthState.tracked_of_withoutFlags (m.withoutFlags_noteSender sender)
  have htracked : (m.noteSender sender).tracked =
      (m.setHealth { m.health with sender := some sender }).tracked := tracked_eq rfl rfl hnoted
  rw [htracked, noteSender_of_disabled (m := m.tracked) rfl]
  rfl

theorem tracked_hear (m : LinkMonitor) (now : Instant) (sender : Option Net.Endpoint) :
    (m.hear now sender).tracked = m.tracked.hear now sender := by
  cases sender with
  | none => rfl
  | some s => exact tracked_noteSender _ s

theorem tracked_comeUp (m : LinkMonitor) : m.comeUp.tracked = m.tracked.comeUp := by
  rw [comeUp_of_disabled (m := m.tracked) rfl]
  exact tracked_send _ _ _

theorem tracked_arrive (m : LinkMonitor) (now : Instant) (sender : Option Net.Endpoint) :
    (m.arrive now sender).tracked = m.tracked.arrive now sender := by
  have hup : m.tracked.health.streamUp = m.health.streamUp := rfl
  unfold arrive
  rw [hup]
  split
  · exact m.tracked_hear now sender
  · rw [tracked_comeUp, tracked_hear]

theorem tracked_onLoss (m : LinkMonitor) (now : Instant) (lost : Nat) :
    (m.tracked.onLoss now lost) = (false, (m.onLoss now lost).2.tracked) := by
  rw [onLoss_of_disabled (m := m.tracked) rfl]
  refine Prod.ext rfl ?_
  have hlost : ∀ m₁ : LinkMonitor, ∀ stamp : Nat,
      ((m₁.setHealth { m₁.health with lastGapRequest := stamp }).send .rtpGap 1).tracked =
        m₁.tracked := fun m₁ stamp => tracked_send _ .rtpGap 1
  simp only [onLoss]
  split
  · split
    · rw [hlost]
      rfl
    · rfl
  · rfl

/-- Whether a request is made does not matter to what the sequence numbers tell. -/
theorem tracked_trackSequence (m : LinkMonitor) (now : Instant) (seq : UInt16) :
    m.tracked.trackSequence now seq =
      ({ (m.trackSequence now seq).1 with gapRequest := false },
        (m.trackSequence now seq).2.tracked) := by
  have hsequence : m.tracked.health.rtpSequence now = m.health.rtpSequence now := rfl
  have htiming : m.tracked.timing = m.timing := rfl
  -- stated for any base, so that the packed word is never unfolded
  have hbase : ∀ rtpBase, (m.setHealth { m.health with rtpBase }).tracked =
      m.tracked.setHealth { m.tracked.health with rtpBase } := fun _ => rfl
  have hset : (m.setHealth (m.health.setRtpSequence seq now)).tracked =
      m.tracked.setHealth (m.tracked.health.setRtpSequence seq now) := hbase _
  simp only [trackSequence, hsequence, htiming]
  cases m.health.rtpSequence now with
  | none => rw [hset]
  | some base =>
    dsimp only
    generalize Rtp.distance seq base.1 = ahead
    by_cases hduplicate : ahead = 0
    · rw [if_pos hduplicate, if_pos hduplicate]
    by_cases hnext : ahead = 1
    · rw [if_neg hduplicate, if_neg hduplicate, if_pos hnext, if_pos hnext, hset]
    by_cases hgap : ahead < m.timing.reorderThreshold
    · rw [if_neg hduplicate, if_neg hduplicate, if_neg hnext, if_neg hnext, if_pos hgap,
        if_pos hgap, ← hset, tracked_onLoss]
    rw [if_neg hduplicate, if_neg hduplicate, if_neg hnext, if_neg hnext, if_neg hgap, if_neg hgap]
    split
    · rw [hset]
    · rfl

theorem tracked_onPacket (m : LinkMonitor) (now : Instant) (sender : Option Net.Endpoint)
    (seq : Option UInt16) :
    m.tracked.onPacket now sender seq =
      ({ (m.onPacket now sender seq).1 with gapRequest := false },
        (m.onPacket now sender seq).2.tracked) := by
  have hup : m.tracked.health.streamUp = m.health.streamUp := rfl
  rw [onPacket_eq, onPacket_eq, hup, ← tracked_arrive]
  cases seq with
  | none => rfl
  | some seq =>
    dsimp only
    rw [tracked_trackSequence]

theorem tracked_tick (m : LinkMonitor) (now : Instant) :
    m.tracked.tick now =
      ({ (m.tick now).1 with stallRequest := false }, (m.tick now).2.tracked) := by
  have hup : m.tracked.health.streamUp = m.health.streamUp := rfl
  have hage : m.tracked.health.packetAge now = m.health.packetAge now := rfl
  have htiming : m.tracked.timing = m.timing := rfl
  have hoff : (m.tracked.isStalled now && m.tracked.requester.enabled) = false :=
    Bool.and_false _
  simp only [tick, hup, hage, htiming, hoff]
  by_cases hdown : (!m.health.streamUp) = true
  · rw [if_pos hdown, if_pos hdown]
  rw [if_neg hdown, if_neg hdown]
  by_cases hold : (m.health.packetAge now).any (m.timing.downAfter < ·) = true
  · rw [if_pos hold, if_pos hold]
    rfl
  rw [if_neg hold, if_neg hold, if_neg Bool.false_ne_true]
  split
  · split
    · rw [tracked_send]
      rfl
    · rfl
  · rfl

theorem tracked_requestIntegrityRepair (m : LinkMonitor) (now : Instant) :
    (m.requestIntegrityRepair now).2.tracked = m.tracked := by
  unfold requestIntegrityRepair
  split
  · split
    · exact tracked_send _ _ _
    · rfl
  · rfl

/-! ## Actions -/

/-- What tells of the link does so to a monitor that never makes a request, too. -/
theorem tracked_act (tokens tokens' : Nat → Token) (m : LinkMonitor) {a : LinkAction}
    (ha : a.isTracking = true) :
    m.tracked.act tokens' a = ((m.act tokens a).1.tracked, (m.act tokens a).2.tracked) := by
  cases a with
  | packet now sender seq =>
    simp only [act, tracked_onPacket]
    rfl
  | tick now =>
    simp only [act, tracked_tick]
    rfl
  | frameDecoded now => rfl
  | reset =>
    refine Prod.ext rfl ?_
    rfl
  | _ => cases ha

/-- Whatever else happens changes nothing that is tracked. -/
theorem tracked_act_of_not_isTracking (tokens : Nat → Token) (m : LinkMonitor) {a : LinkAction}
    (ha : a.isTracking = false) : (m.act tokens a).2.tracked = m.tracked := by
  cases a with
  | packet now sender seq => cases ha
  | tick now => cases ha
  | frameDecoded now => cases ha
  | reset => cases ha
  | integrityRepair now => exact m.tracked_requestIntegrityRepair now
  | recordingKeyframe =>
    exact m.tracked_requester (m.requester.withoutFlags_request .recordStart _ true)
  | request reason repeats allowDeferred =>
    exact m.tracked_requester (m.requester.withoutFlags_request reason repeats allowDeferred)
  | retryDeferred repeats =>
    exact m.tracked_requester (m.requester.withoutFlags_retryDeferred repeats)
  | observe data => exact m.tracked_requester (m.requester.withoutFlags_observe data)
  | setEnabled enabled => rfl
  | startClock now => rfl
  | proceed index due =>
    exact m.tracked_requester (RepairRun.withoutFlags_proceed tokens ⟨m.requester, []⟩ index due)

/-! ## Runs -/

variable (tokens) in
/-- What is reported of the link and tracked after it, for every action that tells of the link. -/
def trackedTrace (m : LinkMonitor) : List LinkAction → List (LinkReport × LinkMonitor)
  | [] => []
  | a :: actions =>
    (if a.isTracking then [((m.act tokens a).1.tracked, (m.act tokens a).2.tracked)] else []) ++
      (m.act tokens a).2.trackedTrace actions

/-- A run tracks what the run tracks that leaves out everything else. -/
theorem tracked_actAll (tokens tokens' : Nat → Token) (m : LinkMonitor)
    (actions : List LinkAction) :
    (m.actAll tokens actions).tracked =
      m.tracked.actAll tokens' (actions.filter LinkAction.isTracking) := by
  induction actions generalizing m with
  | nil => rfl
  | cons a actions ih =>
    show ((m.act tokens a).2.actAll tokens actions).tracked = _
    rw [ih]
    by_cases ha : a.isTracking = true
    · rw [List.filter_cons_of_pos ha]
      show _ = ((m.tracked.act tokens' a).2.actAll tokens' _)
      rw [m.tracked_act tokens tokens' ha]
    · rw [List.filter_cons_of_neg ha,
        m.tracked_act_of_not_isTracking tokens (Bool.eq_false_iff.2 ha)]

theorem trackedTrace_eq (tokens tokens' : Nat → Token) (m : LinkMonitor)
    (actions : List LinkAction) :
    m.trackedTrace tokens actions =
      m.tracked.trackedTrace tokens' (actions.filter LinkAction.isTracking) := by
  induction actions generalizing m with
  | nil => rfl
  | cons a actions ih =>
    show _ ++ (m.act tokens a).2.trackedTrace tokens actions = _
    rw [ih]
    by_cases ha : a.isTracking = true
    · have hact := m.tracked_act tokens tokens' ha
      -- what is tracked of what is tracked is the same
      have htwice : m.tracked.tracked = m.tracked := rfl
      have hagain := m.tracked.tracked_act tokens' tokens' ha
      rw [htwice] at hagain
      rw [List.filter_cons_of_pos ha, if_pos ha]
      show _ = (if a.isTracking then _ else []) ++
        (m.tracked.act tokens' a).2.trackedTrace tokens' _
      rw [if_pos ha, ← hagain, hact]
    · rw [List.filter_cons_of_neg ha, if_neg ha, List.nil_append,
        m.tracked_act_of_not_isTracking tokens (Bool.eq_false_iff.2 ha)]

/-! ## Nothing is requested -/

/-- What a monitor has besides what it tracks. -/
def untracked (m : LinkMonitor) : Requester :=
  { m.requester with
    health :=
      { m.health with
        streamUp := false
        lastPacket := 0
        lastDecoded := 0
        rtpBase := .empty
        lostPackets := 0
        sender := none } }

section Disabled

variable {m : LinkMonitor}

theorem enabled_of_untracked {m' : LinkMonitor} (h : m.requester.enabled = false)
    (hsame : m'.untracked = m.untracked) : m'.requester.enabled = false :=
  (congrArg Requester.enabled hsame).trans h

theorem untracked_hear (h : m.requester.enabled = false) (now : Instant)
    (sender : Option Net.Endpoint) : (m.hear now sender).untracked = m.untracked := by
  cases sender with
  | none => rfl
  | some s =>
    have hoff : (m.setHealth (m.health.recordPacket now)).requester.enabled = false := h
    show ((m.setHealth (m.health.recordPacket now)).noteSender s).untracked = m.untracked
    rw [noteSender_of_disabled hoff]
    rfl

theorem untracked_arrive (h : m.requester.enabled = false) (now : Instant)
    (sender : Option Net.Endpoint) : (m.arrive now sender).untracked = m.untracked := by
  have hhear := untracked_hear h now sender
  unfold arrive
  split
  · exact hhear
  · rw [comeUp_of_disabled (enabled_of_untracked h hhear)]
    exact hhear

theorem untracked_trackSequence (h : m.requester.enabled = false) (now : Instant) (seq : UInt16) :
    (m.trackSequence now seq).2.untracked = m.untracked := by
  -- stated for any base, so that the packed word is never unfolded
  have hbase : ∀ rtpBase, (m.setHealth { m.health with rtpBase }).untracked = m.untracked :=
    fun _ => rfl
  have hset : (m.setHealth (m.health.setRtpSequence seq now)).untracked = m.untracked := hbase _
  have hlost : ∀ (m₁ : LinkMonitor) (lostPackets : Nat),
      (m₁.setHealth { m₁.health with lostPackets }).untracked = m₁.untracked := fun _ _ => rfl
  simp only [trackSequence]
  cases m.health.rtpSequence now with
  | none => exact hset
  | some base =>
    dsimp only
    generalize Rtp.distance seq base.1 = ahead
    by_cases hduplicate : ahead = 0
    · rw [if_pos hduplicate]
    by_cases hnext : ahead = 1
    · rw [if_neg hduplicate, if_pos hnext]
      exact hset
    by_cases hgap : ahead < m.timing.reorderThreshold
    · rw [if_neg hduplicate, if_neg hnext, if_pos hgap,
        onLoss_of_disabled (enabled_of_untracked h hset), hlost]
      exact hset
    rw [if_neg hduplicate, if_neg hnext, if_neg hgap]
    split
    · exact hset
    · rfl

theorem untracked_onPacket (h : m.requester.enabled = false) (now : Instant)
    (sender : Option Net.Endpoint) (seq : Option UInt16) :
    (m.onPacket now sender seq).2.untracked = m.untracked := by
  have harrive := untracked_arrive h now sender
  rw [onPacket_eq]
  cases seq with
  | none => exact harrive
  | some seq =>
    exact (untracked_trackSequence (enabled_of_untracked h harrive) now seq).trans harrive

theorem untracked_tick (h : m.requester.enabled = false) (now : Instant) :
    (m.tick now).2.untracked = m.untracked := by
  have hoff : (m.isStalled now && m.requester.enabled) = false := by rw [h, Bool.and_false]
  simp only [tick, hoff, Bool.false_eq_true, if_false]
  split
  · rfl
  · split <;> rfl

theorem requestIntegrityRepair_of_disabled (h : m.requester.enabled = false) (now : Instant) :
    m.requestIntegrityRepair now = (false, m) := by
  rw [requestIntegrityRepair, h, Bool.and_false, if_neg Bool.false_ne_true]

end Disabled

/-- What a monitor that is switched off does without a reset: no request is made and no keyframe is
looked for. A sequence that was under way may have lowered the flag that it has raised. -/
structure Inert (m m' : LinkMonitor) : Prop where
  dispatched_eq : m'.requester.dispatched = m.requester.dispatched
  recordDeferred_eq : m'.health.recordDeferred = m.health.recordDeferred
  lastRequest_eq : m'.health.lastRequest = m.health.lastRequest
  slot : ∀ flag, m'.health.pendingSlot flag = m.health.pendingSlot flag ∨
    (m.health.pendingSlot flag).raised = true ∧
      m'.health.pendingSlot flag = (m.health.pendingSlot flag).clear ∧
      ∃ id, (id, some (flag, (m.health.pendingSlot flag).generation)) ∈ m.requester.claims
  claims : ∀ c ∈ m'.requester.claims, c ∈ m.requester.claims

theorem Inert.refl (m : LinkMonitor) : Inert m m :=
  ⟨rfl, rfl, rfl, fun _ => .inl rfl, fun _ hc => hc⟩

theorem Inert.trans {m₁ m₂ m₃ : LinkMonitor} (h₁ : Inert m₁ m₂) (h₂ : Inert m₂ m₃) :
    Inert m₁ m₃ where
  dispatched_eq := h₂.dispatched_eq.trans h₁.dispatched_eq
  recordDeferred_eq := h₂.recordDeferred_eq.trans h₁.recordDeferred_eq
  lastRequest_eq := h₂.lastRequest_eq.trans h₁.lastRequest_eq
  slot flag := by
    obtain hsame₁ | ⟨hup, hlowered, hown⟩ := h₁.slot flag
    · obtain hsame₂ | ⟨hup, hlowered, id, hid⟩ := h₂.slot flag
      · exact .inl (hsame₂.trans hsame₁)
      · rw [hsame₁] at hup hlowered hid
        exact .inr ⟨hup, hlowered, id, h₁.claims _ hid⟩
    · obtain hsame₂ | ⟨hup₂, -⟩ := h₂.slot flag
      · exact .inr ⟨hup, hsame₂.trans hlowered, hown⟩
      · -- what has been lowered is not raised again
        rw [hlowered] at hup₂
        cases hup₂
  claims c hc := h₁.claims c (h₂.claims c hc)

theorem Inert.of_untracked {m m' : LinkMonitor} {enabled : Bool}
    (h : m'.untracked = { m.untracked with enabled }) : Inert m m' := by
  have hlast : m'.health.lastRequest = m.health.lastRequest := by
    funext k
    cases k with
    | gap => exact congrArg (·.health.lastGapRequest) h
    | stall => exact congrArg (·.health.lastStallRequest) h
    | integrity => exact congrArg (·.health.lastIntegrityRequest) h
  have hclaims : m'.requester.claims = m.requester.claims := congrArg (·.claims) h
  have hdispatched : m'.requester.dispatched = m.requester.dispatched :=
    congrArg (·.dispatched) h
  refine ⟨hdispatched, congrArg (·.health.recordDeferred) h, hlast, fun flag => .inl ?_,
    fun c hc => ?_⟩
  · cases flag with
    | stream => exact congrArg (·.health.streamPending) h
    | record => exact congrArg (·.health.recordPending) h
  · rw [← hclaims]
    exact hc

section Disabled

variable {m : LinkMonitor}

/-- What is neither a reset nor a step of a sequence leaves everything alone but the link and the
switch. -/
theorem untracked_act (tokens : Nat → Token) (h : m.requester.enabled = false) {a : LinkAction}
    (hreset : a ≠ .reset) (hstep : a.isStep = false) :
    ∃ enabled, (m.act tokens a).2.untracked = { m.untracked with enabled } ∧
      (a ≠ .setEnabled true → enabled = false) := by
  have hkeep : ∀ m' : LinkMonitor, m'.untracked = m.untracked →
      ∃ enabled, m'.untracked = { m.untracked with enabled } ∧
        (a ≠ .setEnabled true → enabled = false) := fun m' hsame =>
    ⟨m.requester.enabled, hsame, fun _ => h⟩
  cases a with
  | packet now sender seq => exact hkeep _ (untracked_onPacket h now sender seq)
  | tick now => exact hkeep _ (untracked_tick h now)
  | frameDecoded now => exact hkeep _ rfl
  | integrityRepair now =>
    apply hkeep
    simp only [act, requestIntegrityRepair_of_disabled h]
  | recordingKeyframe =>
    apply hkeep
    simp only [act, requestRecordingKeyframe, Requester.request_of_disabled h]
  | request reason repeats allowDeferred =>
    apply hkeep
    simp only [act, Requester.request_of_disabled h]
  | retryDeferred repeats =>
    apply hkeep
    simp only [act, Requester.retryDeferred, h, Bool.false_and, Bool.false_eq_true, if_false]
  | observe data =>
    apply hkeep
    simp only [act, observe, Requester.observe_eq_self (Requester.observe_of_disabled h data)]
  | setEnabled enabled =>
    refine ⟨enabled, rfl, fun hoff => ?_⟩
    cases enabled with
    | false => rfl
    | true => exact absurd rfl hoff
  | reset => exact absurd rfl hreset
  | startClock now => cases hstep
  | proceed index due => cases hstep

end Disabled

theorem slot_of_givesUp {flag : PendingFlag} {c : Claim} {slot slot' : PendingSlot}
    (h : GivesUp flag c slot slot') :
    slot' = slot ∨ slot.raised = true ∧ slot' = slot.clear ∧
      c.2 = some (flag, slot.generation) := by
  rcases h with ⟨generation, hc, rfl⟩ | ⟨-, rfl⟩
  · by_cases hown : (slot.raised && slot.generation == generation) = true
    · rw [PendingSlot.withdraw, if_pos hown]
      rw [Bool.and_eq_true, beq_iff_eq] at hown
      rw [← hown.2] at hc
      exact .inr ⟨hown.1, rfl, hc⟩
    · rw [PendingSlot.withdraw, if_neg hown]
      exact .inl rfl
  · exact .inl rfl

theorem inert_proceed (tokens : Nat → Token) (m : LinkMonitor) (index : Nat)
    (due : Option Instant) : Inert m (m.act tokens (.proceed index due)).2 := by
  have hlast := m.lastRequest_act tokens (a := .proceed index due) rfl (by simp)
  cases ht : m.requester.tasks[index]? with
  | none =>
    have hsame : RepairRun.proceed tokens ⟨m.requester, []⟩ index due = ⟨m.requester, []⟩ := by
      simp only [RepairRun.proceed, ht]
    simp only [act, hsame]
    exact .refl m
  | some t =>
    have hdeferred : ∀ health, (t.sequence.giveUp health).recordDeferred =
        health.recordDeferred := by
      intro health
      rw [RepeatSequence.giveUp]
      split
      · next flag generation _ => cases flag <;> rfl
      · rfl
    obtain ⟨hdispatched, ⟨hperm, hhealth, -⟩ | ⟨others, hperm, hclaims, hend⟩⟩ :=
      RepairRun.proceed_cases (r := ⟨m.requester, []⟩) tokens ht due
    · exact ⟨hdispatched, congrArg HealthState.recordDeferred hhealth, hlast,
        fun flag => .inl (congrArg (·.pendingSlot flag) hhealth), fun c hc => hperm.mem_iff.1 hc⟩
    · have hothers : ∀ c ∈ (m.act tokens (.proceed index due)).2.requester.claims,
          c ∈ m.requester.claims := by
        intro c hc
        have hc' : c ∈ others := hclaims ▸ hc
        exact hperm.mem_iff.1 (List.mem_cons_of_mem _ hc')
      rcases hend with ⟨-, hhealth, -⟩ | ⟨hhealth, -⟩
      · exact ⟨hdispatched, congrArg HealthState.recordDeferred hhealth, hlast,
          fun flag => .inl (congrArg (·.pendingSlot flag) hhealth), hothers⟩
      · refine ⟨hdispatched, (congrArg HealthState.recordDeferred hhealth).trans (hdeferred _),
          hlast, fun flag => ?_, hothers⟩
        have hgives := slot_of_givesUp (RepairRun.givesUp_giveUp t.sequence m.health flag)
        have hslot : (m.act tokens (.proceed index due)).2.health.pendingSlot flag =
            (t.sequence.giveUp m.health).pendingSlot flag := congrArg (·.pendingSlot flag) hhealth
        rw [hslot]
        refine hgives.imp_right ?_
        rintro ⟨hup, hlowered, hown⟩
        refine ⟨hup, hlowered, t.sequence.id, ?_⟩
        have hmem : t.sequence.claim ∈ m.requester.claims := hperm.mem_iff.1 List.mem_cons_self
        have hclaim : t.sequence.claim =
            (t.sequence.id, some (flag, (m.health.pendingSlot flag).generation)) :=
          Prod.ext rfl hown
        rwa [hclaim] at hmem

/-- A monitor that is switched off decides nothing, whatever happens to it but a reset. -/
theorem inert_act (tokens : Nat → Token) {m : LinkMonitor} (h : m.requester.enabled = false)
    {a : LinkAction} (hreset : a ≠ .reset) : Inert m (m.act tokens a).2 := by
  by_cases hstep : a.isStep = true
  · cases a with
    | startClock now =>
      refine ⟨rfl, rfl, rfl, fun _ => .inl rfl, fun c hc => ?_⟩
      have hclaims : (m.act tokens (.startClock now)).2.requester.claims = m.requester.claims :=
        List.map_map
      rw [← hclaims]
      exact hc
    | proceed index due => exact m.inert_proceed tokens index due
    | _ => cases hstep
  · obtain ⟨enabled, hsame, -⟩ := untracked_act tokens h hreset (Bool.eq_false_iff.2 hstep)
    exact .of_untracked hsame

theorem enabled_act (tokens : Nat → Token) {m : LinkMonitor} (h : m.requester.enabled = false)
    {a : LinkAction} (hreset : a ≠ .reset) (hoff : a ≠ .setEnabled true) :
    (m.act tokens a).2.requester.enabled = false := by
  by_cases hstep : a.isStep = true
  · cases a with
    | startClock now => exact h
    | proceed index due =>
      simp only [act, RepairRun.proceed]
      split
      · exact h
      · exact h
    | _ => cases hstep
  · obtain ⟨enabled, hsame, henabled⟩ := untracked_act tokens h hreset (Bool.eq_false_iff.2 hstep)
    exact (congrArg (·.enabled) hsame).trans (henabled hoff)

/-- As long as it is neither reset nor switched on. -/
theorem inert_actAll (tokens : Nat → Token) {m : LinkMonitor} (h : m.requester.enabled = false)
    {actions : List LinkAction} (hreset : .reset ∉ actions) (hoff : .setEnabled true ∉ actions) :
    Inert m (m.actAll tokens actions) := by
  induction actions generalizing m with
  | nil => exact .refl m
  | cons a actions ih =>
    rw [List.mem_cons, not_or] at hreset hoff
    have hact := inert_act tokens h (Ne.symm hreset.1)
    have hstill := enabled_act tokens h (Ne.symm hreset.1) (Ne.symm hoff.1)
    exact hact.trans (ih hstill hreset.2 hoff.2)

/-- **Tracking does not depend on requests, and nothing is requested while requests are switched
off.** Take two runs of fresh monitors with the same thresholds and origin, in which the same
packets, checks, decoded pictures and resets occur in the same order; everything else may differ.
After each of these actions both runs have reported the same of the link and track the same: the
published state, the sender, the ages of the last packet and picture, the sequence base and the
count of lost packets. While requests are switched off, no action but a reset changes a stamp of a
cooldown, the count of sequences or whether a recording is deferred, and none but a step of a
sequence that is under way changes a flag; such a step may lower the flag that its sequence has
raised last. So it is in every run that neither resets the monitor nor switches it on. -/
theorem independence_law (tokens tokens' : Nat → Token) (codec codec' : Codec)
    (port port' : UInt16) (repair repair' : RepairTiming) (enabled enabled' : Bool)
    (timing : HealthTiming) (origin : Instant) (actions actions' : List LinkAction)
    (hsame : actions.filter LinkAction.isTracking = actions'.filter LinkAction.isTracking) :
    let run := after tokens codec port repair timing enabled origin
    let run' := after tokens' codec' port' repair' timing enabled' origin
    let m := run actions
    let m' := run' actions'
    (run []).trackedTrace tokens actions = (run' []).trackedTrace tokens' actions' ∧
      (m.link = m'.link ∧ m.health.streamUp = m'.health.streamUp ∧
        m.health.sender = m'.health.sender ∧
        (∀ now, m.health.packetAge now = m'.health.packetAge now) ∧
        (∀ now, m.health.decodedAge now = m'.health.decodedAge now) ∧
        m.health.rtpBase = m'.health.rtpBase ∧
        m.health.lostPackets = m'.health.lostPackets) ∧
      (∀ a, a.isTracking = true →
        (m.act tokens a).1.tracked = (m'.act tokens' a).1.tracked) ∧
      (m.requester.enabled = false →
        (∀ a, a ≠ .reset → Inert m (m.act tokens a).2 ∧
          (a.isStep = false →
            (m.act tokens a).2.health.pendingSlot = m.health.pendingSlot)) ∧
        ∀ later, .reset ∉ later → .setEnabled true ∉ later →
          Inert m (m.actAll tokens later)) := by
  intro run run' m m'
  have htracked : m.tracked = m'.tracked := by
    have hm : m.tracked = (run []).tracked.actAll tokens (actions.filter LinkAction.isTracking) :=
      (run []).tracked_actAll tokens tokens actions
    have hm' : m'.tracked = (run' []).tracked.actAll tokens
        (actions'.filter LinkAction.isTracking) :=
      (run' []).tracked_actAll tokens' tokens actions'
    rw [hm, hm', hsame]
    rfl
  have hhealth : m.health.tracked = m'.health.tracked := congrArg health htracked
  refine ⟨?_, ⟨congrArg (·.link) htracked, congrArg (·.streamUp) hhealth,
    congrArg (·.sender) hhealth, fun now => congrArg (·.packetAge now) hhealth,
    fun now => congrArg (·.decodedAge now) hhealth, congrArg (·.rtpBase) hhealth,
    congrArg (·.lostPackets) hhealth⟩, fun a ha => ?_, fun hoff => ⟨fun a hreset => ?_,
    fun later hreset hswitch => inert_actAll tokens hoff hreset hswitch⟩⟩
  · rw [trackedTrace_eq tokens tokens, trackedTrace_eq tokens' tokens, hsame]
    rfl
  · have hm := m.tracked_act tokens tokens ha
    rw [htracked, m'.tracked_act tokens' tokens ha] at hm
    exact (congrArg Prod.fst hm).symm
  · refine ⟨inert_act tokens hoff hreset, fun hstep => ?_⟩
    obtain ⟨_, huntracked, -⟩ := untracked_act tokens hoff hreset hstep
    funext flag
    cases flag with
    | stream => exact congrArg (·.health.streamPending) huntracked
    | record => exact congrArg (·.health.recordPending) huntracked

/-- One run is switched off before packets are lost, the other one asks for keyframes. Both count
the same losses, and only the second has started a cooldown. -/
theorem independence_law_of_lost_packets :
    let actions := [.packet 0 (some default) (some 1), .setEnabled false,
      .packet 5000000 (some default) (some 5), .tick 9000000]
    let actions' := [.recordingKeyframe, .packet 0 (some default) (some 1),
      .integrityRepair 1000000, .packet 5000000 (some default) (some 5), .tick 9000000,
      .proceed 0 none]
    let m := after Token.counting .h265 11223 {} {} true 0 actions
    let m' := after Token.counting .h264 0 {} {} true 0 actions'
    actions.filter LinkAction.isTracking = actions'.filter LinkAction.isTracking ∧
      m.health.lostPackets = m'.health.lostPackets ∧ m.health.lostPackets = 3 ∧
      m.requester.enabled = false ∧ Inert m (m.act Token.counting .recordingKeyframe).2 ∧
      m.health.lastGapRequest = 0 ∧ m'.health.lastGapRequest = 6 := by
  intro actions actions' m m'
  have hsame : actions.filter LinkAction.isTracking = actions'.filter LinkAction.isTracking := by
    decide +revert
  have hoff : m.requester.enabled = false := by decide +kernel +revert
  have hcount : m.health.lostPackets = 3 := by decide +kernel +revert
  have hrequests : m.health.lastGapRequest = 0 ∧ m'.health.lastGapRequest = 6 := by
    decide +kernel +revert
  obtain ⟨-, ⟨-, -, -, -, -, -, hlost⟩, -, hinert⟩ := independence_law Token.counting
    Token.counting .h265 .h264 11223 0 {} {} true true {} 0 actions actions' hsame
  exact ⟨hsame, hlost, hcount, hoff, ((hinert hoff).1 .recordingKeyframe nofun).1, hrequests⟩

end LinkMonitor

end VideoReceiver
