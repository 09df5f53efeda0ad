import VideoReceiver.Health.Monitor
import VideoReceiver.Proofs.Repair.Steps

/-!
# The link monitor step by step

Packets, periodic checks, decoded pictures, requests and the steps of the repeat sequences happen in
any order. Requests and sequences change nothing of the health state but its flags.

## Main definitions

- `LinkAction`, `LinkMonitor.act`: what happens to a monitor, and what it reports
- `HealthState.withoutFlags`: what requests and sequences leave alone
- `LinkMonitor.arrive`: what a packet does before its sequence number is looked at

## Main statements

- `LinkMonitor.runLimited_actAll`: letting time pass is taking steps of the sequences
- `LinkMonitor.withoutFlags_arrive`: what a packet changes
-/

namespace VideoReceiver

/-- What happens to a link monitor. -/
inductive LinkAction where
  | packet (now : Instant) (sender : Option Net.Endpoint) (seq : Option UInt16)
  | tick (now : Instant)
  | frameDecoded (now : Instant)
  | integrityRepair (now : Instant)
  | recordingKeyframe
  | request (reason : RepairReason) (repeats : Nat) (allowDeferred : Bool)
  | retryDeferred (repeats : Nat)
  | observe (data : Bytes)
  | setEnabled (enabled : Bool)
  | reset
  /-- The clock starts for the sequences that have not been started. -/
  | startClock (now : Instant)
  /-- A sequence takes its next step; if it goes on, it does so at `due` and behind the others. -/
  | proceed (index : Nat) (due : Option Instant)
  deriving DecidableEq, Repr

namespace LinkAction

/-- Whether an action only lets the sequences go on. -/
def isStep : LinkAction → Bool
  | startClock _ | proceed .. => true
  | _ => false

def packetTime? : LinkAction → Option Instant
  | packet now _ _ => some now
  | _ => none

def isNumbered : LinkAction → Bool
  | packet _ _ seq => seq.isSome
  | _ => false

end LinkAction

/-- What a link monitor answers. -/
inductive LinkReport where
  | packet (report : PacketReport)
  | tick (report : TickReport)
  | integrityRepair (made : Bool)
  | request (outcome : RequestOutcome)
  | retryDeferred (outcome : Option RequestOutcome)
  | keyframe (nalType : Option UInt8)
  | done
  deriving DecidableEq, Repr

namespace LinkMonitor

variable (tokens : Nat → Token)

/-- Performs an action. -/
def act (m : LinkMonitor) : LinkAction → LinkReport × LinkMonitor
  | .packet now sender seq =>
    let (report, m) := m.onPacket now sender seq
    (.packet report, m)
  | .tick now =>
    let (report, m) := m.tick now
    (.tick report, m)
  | .frameDecoded now => (.done, m.onFrameDecoded now)
  | .integrityRepair now =>
    let (made, m) := m.requestIntegrityRepair now
    (.integrityRepair made, m)
  | .recordingKeyframe =>
    let (outcome, m) := m.requestRecordingKeyframe
    (.request outcome, m)
  | .request reason repeats allowDeferred =>
    let (outcome, requester) := m.requester.request reason repeats allowDeferred
    (.request outcome, { m with requester })
  | .retryDeferred repeats =>
    let (outcome, requester) := m.requester.retryDeferred repeats
    (.retryDeferred outcome, { m with requester })
  | .observe data =>
    let (nalType, m) := m.observe data
    (.keyframe nalType, m)
  | .setEnabled enabled => (.done, m.setEnabled enabled)
  | .reset => (.done, m.reset)
  | .startClock now =>
    (.done,
      { m with requester := (RepairRun.act tokens ⟨m.requester, []⟩ (.startClock now)).requester })
  | .proceed index due =>
    (.done,
      { m with requester := (RepairRun.proceed tokens ⟨m.requester, []⟩ index due).requester })

/-- Performs actions one after the other. -/
def actAll (m : LinkMonitor) (actions : List LinkAction) : LinkMonitor :=
  actions.foldl (fun m a => (m.act tokens a).2) m

theorem actAll_append (m : LinkMonitor) (actions later : List LinkAction) :
    m.actAll tokens (actions ++ later) = (m.actAll tokens actions).actAll tokens later :=
  List.foldl_append

/-- A new monitor. -/
def fresh (codec : Codec) (port : UInt16) (repair : RepairTiming) (timing : HealthTiming)
    (enabled : Bool) (origin : Instant) : LinkMonitor where
  requester := .fresh codec port repair enabled origin
  timing

/-- What has become of a fresh monitor. -/
def after (codec : Codec) (port : UInt16) (repair : RepairTiming) (timing : HealthTiming)
    (enabled : Bool) (origin : Instant) (actions : List LinkAction) : LinkMonitor :=
  (fresh codec port repair timing enabled origin).actAll tokens actions

theorem after_append (codec : Codec) (port : UInt16) (repair : RepairTiming)
    (timing : HealthTiming) (enabled : Bool) (origin : Instant) (actions later : List LinkAction) :
    after tokens codec port repair timing enabled origin (actions ++ later) =
      (after tokens codec port repair timing enabled origin actions).actAll tokens later :=
  actAll_append tokens _ actions later

/-! ## Letting time pass -/

/-- A step of the sequences is the same for a monitor and for its requester. -/
theorem actAll_of_isStep (m : LinkMonitor) (history : List RepairEvent)
    {actions : List RepairAction} (hsteps : ∀ a ∈ actions, a.isStep = true) :
    ∃ steps : List LinkAction, (∀ a ∈ steps, a.isStep = true) ∧
      m.actAll tokens steps =
        { m with
          requester := (RepairRun.actAll tokens ⟨m.requester, history⟩ actions).requester } := by
  induction actions generalizing m history with
  | nil => exact ⟨[], nofun, rfl⟩
  | cons a actions ih =>
    obtain ⟨ha, hrest⟩ := List.forall_mem_cons.1 hsteps
    have hstep : ∃ step : LinkAction, step.isStep = true ∧ (m.act tokens step).2 =
        { m with requester := (RepairRun.act tokens ⟨m.requester, history⟩ a).requester } := by
      cases a with
      | startClock now => exact ⟨.startClock now, rfl, rfl⟩
      | proceed index due =>
        -- the history plays no part in what becomes of the requester
        refine ⟨.proceed index due, rfl, ?_⟩
        simp only [act, RepairRun.act, RepairRun.proceed]
        split <;> rfl
      | _ => cases ha
    obtain ⟨step, hisStep, hact⟩ := hstep
    obtain ⟨steps, hsteps', hall⟩ := ih (m.act tokens step).2
      (RepairRun.act tokens ⟨m.requester, history⟩ a).history hrest
    refine ⟨step :: steps, List.forall_mem_cons.2 ⟨hisStep, hsteps'⟩, ?_⟩
    have hcons : m.actAll tokens (step :: steps) = (m.act tokens step).2.actAll tokens steps := rfl
    rw [hcons, hall, hact]
    rfl

/-- Letting time pass is taking steps of the sequences. -/
theorem runLimited_actAll (limit : Option Instant) (now : Instant) (m : LinkMonitor) :
    ∃ steps : List LinkAction, (∀ a ∈ steps, a.isStep = true) ∧
      m.actAll tokens steps =
        { m with requester := (m.requester.runLimited tokens limit now).2.2 } := by
  obtain ⟨r', ⟨actions, hsteps, rfl⟩, hr'⟩ :=
    RepairRun.runLimited_reached tokens limit now ⟨m.requester, []⟩
  rw [← hr']
  exact m.actAll_of_isStep tokens [] hsteps

end LinkMonitor

/-! ## What requests and sequences leave alone -/

/-- The health state without what requests, keyframes and sequences change: the two flags, and
whether a recording is deferred. -/
def HealthState.withoutFlags (s : HealthState) : HealthState :=
  { s with streamPending := {}, recordPending := {}, recordDeferred := false }

namespace HealthState

@[simp] theorem withoutFlags_setPendingSlot (s : HealthState) (flag : PendingFlag)
    (slot : PendingSlot) : (s.setPendingSlot flag slot).withoutFlags = s.withoutFlags := by
  cases flag <;> rfl

@[simp] theorem withoutFlags_raise (s : HealthState) (flag : PendingFlag) :
    (s.raise flag).2.withoutFlags = s.withoutFlags :=
  s.withoutFlags_setPendingSlot flag _

@[simp] theorem withoutFlags_confirm (s : HealthState) (flag : PendingFlag) :
    (s.confirm flag).2.withoutFlags = s.withoutFlags :=
  s.withoutFlags_setPendingSlot flag _

end HealthState

theorem RepeatSequence.withoutFlags_step (tokens : Nat → Token) (drawn : Nat)
    (health : HealthState) (s : RepeatSequence) :
    (s.step tokens drawn health).health.withoutFlags = health.withoutFlags := by
  have hgiveUp : (s.giveUp health).withoutFlags = health.withoutFlags := by
    unfold giveUp
    split
    · exact health.withoutFlags_setPendingSlot _ _
    · rfl
  obtain ⟨-, hhealth, -⟩ | ⟨-, -, hhealth, -⟩ | ⟨-, hhealth, -⟩ := s.step_cases tokens drawn health
  · rw [hhealth]
  · rw [hhealth]
  · rw [hhealth, hgiveUp]

theorem RepairRun.withoutFlags_proceed (tokens : Nat → Token) (r : RepairRun) (index : Nat)
    (due : Option Instant) :
    (r.proceed tokens index due).requester.health.withoutFlags =
      r.requester.health.withoutFlags := by
  unfold proceed
  split
  · rfl
  · exact RepeatSequence.withoutFlags_step tokens _ _ _

namespace Requester

@[simp] theorem withoutFlags_request (r : Requester) (reason : RepairReason) (repeats : Nat)
    (allowDeferred : Bool) :
    (r.request reason repeats allowDeferred).2.health.withoutFlags = r.health.withoutFlags := by
  unfold request
  split
  · rfl
  · rcases ht : reason.tracking with _ | flag
    · dsimp only
      split
      · split <;> rfl
      · rfl
    · dsimp only
      split
      · split <;> exact r.health.withoutFlags_raise flag
      · exact r.health.withoutFlags_raise flag

@[simp] theorem withoutFlags_retryDeferred (r : Requester) (repeats : Nat) :
    (r.retryDeferred repeats).2.health.withoutFlags = r.health.withoutFlags := by
  unfold retryDeferred
  split
  · exact withoutFlags_request _ _ _ _
  · rfl

@[simp] theorem withoutFlags_observe (r : Requester) (data : Bytes) :
    (r.observe data).2.health.withoutFlags = r.health.withoutFlags := by
  unfold observe
  split
  · split
    · rfl
    · -- the deferral is dropped only if the recording was confirmed
      have hconfirm : ((r.health.confirm .stream).2.confirm .record).2.withoutFlags =
          r.health.withoutFlags := by simp
      dsimp only
      split
      · exact hconfirm
      · exact hconfirm
  · rfl

end Requester

/-! ## Packets -/

namespace LinkMonitor

@[simp] theorem withoutFlags_send (m : LinkMonitor) (reason : RepairReason) (repeats : Nat) :
    (m.send reason repeats).health.withoutFlags = m.health.withoutFlags :=
  m.requester.withoutFlags_request reason repeats false

theorem withoutFlags_noteSender (m : LinkMonitor) (sender : Net.Endpoint) :
    (m.noteSender sender).health.withoutFlags =
      { m.health.withoutFlags with sender := some sender } :=
  (m.setHealth { m.health with sender := some sender }).requester.withoutFlags_retryDeferred _

theorem withoutFlags_comeUp (m : LinkMonitor) :
    m.comeUp.health.withoutFlags =
      { m.health.withoutFlags with streamUp := true, rtpBase := .empty } :=
  withoutFlags_send _ _ _

/-- A packet's arrival and its sender have been noted. -/
def hear (m : LinkMonitor) (now : Instant) (sender : Option Net.Endpoint) : LinkMonitor :=
  match sender with
  | some s => (m.setHealth (m.health.recordPacket now)).noteSender s
  | none => m.setHealth (m.health.recordPacket now)

theorem withoutFlags_hear (m : LinkMonitor) (now : Instant) (sender : Option Net.Endpoint) :
    (m.hear now sender).health.withoutFlags =
      { m.health.withoutFlags with
        lastPacket := m.health.stamp now
        sender := sender.or m.health.sender } := by
  cases sender with
  | none => rfl
  | some s => exact withoutFlags_noteSender _ s

theorem streamUp_hear (m : LinkMonitor) (now : Instant) (sender : Option Net.Endpoint) :
    (m.hear now sender).health.streamUp = m.health.streamUp := by
  have hsame := congrArg HealthState.streamUp (m.withoutFlags_hear now sender)
  exact hsame

/-- What a packet does before its sequence number is looked at. -/
def arrive (m : LinkMonitor) (now : Instant) (sender : Option Net.Endpoint) : LinkMonitor :=
  if m.health.streamUp then m.hear now sender else (m.hear now sender).comeUp

theorem withoutFlags_arrive (m : LinkMonitor) (now : Instant) (sender : Option Net.Endpoint) :
    (m.arrive now sender).health.withoutFlags =
      { m.health.withoutFlags with
        lastPacket := m.health.stamp now
        sender := sender.or m.health.sender
        streamUp := true
        rtpBase := if m.health.streamUp then m.health.rtpBase else .empty } := by
  rcases hup : m.health.streamUp with _ | _
  · simp only [arrive, hup, Bool.false_eq_true, if_false]
    rw [withoutFlags_comeUp, withoutFlags_hear]
  · simp only [arrive, hup, if_true]
    rw [withoutFlags_hear]
    simp [HealthState.withoutFlags, hup]

theorem onPacket_eq (m : LinkMonitor) (now : Instant) (sender : Option Net.Endpoint)
    (seq : Option UInt16) :
    m.onPacket now sender seq =
      match seq with
      | none => ({ cameUp := !m.health.streamUp }, m.arrive now sender)
      | some seq =>
        ({ ((m.arrive now sender).trackSequence now seq).1 with cameUp := !m.health.streamUp },
          ((m.arrive now sender).trackSequence now seq).2) := by
  have harrive : m.arrive now sender =
      if !(m.hear now sender).health.streamUp then (m.hear now sender).comeUp
      else m.hear now sender := by
    rw [streamUp_hear]
    rcases hup : m.health.streamUp with _ | _ <;> simp [arrive, hup]
  rw [harrive, ← m.streamUp_hear now sender]
  cases sender with
  | none => cases seq <;> rfl
  | some s => cases seq <;> rfl

end LinkMonitor

end VideoReceiver
