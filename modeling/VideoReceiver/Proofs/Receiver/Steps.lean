import VideoReceiver.Proofs.Decode.Generation
import VideoReceiver.Proofs.Mailbox.Delivery
import VideoReceiver.Proofs.Receiver.Source
import VideoReceiver.Proofs.Receiver.Waiting
import VideoReceiver.Proofs.Repair.Clock

/-!
# The ingest loop step by step

While the ingest loop works, the display and the users of the link monitor go on. Here the loop is
taken apart into reads of the source and steps of the decode stage, between which others may act.
What they do to the monitor is data: the periodic check, the repeat sequences, and changes that the
owner makes. Letting time pass in a session is taking such steps, in which every access unit is
shown to the monitor when it is due.

## Main definitions

- `MonitorUse`, `MonitorTrace`: what is done to the link monitor
- `IngestTask`, `IngestRun`: an ingest loop in the middle of its work
- `IngestAction`, `IngestRun.act`: a step of the loop, or what another party does to it
- `IngestRun.mailboxAction?`: how the next step uses the mailbox
- `IngestRun.Reaches`: a run of steps and what is done with the monitor in it
- `IngestRun.Follows`: the loop is at rest, and is the one of a session
- `Session.Leads`: what happens in a session is a run of its loop

## Main statements

- `IngestRun.uses_act`: what a step does to mailbox and counter
- `IngestRun.reaches_proceed`: what the loop does at one instant is a run of steps
- `Session.leads_advanceTo`, `Session.leads_joinIngest`: letting time pass is taking steps
-/

namespace VideoReceiver

variable {η τ : Type}

/-! ## The mailbox of the decode stage -/

namespace StageRun

/-- How the next step of an operation uses the mailbox: a change of generation discards the pending
frame, and a picture in a buffer of a slot is posted. -/
def mailboxAction? (now : Instant) (r : StageRun η) : Option MailboxAction :=
  match r.change, r.tasks with
  | some (.discarding _), _ => some .discard
  | none, .present identity pts :: _ =>
    ((r.stage.pool.resolve identity).bind r.stage.pool.slot?).map fun slot =>
      .post ⟨slot.surface, (r.stage.takeAcceptTime pts).1.getD now⟩
  | _, _ => none

theorem stage_start (r : StageRun η) (op : StageOperation) : (r.start op).stage = r.stage := by
  unfold start
  split <;> rfl

end StageRun

/-- What a step does to the mailbox and to the counter of posted pictures. -/
structure DecodeStage.Uses (s s' : DecodeStage η) (a : Option MailboxAction) : Prop where
  mailbox_eq : s'.mailbox = s.mailbox.actAll a.toList
  pictures_eq : s'.stats.pictures =
    s.stats.pictures + (a.toList.filterMap MailboxAction.frame?).length

namespace DecodeStage

theorem Uses.none_of_eq {s s' : DecodeStage η} (hmailbox : s'.mailbox = s.mailbox)
    (hpictures : s'.stats.pictures = s.stats.pictures) : s.Uses s' none :=
  ⟨hmailbox, hpictures⟩

theorem uses_observe (s : DecodeStage η) (u : AccessUnit) : s.Uses (s.observe u) none := by
  unfold observe
  split <;> exact .none_of_eq rfl rfl

theorem uses_present (s : DecodeStage η) (now : Instant) (identity : HardwareIdentity)
    (pts : UInt64) :
    s.Uses (s.present now identity pts)
      (((s.pool.resolve identity).bind s.pool.slot?).map fun slot =>
        .post ⟨slot.surface, (s.takeAcceptTime pts).1.getD now⟩) := by
  have hmailbox := (s.takeAcceptTime_frame pts).2.2
  have hstats : (s.takeAcceptTime pts).2.stats = s.stats := by
    unfold takeAcceptTime
    split <;> rfl
  unfold present
  cases (s.pool.resolve identity).bind s.pool.slot? with
  | none => exact .none_of_eq rfl rfl
  | some slot =>
    constructor
    · dsimp only
      rw [hmailbox]
      rfl
    · dsimp only
      rw [hstats]
      rfl

end DecodeStage

section Decode

variable [SurfaceAllocator η] [VideoDecoder η]

omit [SurfaceAllocator η] in
theorem StageTask.uses_step (s : DecodeStage η) (now : Instant) (task : StageTask) :
    s.Uses (task.step now s).2.2 (StageRun.mailboxAction? now ⟨s, none, [task], none, none⟩) := by
  cases task with
  | offer u attempts =>
    cases attempts with
    | zero => exact .none_of_eq rfl rfl
    | succ attempts =>
      rcases hs : VideoDecoder.submit s.hardware u.data u.pts with ⟨e | _ | _, hardware⟩ <;>
        simp only [step, hs] <;> exact .none_of_eq rfl rfl
  | observe u => exact s.uses_observe u
  | poll =>
    rcases he : VideoDecoder.pollEvent s.hardware with ⟨e | _ | _ | _, hardware⟩ <;>
      simp only [step, he] <;> exact .none_of_eq rfl rfl
  | present identity pts => exact s.uses_present now identity pts

theorem Change.uses_step (s : DecodeStage η) (now : Instant) (c : Change) :
    s.Uses (c.step s).2 (StageRun.mailboxAction? now ⟨s, some c, [], none, none⟩) := by
  cases c with
  | discarding goal => exact ⟨rfl, rfl⟩
  | dismantling goal => exact .none_of_eq rfl rfl
  | unbinding slots goal =>
    cases slots with
    | nil => cases goal <;> exact .none_of_eq rfl rfl
    | cons b slots => exact .none_of_eq rfl rfl
  | releasing handle slots goal => exact .none_of_eq rfl rfl
  | allocating format missing built =>
    cases missing with
    | zero => exact .none_of_eq rfl rfl
    | succ missing =>
      rcases ha : SurfaceAllocator.allocate s.hardware format.bufferSize with ⟨e | a, hardware⟩
      · simp only [step, ha]
        exact .none_of_eq rfl rfl
      · rcases hf : built.find? (·.identity == a.identity) with _ | owner <;>
          simp only [step, ha, hf] <;> exact .none_of_eq rfl rfl
  | binding format missing built a =>
    rcases hb : SurfaceAllocator.bindSurface s.hardware a format with ⟨e | surface, hardware⟩ <;>
      simp only [step, hb] <;> exact .none_of_eq rfl rfl
  | registering format built =>
    rcases hr : VideoDecoder.registerBuffers s.hardware
      (built.map (FramePool.externalBuffer format)) with ⟨e | _, hardware⟩ <;>
      simp only [step, hr] <;> exact .none_of_eq rfl rfl

theorem StageRun.uses_proceed (r : StageRun η) (now : Instant) :
    r.stage.Uses (r.proceed now).stage (r.mailboxAction? now) := by
  obtain ⟨s, change, tasks, op, failure⟩ := r
  cases change with
  | some c =>
    have huses := c.uses_step s now
    have hstage : (StageRun.proceed now ⟨s, some c, tasks, op, failure⟩).stage = (c.step s).2 := by
      simp only [proceed]
      rcases c.step s with ⟨e | change, s'⟩ <;> rfl
    rw [hstage]
    cases c <;> exact huses
  | none =>
    cases tasks with
    | nil => exact .none_of_eq rfl rfl
    | cons task rest =>
      have huses := task.uses_step s now
      cases task <;> exact huses

/-- The decode stage does not signal the end of the stream. -/
theorem StageRun.finished_proceed (r : StageRun η) (now : Instant) :
    (r.proceed now).stage.mailbox.finished = r.stage.mailbox.finished := by
  rw [(r.uses_proceed now).mailbox_eq]
  unfold mailboxAction?
  split
  · show r.stage.mailbox.discard.2.finished = _
    unfold Mailbox.discard
    split <;> rfl
  · cases (r.stage.pool.resolve _).bind r.stage.pool.slot? <;> rfl
  · rfl

theorem StageRun.operation_proceed (r : StageRun η) (now : Instant) :
    (r.proceed now).operation = r.operation := by
  obtain ⟨s, change, tasks, op, failure⟩ := r
  cases change with
  | some c =>
    simp only [proceed]
    rcases c.step s with ⟨e | change, s'⟩ <;> rfl
  | none => cases tasks <;> rfl

theorem StageRun.proceed_of_idle {r : StageRun η} (h : r.Idle) (now : Instant) :
    r.proceed now = r := by
  simp only [proceed, h.1, h.2]

end Decode

/-! ## The ingest loop -/

/-- What the ingest loop is about to do. -/
inductive IngestTask where
  /-- It reads the next item, when its pause is over. -/
  | reading
  | stalled
  /-- The decode stage handles an access unit. -/
  | feeding
  /-- The mailbox is going to learn of the end of the stream. -/
  | leaving (how : IngestEnd)
  /-- The decode stage is being torn down. -/
  | closing (how : IngestEnd)
  | ended (how : IngestEnd)
  deriving DecidableEq, Repr

namespace IngestTask

/-- The end of the stream has been signalled. -/
def isOver : IngestTask → Bool
  | closing _ | ended _ => true
  | _ => false

/-- The decode stage has nothing to do. -/
def isResting : IngestTask → Bool
  | feeding | closing _ => false
  | _ => true

end IngestTask

/-- An ingest loop in the middle of its work. -/
structure IngestRun (η : Type) where
  decode : StageRun η
  items : List SourceItem
  units : Nat := 0
  faults : Nat := 0
  task : IngestTask := .reading

/-- What a party other than the ingest loop does to the link monitor. -/
inductive MonitorUse where
  /-- The periodic check is made. -/
  | check (now : Instant)
  /-- The repeat sequences run, up to a limit or until none is under way. -/
  | sequences (limit : Option Instant) (now : Instant)
  /-- The owner makes a change. -/
  | change (f : LinkMonitor → LinkMonitor)

/-- What is done with the link monitor in a run. -/
structure MonitorTrace where
  /-- The changes that the owner makes. -/
  changes : List (LinkMonitor → LinkMonitor) := []
  /-- What the repeat sequences attempt. -/
  sent : List Attempt := []
  /-- The access units that it is shown, each with its instant. -/
  shown : List (Instant × AccessUnit) := []

namespace MonitorTrace

instance : Append MonitorTrace :=
  ⟨fun t t' => ⟨t.changes ++ t'.changes, t.sent ++ t'.sent, t.shown ++ t'.shown⟩⟩

theorem append_empty (t : MonitorTrace) : t ++ ({} : MonitorTrace) = t := by
  show MonitorTrace.mk (t.changes ++ []) (t.sent ++ []) (t.shown ++ []) = t
  simp only [List.append_nil]

theorem append_assoc (t₁ t₂ t₃ : MonitorTrace) : t₁ ++ t₂ ++ t₃ = t₁ ++ (t₂ ++ t₃) := by
  show MonitorTrace.mk (t₁.changes ++ t₂.changes ++ t₃.changes) (t₁.sent ++ t₂.sent ++ t₃.sent)
    (t₁.shown ++ t₂.shown ++ t₃.shown) = _
  rw [List.append_assoc, List.append_assoc, List.append_assoc]
  rfl

end MonitorTrace

namespace MonitorUse

def apply (m : LinkMonitor) : MonitorUse → LinkMonitor
  | check now => (m.tick now).2
  | sequences limit now =>
    { m with requester := (m.requester.runLimited Session.tokens limit now).2.2 }
  | change f => f m

def trace (m : LinkMonitor) : MonitorUse → MonitorTrace
  | check _ => {}
  | sequences limit now => { sent := (m.requester.runLimited Session.tokens limit now).1 }
  | change f => { changes := [f] }

end MonitorUse

/-- A step of the ingest loop, or what another party does to what it shares. -/
inductive IngestAction where
  | proceed (now : Instant)
  /-- The loop notices that it has been asked to end. -/
  | cancel
  | watch (use : MonitorUse)

namespace IngestRun

/-- The loop cannot go on before the decode stage has handled an access unit. -/
def receive (now : Instant) (r : IngestRun η) (u : AccessUnit) : IngestRun η :=
  let stage := { r.decode.stage with monitor := (r.decode.stage.monitor.onAccessUnit now u).2 }
  { r with
    decode := { r.decode with stage }.start (.feed u)
    units := r.units + 1
    faults := 0
    task := .feeding }

/-- Reads the next item. A pause of the source, and one after a fault, end when the loop goes on. -/
def read (now : Instant) (r : IngestRun η) : IngestRun η :=
  match r.items with
  | [] => { r with task := .leaving .endOfStream }
  | .finish :: rest => { r with items := rest, task := .leaving .endOfStream }
  | .stall :: rest => { r with items := rest, task := .stalled }
  | .wait _ :: rest => { r with items := rest }
  | .fault e :: rest =>
    if e.isRetryable && r.faults + 1 < Ingest.maxFaults then
      { r with items := rest, faults := r.faults + 1 }
    else { r with items := rest, task := .leaving (.sourceFailed e) }
  | .unit u :: rest => { r with items := rest }.receive now u

/-- The decode stage has handled an access unit. -/
def fed (r : IngestRun η) : IngestRun η :=
  match r.decode.failure with
  | some e => { r with task := .leaving (.fatal e) }
  | none => { r with task := .reading }

/-- The mailbox learns of the end of the stream, before the decode stage is torn down. -/
def leave (r : IngestRun η) (how : IngestEnd) : IngestRun η :=
  let stage := { r.decode.stage with mailbox := r.decode.stage.mailbox.finish }
  { r with decode := { r.decode with stage }.start .teardown, task := .closing how }

/-- The loop notices that it has been asked to end, if it reads or pauses. -/
def cancel (r : IngestRun η) : IngestRun η :=
  match r.task with
  | .reading | .stalled => { r with task := .leaving .cancelled }
  | _ => r

/-- Others use the monitor. -/
def watch (r : IngestRun η) (use : MonitorUse) : IngestRun η :=
  let stage := { r.decode.stage with monitor := use.apply r.decode.stage.monitor }
  { r with decode := { r.decode with stage } }

/-- The access unit that the next step shows to the monitor. -/
def shows (r : IngestRun η) (now : Instant) : List (Instant × AccessUnit) :=
  match r.task, r.items with
  | .reading, .unit u :: _ => [(now, u)]
  | _, _ => []

/-- What is done with the monitor in an action. -/
def traceOf (r : IngestRun η) : IngestAction → MonitorTrace
  | .proceed now => { shown := r.shows now }
  | .cancel => {}
  | .watch use => use.trace r.decode.stage.monitor

/-- How an action uses the mailbox. -/
def mailboxAction? (r : IngestRun η) : IngestAction → Option MailboxAction
  | .proceed now =>
    match r.task with
    | .feeding | .closing _ => r.decode.mailboxAction? now
    | .leaving _ => some .finish
    | _ => none
  | _ => none

variable [SurfaceAllocator η] [VideoDecoder η]

/-- The next step of the loop. -/
def proceed (now : Instant) (r : IngestRun η) : IngestRun η :=
  match r.task with
  | .reading => r.read now
  | .feeding => if r.decode.Idle then r.fed else { r with decode := r.decode.proceed now }
  | .leaving how => r.leave how
  | .closing how =>
    if r.decode.Idle then { r with task := .ended how }
    else { r with decode := r.decode.proceed now }
  | .stalled | .ended _ => r

/-- Performs an action. -/
def act (r : IngestRun η) : IngestAction → IngestRun η
  | .proceed now => r.proceed now
  | .cancel => r.cancel
  | .watch use => r.watch use

def actAll (r : IngestRun η) (actions : List IngestAction) : IngestRun η := actions.foldl act r

/-- What is done with the monitor in a run. -/
def trace (r : IngestRun η) : List IngestAction → MonitorTrace
  | [] => {}
  | a :: actions => r.traceOf a ++ (r.act a).trace actions

theorem trace_append (r : IngestRun η) (actions later : List IngestAction) :
    r.trace (actions ++ later) = r.trace actions ++ (r.actAll actions).trace later := by
  induction actions generalizing r with
  | nil => rfl
  | cons a actions ih =>
    show r.traceOf a ++ (r.act a).trace (actions ++ later) = _
    rw [ih, ← MonitorTrace.append_assoc]
    rfl

omit [SurfaceAllocator η] [VideoDecoder η] in
theorem uses_read (r : IngestRun η) (now : Instant) :
    r.decode.stage.Uses (r.read now).decode.stage none := by
  unfold read
  split
  · exact .none_of_eq rfl rfl
  · exact .none_of_eq rfl rfl
  · exact .none_of_eq rfl rfl
  · exact .none_of_eq rfl rfl
  · split <;> exact .none_of_eq rfl rfl
  · simp only [receive, StageRun.stage_start]
    exact .none_of_eq rfl rfl

/-- What an action does to the mailbox and to the counter of posted pictures. -/
theorem uses_act (r : IngestRun η) (a : IngestAction) :
    r.decode.stage.Uses (r.act a).decode.stage (r.mailboxAction? a) := by
  obtain ⟨decode, items, units, faults, task⟩ := r
  cases a with
  | watch use => exact .none_of_eq rfl rfl
  | cancel => cases task <;> exact .none_of_eq rfl rfl
  | proceed now =>
    have hdecode := decode.uses_proceed now
    have hidle : decode.Idle → decode.mailboxAction? now = none := by
      intro h
      simp only [StageRun.mailboxAction?, h.1, h.2]
    cases task with
    | reading => exact uses_read _ now
    | stalled => exact .none_of_eq rfl rfl
    | ended how => exact .none_of_eq rfl rfl
    | leaving how =>
      simp only [act, proceed, leave, StageRun.stage_start]
      exact ⟨rfl, rfl⟩
    | feeding =>
      simp only [act, proceed, mailboxAction?]
      split
      · next h =>
        rw [hidle h]
        unfold fed
        split <;> exact .none_of_eq rfl rfl
      · exact hdecode
    | closing how =>
      simp only [act, proceed, mailboxAction?]
      split
      · next h =>
        rw [hidle h]
        exact .none_of_eq rfl rfl
      · exact hdecode

/-! ## The order of the ingest loop's work -/

/-- The end of the stream is signalled before the decode stage is torn down, and nothing is done to
the stage after that. -/
structure Sound (r : IngestRun η) : Prop where
  decode : r.decode.Sound
  resting : r.task.isResting = true → r.decode.Idle
  finished_eq : r.decode.stage.mailbox.finished = r.task.isOver
  closing : r.task.isOver = true → r.decode.operation = some .teardown

omit [SurfaceAllocator η] [VideoDecoder η] in
theorem Sound.read {r : IngestRun η} (h : r.Sound) (htask : r.task = .reading) (now : Instant) :
    (r.read now).Sound := by
  have hidle : r.decode.Idle := h.resting (by rw [htask]; rfl)
  have hfinished : r.decode.stage.mailbox.finished = false := by
    rw [h.finished_eq, htask]
    rfl
  have hstay : ∀ (items : List SourceItem) (faults : Nat) (task : IngestTask),
      task.isOver = false → Sound ⟨r.decode, items, r.units, faults, task⟩ := by
    intro items faults task hover
    refine ⟨h.decode, fun _ => hidle, hfinished.trans hover.symm, fun ht => ?_⟩
    rw [hover] at ht
    cases ht
  unfold IngestRun.read
  split
  · exact hstay _ _ _ rfl
  · exact hstay _ _ _ rfl
  · exact hstay _ _ _ rfl
  · exact hstay _ _ _ (by rw [htask]; rfl)
  · split
    · exact hstay _ _ _ (by rw [htask]; rfl)
    · exact hstay _ _ _ rfl
  · next u rest _ =>
    let stage := { r.decode.stage with monitor := (r.decode.stage.monitor.onAccessUnit now u).2 }
    have hdecode : StageRun.Sound { r.decode with stage } := h.decode.of_imp rfl fun f => id
    refine ⟨hdecode.start (.feed u), nofun, ?_, nofun⟩
    simp only [receive, StageRun.stage_start]
    exact hfinished

theorem Sound.decode_proceed {r : IngestRun η} (h : r.Sound) (htask : r.task.isResting = false)
    (now : Instant) : Sound { r with decode := r.decode.proceed now } where
  decode := h.decode.proceed now
  resting hrest := by
    rw [htask] at hrest
    cases hrest
  finished_eq := (r.decode.finished_proceed now).trans h.finished_eq
  closing hover := (r.decode.operation_proceed now).trans (h.closing hover)

omit [SurfaceAllocator η] [VideoDecoder η] in
/-- Others may take the pending frame, and signal an end that has been signalled before. -/
theorem Sound.of_mailbox {r : IngestRun η} (h : r.Sound) {mailbox : Mailbox}
    (hpending : ∀ f, mailbox.pending = some f → r.decode.stage.mailbox.pending = some f)
    (hfinished : mailbox.finished = r.task.isOver) :
    Sound { r with decode := { r.decode with stage := { r.decode.stage with mailbox } } } where
  decode := h.decode.of_imp rfl hpending
  resting := h.resting
  finished_eq := hfinished
  closing := h.closing

theorem Sound.act {r : IngestRun η} (h : r.Sound) (a : IngestAction) : (r.act a).Sound := by
  obtain ⟨decode, items, units, faults, task⟩ := r
  cases a with
  | watch use =>
    exact ⟨h.decode.of_imp rfl fun f => id, h.resting, h.finished_eq, h.closing⟩
  | cancel =>
    cases task with
    | reading => exact ⟨h.decode, fun _ => h.resting rfl, h.finished_eq, nofun⟩
    | stalled => exact ⟨h.decode, fun _ => h.resting rfl, h.finished_eq, nofun⟩
    | _ => exact h
  | proceed now =>
    cases task with
    | reading => exact h.read rfl now
    | stalled => exact h
    | ended how => exact h
    | feeding =>
      simp only [IngestRun.act, IngestRun.proceed]
      split
      · next hidle =>
        unfold fed
        split
        · exact ⟨h.decode, fun _ => hidle, h.finished_eq, nofun⟩
        · exact ⟨h.decode, fun _ => hidle, h.finished_eq, nofun⟩
      · exact h.decode_proceed rfl now
    | leaving how =>
      have hidle : decode.Idle := h.resting rfl
      let d : StageRun η :=
        { decode with stage := { decode.stage with mailbox := decode.stage.mailbox.finish } }
      have hdecode : d.Sound := h.decode.of_imp rfl fun f => id
      refine ⟨hdecode.start .teardown, nofun, ?_, fun _ => ?_⟩
      · show (d.start .teardown).stage.mailbox.finished = true
        rw [StageRun.stage_start]
        rfl
      · show (d.start .teardown).operation = some .teardown
        rw [StageRun.start, if_pos (show d.Idle from hidle)]
    | closing how =>
      simp only [IngestRun.act, IngestRun.proceed]
      split
      · next hidle => exact ⟨h.decode, fun _ => hidle, h.finished_eq, fun _ => h.closing rfl⟩
      · exact h.decode_proceed rfl now

theorem Sound.actAll {r : IngestRun η} (h : r.Sound) (actions : List IngestAction) :
    (r.actAll actions).Sound := by
  induction actions generalizing r with
  | nil => exact h
  | cons a actions ih => exact ih (h.act a)

/-! ## Undisturbed work -/

/-- Actions lead from one state to another, and this is what is done with the monitor in them. -/
def Reaches (trace : MonitorTrace) (r r' : IngestRun η) : Prop :=
  ∃ actions, r.actAll actions = r' ∧ r.trace actions = trace

/-- The loop leads from one state to another without using the monitor. -/
abbrev Goes (r r' : IngestRun η) : Prop := Reaches {} r r'

namespace Reaches

variable {trace trace' : MonitorTrace}

theorem refl (r : IngestRun η) : Goes r r := ⟨[], rfl, rfl⟩

theorem proceed {r r' : IngestRun η} (now : Instant)
    (h : Reaches trace (r.act (.proceed now)) r') :
    Reaches ({ shown := r.shows now } ++ trace) r r' := by
  obtain ⟨actions, hactions, rfl⟩ := h
  exact ⟨.proceed now :: actions, hactions, rfl⟩

/-- A step that shows nothing to the monitor. -/
theorem quiet {r r' : IngestRun η} (now : Instant) (hshows : r.shows now = [])
    (h : Reaches trace (r.act (.proceed now)) r') : Reaches trace r r' := by
  have hproceed := h.proceed now
  rw [hshows] at hproceed
  exact hproceed

theorem cancel {r r' : IngestRun η} (h : Reaches trace (r.act .cancel) r') : Reaches trace r r' := by
  obtain ⟨actions, hactions, rfl⟩ := h
  exact ⟨.cancel :: actions, hactions, rfl⟩

theorem watch (r : IngestRun η) (use : MonitorUse) :
    Reaches (use.trace r.decode.stage.monitor) r (r.watch use) :=
  ⟨[.watch use], rfl, MonitorTrace.append_empty _⟩

theorem trans {r₁ r₂ r₃ : IngestRun η} (h₁ : Reaches trace r₁ r₂) (h₂ : Reaches trace' r₂ r₃) :
    Reaches (trace ++ trace') r₁ r₃ := by
  obtain ⟨actions, rfl, rfl⟩ := h₁
  obtain ⟨later, rfl, rfl⟩ := h₂
  exact ⟨actions ++ later, List.foldl_append, r₁.trace_append actions later⟩

theorem goes {r₁ r₂ r₃ : IngestRun η} (h₁ : Reaches trace r₁ r₂) (h₂ : Goes r₂ r₃) :
    Reaches trace r₁ r₃ := by
  have h := h₁.trans h₂
  rwa [MonitorTrace.append_empty] at h

theorem sound {r r' : IngestRun η} (h : Reaches trace r r') (hr : r.Sound) : r'.Sound := by
  obtain ⟨actions, rfl, -⟩ := h
  exact hr.actAll actions

end Reaches

omit [SurfaceAllocator η] [VideoDecoder η] in
theorem shows_of_busy (r : IngestRun η) (h : r.task.isResting = false) (now : Instant) :
    r.shows now = [] := by
  obtain ⟨decode, items, units, faults, task⟩ := r
  cases task with
  | feeding | closing _ => rfl
  | _ => cases h

/-- While the decode stage is busy the loop takes its steps. -/
theorem reaches_decode {r : IngestRun η} {d : StageRun η} {now : Instant}
    (h : StageRun.Reaches now r.decode d) (htask : r.task.isResting = false) :
    Goes r { r with decode := d } := by
  obtain ⟨n, rfl⟩ := h
  induction n generalizing r with
  | zero => exact .refl r
  | succ n ih =>
    rw [Function.iterate_succ_apply]
    by_cases hidle : r.decode.Idle
    · rw [StageRun.proceed_of_idle hidle]
      exact ih htask
    · have hact : r.act (.proceed now) = { r with decode := r.decode.proceed now } := by
        obtain ⟨decode, items, units, faults, task⟩ := r
        cases task with
        | feeding => exact if_neg hidle
        | closing how => exact if_neg hidle
        | _ => cases htask
      refine .quiet now (r.shows_of_busy htask now) ?_
      rw [hact]
      exact ih (r := { r with decode := r.decode.proceed now }) htask

end IngestRun

/-- What the loop is about to do in a phase. -/
def IngestPhase.task : IngestPhase → IngestTask
  | sleeping _ => .reading
  | stalled => .stalled
  | endless => .feeding
  | ended how => .ended how

/-- What the loop is about to do once the decode stage has handled an access unit. -/
def StageResult.task : StageResult → IngestTask
  | done => .reading
  | failed e => .leaving (.fatal e)
  | endless => .feeding

namespace IngestRun

/-- The loop and its decode stage, between two actions. -/
structure Follows (r : IngestRun η) (i : Ingest) (stage : DecodeStage η) : Prop where
  stage_eq : r.decode.stage = stage
  items_eq : r.items = i.items
  units_eq : r.units = i.units
  faults_eq : r.faults = i.faults
  task_eq : r.task = i.phase.task

variable [SurfaceAllocator η] [VideoDecoder η]

/-- The mailbox learns of the end of the stream, and the decode stage is torn down. -/
theorem reaches_finish {r : IngestRun η} (h : r.Sound) {how : IngestEnd}
    (htask : r.task = .leaving how) :
    ∃ r', Goes r r' ∧
      r'.Follows (Ingest.finish r.units r.faults r.items how r.decode.stage).1
        (Ingest.finish r.units r.faults r.items how r.decode.stage).2 := by
  obtain ⟨decode, items, units, faults, task⟩ := r
  cases htask
  have hidle : decode.Idle := h.resting rfl
  let d : StageRun η :=
    { decode with stage := { decode.stage with mailbox := decode.stage.mailbox.finish } }
  obtain ⟨d', hreach, -, hd'⟩ := StageRun.perform_reaches 0 (r := d) hidle .teardown
  have hclosing : Goes ⟨d.start .teardown, items, units, faults, .closing how⟩
      ⟨d', items, units, faults, .closing how⟩ := reaches_decode hreach rfl
  have hend : (⟨d', items, units, faults, .closing how⟩ : IngestRun η).act (.proceed 0) =
      ⟨d', items, units, faults, .ended how⟩ := by
    have hidle' : d'.Idle := by
      rw [hd']
      exact ⟨rfl, rfl⟩
    exact if_pos hidle'
  refine ⟨⟨d', items, units, faults, .ended how⟩, ?_, ?_⟩
  · refine .quiet 0 rfl (hclosing.goes (.quiet 0 rfl ?_))
    rw [hend]
    exact .refl _
  · exact ⟨by rw [hd']; rfl, rfl, rfl, rfl, rfl⟩

/-- An access unit is read, and the decode stage handles it. -/
theorem reaches_unit {decode : StageRun η} (hidle : decode.Idle) (now : Instant) (u : AccessUnit)
    (rest : List SourceItem) (units faults : Nat) :
    let result := DecodeStage.feed
      { decode.stage with monitor := (decode.stage.monitor.onAccessUnit now u).2 } now u
    ∃ d, d.stage = result.2 ∧
      Reaches { shown := [(now, u)] } ⟨decode, .unit u :: rest, units, faults, .reading⟩
        ⟨d, rest, units + 1, 0, result.1.task⟩ := by
  intro result
  let d₀ : StageRun η :=
    { decode with
      stage := { decode.stage with monitor := (decode.stage.monitor.onAccessUnit now u).2 } }
  obtain ⟨d, hfeed, hstage, hout⟩ := StageRun.perform_reaches now (r := d₀) hidle (.feed u)
  let r : IngestRun η := ⟨decode, .unit u :: rest, units, faults, .reading⟩
  have hshown : Reaches { shown := [(now, u)] } r
      ⟨d₀.start (.feed u), rest, units + 1, 0, .feeding⟩ := ⟨[.proceed now], rfl, rfl⟩
  have hfed : Reaches { shown := [(now, u)] } r ⟨d, rest, units + 1, 0, .feeding⟩ :=
    hshown.goes (reaches_decode hfeed rfl)
  have hperform : StageOperation.perform now d₀.stage (.feed u) = result := rfl
  rw [hperform] at hstage hout
  refine ⟨d, hstage, hfed.goes ?_⟩
  cases hresult : result.1 with
  | endless => exact .refl _
  | done =>
    rw [hresult] at hout
    have hstep : (⟨d, rest, units + 1, 0, .feeding⟩ : IngestRun η).act (.proceed now) =
        ⟨d, rest, units + 1, 0, .reading⟩ := by
      simp only [act, proceed, fed, hout]
      exact if_pos ⟨rfl, rfl⟩
    exact .quiet now rfl (hstep ▸ .refl _)
  | failed e =>
    rw [hresult] at hout
    have hstep : (⟨d, rest, units + 1, 0, .feeding⟩ : IngestRun η).act (.proceed now) =
        ⟨d, rest, units + 1, 0, .leaving (.fatal e)⟩ := by
      simp only [act, proceed, fed, hout]
      exact if_pos ⟨rfl, rfl⟩
    exact .quiet now rfl (hstep ▸ .refl _)

/-- What the loop does at one instant is a sequence of steps, in which it shows the access units
that it reads. -/
theorem reaches_proceed {r : IngestRun η} (h : r.Sound) (htask : r.task = .reading)
    (now : Instant) :
    ∃ r' recent, Reaches { shown := Ingest.unitsAt now recent } r r' ∧
      r.items = recent ++ r'.items ∧
      r'.Follows (Ingest.proceed now r.units r.faults r.decode.stage r.items).1
        (Ingest.proceed now r.units r.faults r.decode.stage r.items).2 := by
  obtain ⟨decode, items, units, faults, task⟩ := r
  cases htask
  have hidle : decode.Idle := h.resting rfl
  induction items generalizing decode units faults with
  | nil =>
    obtain ⟨r', hreach, hr'⟩ := reaches_finish (h.act (.proceed now)) rfl
    exact ⟨r', [], .quiet now rfl hreach, hr'.items_eq.symm, hr'⟩
  | cons item rest ih =>
    have hread := h.act (.proceed now)
    cases item with
    | finish =>
      obtain ⟨r', hreach, hr'⟩ := reaches_finish hread rfl
      exact ⟨r', [.finish], .quiet now rfl hreach, congrArg (.finish :: ·) hr'.items_eq.symm, hr'⟩
    | stall => exact ⟨_, [.stall], .quiet now rfl (.refl _), rfl, rfl, rfl, rfl, rfl, rfl⟩
    | wait d =>
      rw [Ingest.proceed]
      by_cases hd : d = 0
      · obtain ⟨r', recent, hreach, hitems, hr'⟩ := ih decode units faults hread hidle
        rw [if_pos hd]
        exact ⟨r', .wait d :: recent, .quiet now rfl hreach, congrArg (.wait d :: ·) hitems, hr'⟩
      · rw [if_neg hd]
        exact ⟨_, [.wait d], .quiet now rfl (.refl _), rfl, rfl, rfl, rfl, rfl, rfl⟩
    | fault e =>
      rw [Ingest.proceed]
      by_cases he : (e.isRetryable && faults + 1 < Ingest.maxFaults) = true
      · have hstep : (⟨decode, .fault e :: rest, units, faults, .reading⟩ : IngestRun η).act
            (.proceed now) = ⟨decode, rest, units, faults + 1, .reading⟩ := if_pos he
        have hreach : Goes ⟨decode, .fault e :: rest, units, faults, .reading⟩
            ⟨decode, rest, units, faults + 1, .reading⟩ := .quiet now rfl (hstep ▸ .refl _)
        rw [if_pos he]
        exact ⟨_, [.fault e], hreach, rfl, rfl, rfl, rfl, rfl, rfl⟩
      · have hstep : (⟨decode, .fault e :: rest, units, faults, .reading⟩ : IngestRun η).act
            (.proceed now) = ⟨decode, rest, units, faults, .leaving (.sourceFailed e)⟩ := if_neg he
        obtain ⟨r', hreach, hr'⟩ := reaches_finish (hstep ▸ hread) rfl
        rw [if_neg he]
        exact ⟨r', [.fault e], .quiet now rfl (hstep ▸ hreach),
          congrArg (.fault e :: ·) hr'.items_eq.symm, hr'⟩
    | unit u =>
      obtain ⟨d, hstage, hunit⟩ := reaches_unit hidle now u rest units faults
      have hsound := hunit.sound h
      rw [Ingest.proceed]
      generalize DecodeStage.feed
        { decode.stage with monitor := (decode.stage.monitor.onAccessUnit now u).2 } now u = result
        at hstage hunit hsound ⊢
      obtain ⟨result, stage⟩ := result
      subst hstage
      cases result with
      | done =>
        obtain ⟨r', recent, hreach, hitems, hr'⟩ := ih d (units + 1) 0 hsound (hsound.resting rfl)
        exact ⟨r', .unit u :: recent, hunit.trans hreach, congrArg (.unit u :: ·) hitems, hr'⟩
      | failed e =>
        obtain ⟨r', hreach, hr'⟩ := reaches_finish hsound rfl
        exact ⟨r', [.unit u], hunit.goes hreach, congrArg (.unit u :: ·) hr'.items_eq.symm, hr'⟩
      | endless => exact ⟨_, [.unit u], hunit, rfl, rfl, rfl, rfl, rfl, rfl⟩

theorem reaches_cancel {r : IngestRun η} (h : r.Sound) {i : Ingest} {stage : DecodeStage η}
    (hr : r.Follows i stage) :
    ∃ r', Goes r r' ∧ r'.Follows (i.cancel stage).1 (i.cancel stage).2 := by
  obtain ⟨decode, items, units, faults, task⟩ := r
  obtain ⟨rfl, rfl, rfl, rfl, htask⟩ := hr
  have hcancel := h.act .cancel
  cases hphase : i.phase with
  | sleeping t =>
    rw [hphase] at htask
    cases htask
    obtain ⟨r', hreach, hr'⟩ := reaches_finish hcancel rfl
    simp only [Ingest.cancel, hphase]
    exact ⟨r', .cancel hreach, hr'⟩
  | stalled =>
    rw [hphase] at htask
    cases htask
    obtain ⟨r', hreach, hr'⟩ := reaches_finish hcancel rfl
    simp only [Ingest.cancel, hphase]
    exact ⟨r', .cancel hreach, hr'⟩
  | endless =>
    simp only [Ingest.cancel, hphase]
    exact ⟨_, .refl _, rfl, rfl, rfl, rfl, htask⟩
  | ended how =>
    simp only [Ingest.cancel, hphase]
    exact ⟨_, .refl _, rfl, rfl, rfl, rfl, htask⟩

end IngestRun

/-! ## Sessions -/

namespace Session

variable [SurfaceAllocator η] [VideoDecoder η] [RepairTransport τ]

/-- What is done with the monitor between two states of a session: the owner makes the given
changes, the network is asked to send what the repeat sequences attempt, and every access unit is
shown when it is due. -/
structure Traced (changes : List (LinkMonitor → LinkMonitor)) (trace : MonitorTrace)
    (s s' : Session η τ) : Prop where
  changes_eq : trace.changes = changes
  transport_eq : s'.transport = RepairTransport.sendAll s.transport trace.sent
  timely {items read : List SourceItem} : s.ingest.Timely items read →
    ∃ read', s'.ingest.Timely items read' ∧
      Ingest.arrivals read' = Ingest.arrivals read ++ trace.shown

omit [SurfaceAllocator η] [VideoDecoder η] in
theorem Traced.of_eq {s s' : Session η τ} (trace : MonitorTrace) (hshown : trace.shown = [])
    (hingest : s'.ingest = s.ingest)
    (htransport : s'.transport = RepairTransport.sendAll s.transport trace.sent) :
    Traced trace.changes trace s s' where
  changes_eq := rfl
  transport_eq := htransport
  timely h := by
    rw [hingest, hshown]
    exact ⟨_, h, (List.append_nil _).symm⟩

omit [SurfaceAllocator η] [VideoDecoder η] in
theorem Traced.trans {changes changes' : List (LinkMonitor → LinkMonitor)}
    {trace trace' : MonitorTrace} {s₁ s₂ s₃ : Session η τ} (h₁ : Traced changes trace s₁ s₂)
    (h₂ : Traced changes' trace' s₂ s₃) :
    Traced (changes ++ changes') (trace ++ trace') s₁ s₃ where
  changes_eq := by
    rw [← h₁.changes_eq, ← h₂.changes_eq]
    rfl
  transport_eq := by
    rw [h₂.transport_eq, h₁.transport_eq]
    exact (RepairTransport.sendAll_append _ _ _).symm
  timely h := by
    obtain ⟨read, hread, hshown⟩ := h₁.timely h
    obtain ⟨read', hread', hshown'⟩ := h₂.timely hread
    rw [hshown, List.append_assoc] at hshown'
    exact ⟨read', hread', hshown'⟩

omit [SurfaceAllocator η] [VideoDecoder η] in
/-- Only the loop and the network matter. -/
theorem Traced.of_same {changes : List (LinkMonitor → LinkMonitor)} {trace : MonitorTrace}
    {s₁ s₂ s₁' s₂' : Session η τ} (h : Traced changes trace s₁ s₂)
    (hingest₁ : s₁'.ingest = s₁.ingest) (htransport₁ : s₁'.transport = s₁.transport)
    (hingest₂ : s₂'.ingest = s₂.ingest) (htransport₂ : s₂'.transport = s₂.transport) :
    Traced changes trace s₁' s₂' where
  changes_eq := h.changes_eq
  transport_eq := by rw [htransport₁, htransport₂, h.transport_eq]
  timely hread := by
    rw [hingest₁] at hread
    rw [hingest₂]
    exact h.timely hread

/-- What the ingest loop and its decode stage do between two states of a session is a sequence of
steps, and this is what is done with the monitor. -/
def Leads (changes : List (LinkMonitor → LinkMonitor)) (s s' : Session η τ) : Prop :=
  ∀ r : IngestRun η, r.Sound → r.Follows s.ingest s.stage →
    ∃ r' trace, r.Reaches trace r' ∧ r'.Follows s'.ingest s'.stage ∧ s.Traced changes trace s'

namespace Leads

variable {changes changes' : List (LinkMonitor → LinkMonitor)} {s s₁ s₂ s₃ : Session η τ}

theorem trans (h₁ : Leads changes s₁ s₂) (h₂ : Leads changes' s₂ s₃) :
    Leads (changes ++ changes') s₁ s₃ := by
  intro r hsound hr
  obtain ⟨r', trace, hreach, hr', htrace⟩ := h₁ r hsound hr
  obtain ⟨r'', trace', hreach', hr'', htrace'⟩ := h₂ r' (hreach.sound hsound) hr'
  exact ⟨r'', _, hreach.trans hreach', hr'', htrace.trans htrace'⟩

/-- Nothing has happened to the loop and the decode stage. -/
theorem of_eq (hingest : s₂.ingest = s₁.ingest) (hstage : s₂.stage = s₁.stage)
    (htransport : s₂.transport = s₁.transport) : Leads [] s₁ s₂ := by
  intro r _ hr
  refine ⟨r, {}, .refl r, ?_, .of_eq {} rfl hingest htransport⟩
  rw [hingest, hstage]
  exact hr

theorem refl (s : Session η τ) : Leads [] s s := .of_eq rfl rfl rfl

/-- Others have used the monitor, and nothing else has happened. -/
theorem of_use (use : MonitorUse) (hingest : s₂.ingest = s₁.ingest)
    (hstage : s₂.stage = { s₁.stage with monitor := use.apply s₁.stage.monitor })
    (htransport : s₂.transport =
      RepairTransport.sendAll s₁.transport (use.trace s₁.stage.monitor).sent) :
    Leads (use.trace s₁.stage.monitor).changes s₁ s₂ := by
  intro r _ hr
  have hwatch := IngestRun.Reaches.watch r use
  rw [hr.stage_eq] at hwatch
  have hshown : (use.trace s₁.stage.monitor).shown = [] := by cases use <;> rfl
  refine ⟨r.watch use, _, hwatch, ?_, .of_eq _ hshown hingest htransport⟩
  rw [hingest, hstage, ← hr.stage_eq]
  exact ⟨rfl, hr.items_eq, hr.units_eq, hr.faults_eq, hr.task_eq⟩

end Leads

theorem leads_observeLink (s : Session η τ) : Leads [] s s.observeLink := by
  unfold observeLink
  dsimp only
  split
  · exact .refl s
  · exact .of_eq rfl rfl rfl

theorem leads_noticeCancel (s : Session η τ) : Leads [] s s.noticeCancel := by
  unfold noticeCancel
  split
  · intro r hsound hr
    obtain ⟨r', hreach, hr'⟩ := IngestRun.reaches_cancel hsound hr
    refine ⟨r', {}, hreach, hr', rfl, rfl, fun {items read} h => ⟨read, ?_, ?_⟩⟩
    · exact h.cancel s.stage
    · exact (List.append_nil _).symm
  · exact .refl s

omit [SurfaceAllocator η] [VideoDecoder η] in
/-- The repeat sequences run, and the network is asked to send what they attempt. -/
theorem runSequences_eq (limit : Instant) (s : Session η τ) :
    let use := MonitorUse.sequences (some limit) s.now
    s.runSequences limit =
      { s with
        stage := { s.stage with monitor := use.apply s.stage.monitor }
        transport := RepairTransport.sendAll s.transport ((use.trace s.stage.monitor).sent) } := by
  dsimp only [runSequences]
  rw [Requester.runLimitedOn_eq]
  rfl

theorem leads_runSequences (limit : Instant) (s : Session η τ) :
    Leads [] s (s.runSequences limit) := by
  rw [runSequences_eq]
  exact .of_use (.sequences (some limit) s.now) rfl rfl rfl

theorem leads_goOn {s : Session η τ} (h : s.ingest.phase = .sleeping s.now) :
    Leads [] s s.goOn := by
  intro r hsound hr
  have htask : r.task = .reading := by
    rw [hr.task_eq, h]
    rfl
  obtain ⟨r', recent, hreach, hitems, hr'⟩ := IngestRun.reaches_proceed hsound htask s.now
  rw [hr.units_eq, hr.faults_eq, hr.stage_eq, hr.items_eq] at hr'
  have hfollows : r'.Follows s.goOn.ingest s.goOn.stage := by
    unfold goOn afterIngest
    dsimp only
    split <;> exact hr'
  have htransport : s.goOn.transport = s.transport := by
    unfold goOn afterIngest
    dsimp only
    split <;> rfl
  refine ⟨r', _, hreach, hfollows, rfl, htransport, fun {items read} hread => ?_⟩
  obtain ⟨recent', hreadAt⟩ := hread.resume h s.stage
  have hsame : recent' = recent := by
    have hleft := hreadAt.left_eq
    rw [← hr.items_eq, hitems, hfollows.items_eq, s.ingest_goOn] at hleft
    exact (List.append_cancel_right hleft).symm
  rw [hsame] at hreadAt
  rw [s.ingest_goOn]
  exact ⟨_, hreadAt.timely hread rfl, hreadAt.reads.arrivals_eq⟩

theorem leads_perform {target time : Instant} {s : Session η τ} {e : Event}
    (h : s.nextEvent target = some (time, e)) : Leads [] s (s.perform time e) := by
  have hclock : Leads [] s { s.runSequences time with now := time } :=
    (s.leads_runSequences time).trans (.of_eq rfl rfl rfl)
  cases e with
  | check =>
    have hcheck : Leads [] { s.runSequences time with now := time }
        { s.runSequences time with now := time }.check := .of_use (.check time) rfl rfl rfl
    exact (hclock.trans hcheck).trans (leads_observeLink _)
  | ingest =>
    obtain ⟨hdue, -⟩ := due?_of_nextEvent h
    have hgoOn : Leads [] { s.runSequences time with now := time }
        { s.runSequences time with now := time }.goOn := leads_goOn (Ingest.due?_eq_some_iff.1 hdue)
    exact (hclock.trans hgoOn).trans (leads_observeLink _)

theorem leads_performUntil (target : Instant) (s : Session η τ) :
    Leads [] s (s.performUntil target) := by
  fun_induction performUntil target s with
  | case1 s time e h ih => exact (leads_perform h).trans ih
  | case2 s h => exact .refl s

/-- Letting time pass is taking steps. -/
theorem leads_advanceTo (target : Instant) (s : Session η τ) :
    Leads [] s (s.advanceTo target) := by
  have hperform : Leads [] s (s.observeLink.noticeCancel.performUntil target) :=
    ((leads_observeLink s).trans (leads_noticeCancel _)).trans (leads_performUntil target _)
  have hsequences := hperform.trans (leads_runSequences (target + 1) _)
  exact hsequences.trans (.of_eq rfl rfl rfl)

theorem leads_joinIngest (s : Session η τ) : Leads [] s s.joinIngest := by
  have hgo : ∀ (n : Nat) (s : Session η τ), Leads [] s (joinIngest.go n s) := by
    intro n
    induction n with
    | zero => exact fun s => .refl s
    | succ n ih =>
      intro s
      unfold joinIngest.go
      split
      · next t _ => exact (leads_advanceTo _ s).trans (ih _)
      · exact .refl s
  exact ((leads_observeLink s).trans (leads_noticeCancel _)).trans (hgo _ _)

omit [SurfaceAllocator η] [VideoDecoder η] in
/-- The repeat sequences run out, and the network is asked to send what they attempt. -/
theorem shutdown_eq (s : Session η τ) :
    let s' := s.observeLink
    let use := MonitorUse.sequences none s'.now
    s.shutdown =
      { s' with
        now := (s'.stage.monitor.requester.runLimited tokens none s'.now).2.1
        stage := { s'.stage with monitor := use.apply s'.stage.monitor }
        transport := RepairTransport.sendAll s'.transport ((use.trace s'.stage.monitor).sent) } := by
  dsimp only [shutdown]
  rw [Requester.runLimitedOn_eq]
  rfl

theorem leads_shutdown (s : Session η τ) : Leads [] s s.shutdown := by
  rw [shutdown_eq]
  exact (leads_observeLink s).trans (.of_use (.sequences none s.observeLink.now) rfl rfl rfl)

end Session

end VideoReceiver
