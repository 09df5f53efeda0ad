import VideoReceiver.Decode
import VideoReceiver.Proofs.Pool.Calls
import Mathlib.Logic.Function.Iterate

/-!
# The decode stage step by step

While the decode stage works, other parties use its mailbox and its monitor. Here its operations
are taken apart into steps of at most one hardware or mailbox call, between which anything may
happen. Steps that nobody disturbs amount to the operations themselves.

## Main definitions

- `Change`: how far a change of generation has come
- `StageTask`: what an operation has to do otherwise
- `StageRun`: a decode stage in the middle of an operation
- `StageAction`, `StageRun.act`: a step of the stage, or what another party does

## Main statements

- `StageRun.perform_reaches`: undisturbed steps end as the operation does
-/

namespace VideoReceiver

/-! ## Changes of generation -/

/-- What follows once the buffers have been given back. -/
inductive ReturnGoal where
  /-- A generation of the format is built. -/
  | acquire (format : PictureFormat)
  /-- The accepted access units are forgotten. -/
  | forget
  /-- The operation fails. -/
  | fail (e : ReceiverError)
  deriving DecidableEq, Repr

/-- What a change of generation does next. -/
inductive Change where
  /-- Drops the pending frame. -/
  | discarding (goal : ReturnGoal)
  /-- Takes the buffers out of the pool. -/
  | dismantling (goal : ReturnGoal)
  /-- Unbinds the surface of the first of the buffers that are to be given back. -/
  | unbinding (slots : List BufferSlot) (goal : ReturnGoal)
  /-- Releases memory that no surface shows any more. -/
  | releasing (handle : AllocationHandle) (slots : List BufferSlot) (goal : ReturnGoal)
  /-- Allocates the next of the missing buffers. -/
  | allocating (format : PictureFormat) (missing : Nat) (built : List BufferSlot)
  /-- Binds the memory of the next buffer. -/
  | binding (format : PictureFormat) (missing : Nat) (built : List BufferSlot) (a : Allocation)
  /-- Tells the decoder about the buffers and puts them into the pool. -/
  | registering (format : PictureFormat) (built : List BufferSlot)
  deriving DecidableEq, Repr

/-- An allocation has returned an identity that a buffer of the generation has already. -/
def FramePool.duplicateIdentity (built : List BufferSlot) (a : Allocation) (owner : BufferSlot) :
    ReceiverError :=
  .poolAllocation built.length
    ("hardware identity " ++ a.identity.text ++ " already belongs to slot "
      ++ Nat.repr owner.index) none

/-- What follows once all buffers have been given back. -/
def ReturnGoal.step {η : Type} (s : DecodeStage η) :
    ReturnGoal → Except ReceiverError (Option Change) × DecodeStage η
  | acquire format => (.ok (some (.allocating format s.pool.capacity [])), s)
  | forget => (.ok none, { s with inFlight := [] })
  | fail e => (.error e, s)

/-- One step of a change of generation, and what remains of the change. -/
def Change.step {η : Type} [SurfaceAllocator η] [VideoDecoder η] (s : DecodeStage η) :
    Change → Except ReceiverError (Option Change) × DecodeStage η
  | discarding goal => (.ok (some (dismantling goal)), { s with mailbox := s.mailbox.discard.2 })
  | dismantling goal =>
    (.ok (some (unbinding s.pool.slots goal)),
      { s with pool := { s.pool with slots := [], format := none } })
  | unbinding [] goal => goal.step s
  | unbinding (b :: slots) goal =>
    (.ok (some (releasing b.handle slots goal)),
      { s with hardware := SurfaceAllocator.unbindSurface s.hardware b.surface })
  | releasing handle slots goal =>
    (.ok (some (unbinding slots goal)),
      { s with hardware := SurfaceAllocator.release s.hardware handle })
  | allocating format 0 built => (.ok (some (registering format built)), s)
  | allocating format (missing + 1) built =>
    match SurfaceAllocator.allocate s.hardware format.bufferSize with
    | (.error e, hardware) => (.ok (some (unbinding built (.fail e))), { s with hardware })
    | (.ok a, hardware) =>
      match built.find? (·.identity == a.identity) with
      | some owner =>
        (.ok (some (releasing a.handle built (.fail (FramePool.duplicateIdentity built a owner)))),
          { s with hardware })
      | none => (.ok (some (binding format missing built a)), { s with hardware })
  | binding format missing built a =>
    match SurfaceAllocator.bindSurface s.hardware a format with
    | (.error e, hardware) => (.ok (some (releasing a.handle built (.fail e))), { s with hardware })
    | (.ok surface, hardware) =>
      (.ok (some (allocating format missing
          (built ++ [⟨built.length, a.identity, surface, a.handle⟩]))),
        { s with hardware })
  | registering format built =>
    match VideoDecoder.registerBuffers s.hardware (built.map (FramePool.externalBuffer format)) with
    | (.error e, hardware) => (.ok (some (unbinding built (.fail e))), { s with hardware })
    | (.ok (), hardware) =>
      (.ok none,
        { s with
          hardware
          pool :=
            { s.pool with
              slots := built, format := some format, generation := s.pool.generation + 1 }
          stats := { s.stats with rebuilds := s.stats.rebuilds + 1 } })

/-- The stage without a pending frame and without buffers. -/
def DecodeStage.vacated {η : Type} [SurfaceAllocator η] (s : DecodeStage η) : DecodeStage η :=
  { s with
    mailbox := s.mailbox.discard.2
    pool := { s.pool with slots := [], format := none }
    hardware := FramePool.releaseSlots s.hardware s.pool.slots }

/-! ## Operations -/

/-- Something that an operation has to do. -/
inductive StageTask where
  /-- Offers an access unit up to `attempts` times. -/
  | offer (u : AccessUnit) (attempts : Nat)
  /-- Looks for an awaited keyframe. -/
  | observe (u : AccessUnit)
  /-- Handles the events of the decoder. -/
  | poll
  /-- Posts a picture. -/
  | present (identity : HardwareIdentity) (pts : UInt64)
  deriving DecidableEq, Repr

/-- One step of a task: a change of generation that it starts, and the tasks that take its place. -/
def StageTask.step {η : Type} [VideoDecoder η] (now : Instant) (s : DecodeStage η) :
    StageTask → Option Change × List StageTask × DecodeStage η
  | offer _ 0 =>
    (none, [], { s with stats := { s.stats with droppedUnits := s.stats.droppedUnits + 1 } })
  | offer u (attempts + 1) =>
    match VideoDecoder.submit s.hardware u.data u.pts with
    | (.ok .accepted, hardware) => (none, [], { s with hardware }.accept now u.pts)
    | (.error _, hardware) => (none, [], { s with hardware }.onDecoderError now)
    | (.ok .busy, hardware) =>
      (none, [poll, offer u attempts],
        { s with
          hardware
          stats := { s.stats with busyRetries := s.stats.busyRetries + 1 } })
  | observe u => (none, [], s.observe u)
  | poll =>
    match VideoDecoder.pollEvent s.hardware with
    | (.error _, hardware) => (none, [], { s with hardware }.onDecoderError now)
    | (.ok none, hardware) => (none, [], { s with hardware })
    | (.ok (some (.picture identity pts)), hardware) =>
      (none, [present identity pts, poll], { s with hardware })
    | (.ok (some (.formatChanged format)), hardware) =>
      (some (.discarding (.acquire format)), [poll], { s with hardware })
  | present identity pts => (none, [], s.present now identity pts)

/-- An operation of the decode stage. -/
inductive StageOperation where
  | feed (u : AccessUnit)
  | drain
  | teardown
  deriving DecidableEq, Repr

namespace StageOperation

/-- Performs an operation undisturbed. -/
def perform {η : Type} [SurfaceAllocator η] [VideoDecoder η] (now : Instant) (s : DecodeStage η) :
    StageOperation → StageResult × DecodeStage η
  | feed u => s.feed now u
  | drain => s.drain now
  | teardown => (.done, s.teardown)

/-- The change of generation that an operation starts with. -/
def change : StageOperation → Option Change
  | teardown => some (.discarding .forget)
  | _ => none

/-- The tasks of an operation. -/
def tasks : StageOperation → List StageTask
  | feed u => [.offer u (DecodeStage.maxBusyRetries + 1), .observe u, .poll]
  | drain => [.poll]
  | teardown => []

end StageOperation

/-- A decode stage in the middle of an operation. -/
structure StageRun (η : Type) where
  stage : DecodeStage η
  /-- What remains of a change of generation. -/
  change : Option Change := none
  /-- What is done after that. -/
  tasks : List StageTask := []
  /-- The latest operation. -/
  operation : Option StageOperation := none
  /-- The error that the latest operation returned. -/
  failure : Option ReceiverError := none

namespace StageRun

variable {η : Type}

/-- The latest operation has returned. -/
def Idle (r : StageRun η) : Prop := r.change = none ∧ r.tasks = []

instance (r : StageRun η) : Decidable r.Idle := inferInstanceAs (Decidable (_ ∧ _))

/-- Starts an operation, once the one before has returned. -/
def start (r : StageRun η) (op : StageOperation) : StageRun η :=
  if r.Idle then ⟨r.stage, op.change, op.tasks, some op, none⟩ else r

/-- What becomes of an operation after a step of a change of generation: an error ends it. -/
def afterChange (r : StageRun η) :
    Except ReceiverError (Option Change) × DecodeStage η → StageRun η
  | (.ok change, stage) => { r with stage, change }
  | (.error e, stage) => ⟨stage, none, [], r.operation, some e⟩

variable [SurfaceAllocator η] [VideoDecoder η]

/-- The next step of the operation. -/
def proceed (now : Instant) (r : StageRun η) : StageRun η :=
  match r.change, r.tasks with
  | some c, _ => r.afterChange (c.step r.stage)
  | none, task :: rest =>
    { r with
      stage := (task.step now r.stage).2.2
      change := (task.step now r.stage).1
      tasks := (task.step now r.stage).2.1 ++ rest }
  | none, [] => r

end StageRun

/-- A step of the decode stage, or what another party does to what it shares. -/
inductive StageAction where
  | start (op : StageOperation)
  | proceed (now : Instant)
  /-- A consumer takes from the mailbox what there is. -/
  | take
  /-- The end of the stream is signalled. -/
  | finish
  /-- Others have used the monitor and left it so. -/
  | watch (monitor : LinkMonitor)

namespace StageRun

variable {η : Type} [SurfaceAllocator η] [VideoDecoder η]

/-- Performs an action. -/
def act (r : StageRun η) : StageAction → StageRun η
  | .start op => r.start op
  | .proceed now => r.proceed now
  | .take => { r with stage := { r.stage with mailbox := r.stage.mailbox.take?.2 } }
  | .finish => { r with stage := { r.stage with mailbox := r.stage.mailbox.finish } }
  | .watch monitor => { r with stage := { r.stage with monitor } }

/-- Performs actions one after the other. -/
def actAll (r : StageRun η) (actions : List StageAction) : StageRun η := actions.foldl act r

/-! ## Undisturbed steps -/

/-- Undisturbed steps lead from one state to another. -/
def Reaches (now : Instant) (r r' : StageRun η) : Prop := ∃ n, (proceed now)^[n] r = r'

variable {now : Instant} {s : DecodeStage η} {tasks : List StageTask}
  {op : Option StageOperation} {failure : Option ReceiverError}

namespace Reaches

theorem refl (r : StageRun η) : Reaches now r r := ⟨0, rfl⟩

theorem head {r r' : StageRun η} (h : Reaches now (r.proceed now) r') : Reaches now r r' := by
  obtain ⟨n, hn⟩ := h
  exact ⟨n + 1, hn⟩

theorem trans {r₁ r₂ r₃ : StageRun η} (h₁ : Reaches now r₁ r₂) (h₂ : Reaches now r₂ r₃) :
    Reaches now r₁ r₃ := by
  obtain ⟨n, rfl⟩ := h₁
  obtain ⟨m, rfl⟩ := h₂
  exact ⟨m + n, Function.iterate_add_apply _ m n _⟩

end Reaches

theorem reaches_unbinding (slots : List BufferSlot) (goal : ReturnGoal) :
    Reaches now ⟨s, some (.unbinding slots goal), tasks, op, failure⟩
      ⟨{ s with hardware := FramePool.releaseSlots s.hardware slots },
        some (.unbinding [] goal), tasks, op, failure⟩ := by
  induction slots generalizing s with
  | nil => exact .refl _
  | cons b slots ih => exact .head (.head ih)

/-- The generation has been built, or what was built of it is going to be given back. -/
theorem reaches_allocating (format : PictureFormat) (missing : Nat) (built : List BufferSlot) :
    Reaches now ⟨s, some (.allocating format missing built), tasks, op, failure⟩
      ⟨{ s with hardware := (FramePool.buildSlots format missing built s.hardware).2.2 },
        some (match FramePool.buildSlots format missing built s.hardware with
          | (.ok (), built, _) => .registering format built
          | (.error e, built, _) => .unbinding built (.fail e)), tasks, op, failure⟩ := by
  induction missing generalizing s built with
  | zero => exact .head (.refl _)
  | succ missing ih =>
    rcases ha : SurfaceAllocator.allocate s.hardware format.bufferSize with ⟨e | a, hardware⟩
    · refine .head ?_
      simp [proceed, afterChange, Change.step, FramePool.buildSlots, ha, Reaches.refl]
    · rcases hf : built.find? (·.identity == a.identity) with _ | owner
      · rcases hb : SurfaceAllocator.bindSurface hardware a format with ⟨e | surface, hardware'⟩
        · refine .head (.head (.head ?_))
          simp [proceed, afterChange, Change.step, FramePool.buildSlots, ha, hf, hb, Reaches.refl]
        · refine .head (.head ?_)
          simpa [proceed, afterChange, Change.step, FramePool.buildSlots, ha, hf, hb] using
            ih (s := { s with hardware := hardware' }) _
      · refine .head (.head ?_)
        simp [proceed, afterChange, Change.step, FramePool.buildSlots, FramePool.duplicateIdentity,
          ha, hf, Reaches.refl]

/-- What was built is given back before the operation fails. -/
theorem reaches_failure (slots : List BufferSlot) (e : ReceiverError) :
    Reaches now ⟨s, some (.unbinding slots (.fail e)), tasks, op, failure⟩
      ⟨{ s with hardware := FramePool.releaseSlots s.hardware slots }, none, [], op, some e⟩ :=
  (reaches_unbinding slots (.fail e)).trans (.head (.refl _))

/-- The pending frame is dropped, and the pool is empty before anything else happens. -/
theorem reaches_vacated (goal : ReturnGoal) :
    Reaches now ⟨s, some (.discarding goal), tasks, op, failure⟩
      ⟨s.vacated, some (.unbinding [] goal), tasks, op, failure⟩ :=
  .head (.head (reaches_unbinding s.pool.slots goal))

/-- A change of format is done, or has failed for good. -/
theorem reaches_changeFormat (format : PictureFormat) :
    Reaches now ⟨s, some (.discarding (.acquire format)), tasks, op, failure⟩
      (match s.changeFormat format with
        | (.ok (), s) => ⟨s, none, tasks, op, failure⟩
        | (.error e, s) => ⟨s, none, [], op, some e⟩) := by
  have hbuild : Reaches now
      ⟨s.vacated, some (.unbinding [] (.acquire format)), tasks, op, failure⟩ _ :=
    .head (reaches_allocating format s.pool.capacity [])
  refine (reaches_vacated (.acquire format)).trans (hbuild.trans ?_)
  rcases hb : FramePool.buildSlots format s.pool.capacity [] s.vacated.hardware with
    ⟨e | _, built, hardware⟩
  · simp only [DecodeStage.changeFormat, FramePool.rebuild_of_unbuilt hb]
    exact reaches_failure built e
  · rcases hr : VideoDecoder.registerBuffers hardware (built.map (FramePool.externalBuffer format))
      with ⟨e | _, hardware'⟩
    · simp only [DecodeStage.changeFormat, FramePool.rebuild_of_unregistered hb hr]
      refine .head ?_
      simp only [proceed, Change.step, hr]
      exact reaches_failure built e
    · simp only [DecodeStage.changeFormat, FramePool.rebuild_of_registered hb hr]
      refine .head ?_
      simp only [proceed, Change.step, hr]
      exact .refl _

/-- What is left when an operation has come to the given result: nothing if it has failed, the
tasks that follow if it is done, and any tasks at all if it has no end. -/
def Outcome (op : Option StageOperation) (failure : Option ReceiverError) (tasks : List StageTask)
    (result : StageResult × DecodeStage η) (r : StageRun η) : Prop :=
  r.stage = result.2 ∧
    match result.1 with
    | .done => r = ⟨result.2, none, tasks, op, failure⟩
    | .failed e => r = ⟨result.2, none, [], op, some e⟩
    | .endless => True

/-- What follows on an operation starts when that is done. -/
theorem reaches_then {r₀ : StageRun η} {mid : List StageTask} {result : StageResult × DecodeStage η}
    {next : DecodeStage η → StageResult × DecodeStage η}
    (h : ∃ r, Reaches now r₀ r ∧ Outcome op failure mid result r)
    (hnext : ∀ s, ∃ r, Reaches now ⟨s, none, mid, op, failure⟩ r ∧
      Outcome op failure tasks (next s) r) :
    ∃ r, Reaches now r₀ r ∧
      Outcome op failure tasks
        (match result with
          | (.done, s) => next s
          | stopped => stopped) r := by
  obtain ⟨r, hreach, hstage, hout⟩ := h
  rcases result with ⟨_ | e | _, s⟩
  · obtain ⟨r', hreach', hout'⟩ := hnext s
    exact ⟨r', hreach.trans (hout ▸ hreach'), hout'⟩
  · exact ⟨r, hreach, hstage, hout⟩
  · exact ⟨r, hreach, hstage, hout⟩

theorem drainWithin_reaches (polls : Nat) :
    ∃ r, Reaches now ⟨s, none, .poll :: tasks, op, failure⟩ r ∧
      Outcome op failure tasks (s.drainWithin now polls) r := by
  induction polls generalizing s with
  | zero => exact ⟨_, .refl _, rfl, trivial⟩
  | succ polls ih =>
    rcases hp : VideoDecoder.pollEvent s.hardware with ⟨e | event, hardware⟩
    · refine ⟨_, .head (.refl _), ?_⟩
      simp [Outcome, DecodeStage.drainWithin, proceed, StageTask.step, hp]
    · rcases event with _ | event
      · refine ⟨_, .head (.refl _), ?_⟩
        simp [Outcome, DecodeStage.drainWithin, proceed, StageTask.step, hp]
      · cases event with
        | picture identity pts =>
          obtain ⟨r, hreach, hout⟩ := ih (s := { s with hardware }.present now identity pts)
          refine ⟨r, .head (.head ?_), ?_⟩
          · simpa [proceed, StageTask.step, hp] using hreach
          · simpa [DecodeStage.drainWithin, hp] using hout
        | formatChanged format =>
          have hchange : Reaches now ⟨{ s with hardware }, some (.discarding (.acquire format)),
            .poll :: tasks, op, failure⟩ _ := reaches_changeFormat format
          rcases hc : { s with hardware }.changeFormat format with ⟨e | _, s'⟩
          · rw [hc] at hchange
            refine ⟨_, .head (.trans ?_ hchange), ?_⟩
            · simp [proceed, StageTask.step, hp, Reaches.refl]
            · simp [Outcome, DecodeStage.drainWithin, hp, hc]
          · rw [hc] at hchange
            obtain ⟨r, hreach, hout⟩ := ih (s := s')
            refine ⟨r, .head (.trans ?_ (hchange.trans hreach)), ?_⟩
            · simp [proceed, StageTask.step, hp, Reaches.refl]
            · simpa [DecodeStage.drainWithin, hp, hc] using hout

theorem submitWithin_reaches (u : AccessUnit) (attempts : Nat) :
    ∃ r, Reaches now ⟨s, none, .offer u attempts :: tasks, op, failure⟩ r ∧
      Outcome op failure tasks (s.submitWithin now u attempts) r := by
  induction attempts generalizing s with
  | zero => exact ⟨_, .head (.refl _), rfl, rfl⟩
  | succ attempts ih =>
    rcases hs : VideoDecoder.submit s.hardware u.data u.pts with ⟨e | answer, hardware⟩
    · refine ⟨_, .head (.refl _), ?_⟩
      simp [Outcome, DecodeStage.submitWithin, proceed, StageTask.step, hs]
    · cases answer with
      | accepted =>
        refine ⟨_, .head (.refl _), ?_⟩
        simp [Outcome, DecodeStage.submitWithin, proceed, StageTask.step, hs]
      | busy =>
        -- the events are handled before the access unit is offered again
        let busy : DecodeStage η :=
          { s with hardware, stats := { s.stats with busyRetries := s.stats.busyRetries + 1 } }
        have hbusy : Reaches now ⟨s, none, .offer u (attempts + 1) :: tasks, op, failure⟩
            ⟨busy, none, .poll :: .offer u attempts :: tasks, op, failure⟩ := by
          refine .head ?_
          simp [proceed, StageTask.step, hs, busy, Reaches.refl]
        obtain ⟨r, hreach, hout⟩ :=
          reaches_then (drainWithin_reaches (VideoDecoder.backlog busy.hardware + 1))
            fun s => ih (s := s)
        refine ⟨r, hbusy.trans hreach, ?_⟩
        simp only [DecodeStage.submitWithin, hs]
        exact hout

/-- Undisturbed steps end as the operation does. -/
theorem perform_reaches (now : Instant) {r : StageRun η} (hr : r.Idle) (op : StageOperation) :
    ∃ r', Reaches now (r.start op) r' ∧ Outcome (some op) none [] (op.perform now r.stage) r' := by
  rw [start, if_pos hr]
  cases op with
  | feed u =>
    refine reaches_then (submitWithin_reaches u _) fun s => ?_
    have hdrain : ∃ r', Reaches now ⟨s.observe u, none, [.poll], some (.feed u), none⟩ r' ∧
        Outcome (some (.feed u)) none [] ((s.observe u).drain now) r' := drainWithin_reaches _
    obtain ⟨r', hreach, hout⟩ := hdrain
    exact ⟨r', .head hreach, hout⟩
  | drain => exact drainWithin_reaches _
  | teardown =>
    exact ⟨_, (reaches_vacated .forget).trans (.head (.refl _)), rfl, rfl⟩

end StageRun

end VideoReceiver
