import VideoReceiver.Proofs.Decode.Refusals

/-!
# The decoder's side of the decode stage

The calls that a decoder gets are recorded with its answers. A step of the decode stage makes at
most one of them, and what it does to the counters, to the mailbox and to the remembered access
units depends on nothing else.

## Main definitions

- `DecoderCall`, `Overheard`: a call with its answer, and a board with the calls of its decoder
- `StageAccount`: what a decode stage counts and remembers
- `ChangeEffect`, `TaskEffect`, `Progress`: what a step does, with the call that it makes
- `StageRun.Turn`: what an action does

## Main statements

- `StageRun.act_turn`: every action does one of these things
- `StageRun.actAll_map`: boards that answer alike are run alike
- `StageRun.performed_actAll`: an operation that is performed in one go is a run of steps
-/

namespace VideoReceiver

variable {η θ : Type}

/-- A call of the decoder, with its answer. -/
inductive DecoderCall where
  | submit (data : Bytes) (pts : UInt64) (answer : Except ReceiverError SubmitOutcome)
  | poll (answer : Except ReceiverError (Option DecoderEvent))
  | register (buffers : List ExternalBuffer) (answer : Except ReceiverError Unit)

/-- A board with the calls of its decoder. -/
structure Overheard (η : Type) where
  board : η
  /-- The calls of the decoder, in order. -/
  calls : List DecoderCall := []

namespace Overheard

/-- The board after a call that it has answered. -/
def heard {α : Type} (calls : List DecoderCall) (call : α → DecoderCall) (x : α × η) :
    α × Overheard η := (x.1, ⟨x.2, calls ++ [call x.1]⟩)

instance [SurfaceAllocator η] : SurfaceAllocator (Overheard η) where
  allocate r size := Prod.map id (mk · r.calls) (SurfaceAllocator.allocate r.board size)
  bindSurface r a format :=
    Prod.map id (mk · r.calls) (SurfaceAllocator.bindSurface r.board a format)
  unbindSurface r surface := { r with board := SurfaceAllocator.unbindSurface r.board surface }
  release r handle := { r with board := SurfaceAllocator.release r.board handle }

instance [VideoDecoder η] : VideoDecoder (Overheard η) where
  submit r data pts := heard r.calls (.submit data pts) (VideoDecoder.submit r.board data pts)
  pollEvent r := heard r.calls .poll (VideoDecoder.pollEvent r.board)
  registerBuffers r buffers :=
    heard r.calls (.register buffers) (VideoDecoder.registerBuffers r.board buffers)
  backlog r := VideoDecoder.backlog r.board

/-- The recorder answers as the board does. -/
theorem answersAlike [SurfaceAllocator η] [VideoDecoder η] : AnswersAlike (board (η := η)) where
  allocate_eq _ _ := rfl
  bindSurface_eq _ _ _ := rfl
  unbindSurface_eq _ _ := rfl
  release_eq _ _ := rfl
  submit_eq _ _ _ := rfl
  pollEvent_eq _ := rfl
  registerBuffers_eq _ _ := rfl
  backlog_eq _ := rfl

variable {r r' : Overheard η}

theorem calls_submit [VideoDecoder η] {data : Bytes} {pts : UInt64}
    {answer : Except ReceiverError SubmitOutcome}
    (h : VideoDecoder.submit r data pts = (answer, r')) :
    r'.calls = r.calls ++ [.submit data pts answer] := by
  cases h
  rfl

theorem calls_pollEvent [VideoDecoder η] {answer : Except ReceiverError (Option DecoderEvent)}
    (h : VideoDecoder.pollEvent r = (answer, r')) : r'.calls = r.calls ++ [.poll answer] := by
  cases h
  rfl

theorem calls_registerBuffers [VideoDecoder η] {buffers : List ExternalBuffer}
    {answer : Except ReceiverError Unit}
    (h : VideoDecoder.registerBuffers r buffers = (answer, r')) :
    r'.calls = r.calls ++ [.register buffers answer] := by
  cases h
  rfl

theorem calls_allocate [SurfaceAllocator η] {size : Nat} {answer : Except ReceiverError Allocation}
    (h : SurfaceAllocator.allocate r size = (answer, r')) : r'.calls = r.calls := by
  cases h
  rfl

theorem calls_bindSurface [SurfaceAllocator η] {a : Allocation} {format : PictureFormat}
    {answer : Except ReceiverError SurfaceId}
    (h : SurfaceAllocator.bindSurface r a format = (answer, r')) : r'.calls = r.calls := by
  cases h
  rfl

end Overheard

/-! ## What a decode stage counts and remembers -/

/-- What a decode stage counts and remembers, apart from the keyframes that it has found. -/
structure StageAccount where
  stats : DecodeStats
  posted : Nat
  generation : Nat
  inFlight : List InFlight

/-- The account of a decode stage. -/
def DecodeStage.account (s : DecodeStage η) : StageAccount :=
  ⟨{ s.stats with keyframes := 0 }, s.mailbox.posted, s.pool.generation, s.inFlight⟩

theorem Mailbox.posted_discard (m : Mailbox) : m.discard.2.posted = m.posted := by
  unfold discard
  split <;> rfl

theorem Mailbox.posted_take? (m : Mailbox) : m.take?.2.posted = m.posted := by
  unfold take?
  split <;> rfl

/-! ## The effect of a step -/

/-- What a change of generation is to achieve. -/
def Change.goal : Change → ReturnGoal
  | discarding goal | dismantling goal | unbinding _ goal | releasing _ _ goal => goal
  | allocating format _ _ | binding format _ _ _ | registering format _ => .acquire format

/-- What a step of a change of generation does: what it was to achieve, what remains to be achieved,
and the call that the decoder gets. -/
inductive ChangeEffect (s s' : DecodeStage η) :
    ReturnGoal → Except ReceiverError (Option ReturnGoal) → List DecoderCall → Prop
  | goesOn (goal : ReturnGoal) (h : s'.account = s.account) :
      ChangeEffect s s' goal (.ok (some goal)) []
  /-- A buffer could not be had. -/
  | unbuilt (format : PictureFormat) (e : ReceiverError) (h : s'.account = s.account) :
      ChangeEffect s s' (.acquire format) (.ok (some (.fail e))) []
  | unregistered (format : PictureFormat) (buffers : List ExternalBuffer) (e : ReceiverError)
      (h : s'.account = s.account) :
      ChangeEffect s s' (.acquire format) (.ok (some (.fail e))) [.register buffers (.error e)]
  | registered (format : PictureFormat) (buffers : List ExternalBuffer)
      (h : s'.account =
        { s.account with
          stats := { s.account.stats with rebuilds := s.account.stats.rebuilds + 1 }
          generation := s.account.generation + 1 }) :
      ChangeEffect s s' (.acquire format) (.ok none) [.register buffers (.ok ())]
  | forgotten (h : s'.account = { s.account with inFlight := [] }) :
      ChangeEffect s s' .forget (.ok none) []
  | failed (e : ReceiverError) (h : s'.account = s.account) :
      ChangeEffect s s' (.fail e) (.error e) []

/-- Every step of a change of generation has such an effect. -/
theorem Change.step_effect [SurfaceAllocator η] [VideoDecoder η] (s : DecodeStage (Overheard η))
    (c : Change) :
    ∃ calls, (c.step s).2.hardware.calls = s.hardware.calls ++ calls ∧
      ChangeEffect s (c.step s).2 c.goal ((c.step s).1.map (Option.map goal)) calls := by
  cases c with
  | discarding goal =>
    refine ⟨[], (List.append_nil _).symm, .goesOn goal ?_⟩
    simp only [step, DecodeStage.account, s.mailbox.posted_discard]
  | dismantling goal => exact ⟨[], (List.append_nil _).symm, .goesOn goal rfl⟩
  | unbinding slots goal =>
    cases slots with
    | nil =>
      cases goal with
      | acquire format => exact ⟨[], (List.append_nil _).symm, .goesOn (.acquire format) rfl⟩
      | forget => exact ⟨[], (List.append_nil _).symm, .forgotten rfl⟩
      | fail e => exact ⟨[], (List.append_nil _).symm, .failed e rfl⟩
    | cons b slots => exact ⟨[], (List.append_nil _).symm, .goesOn goal rfl⟩
  | releasing handle slots goal => exact ⟨[], (List.append_nil _).symm, .goesOn goal rfl⟩
  | allocating format missing built =>
    cases missing with
    | zero => exact ⟨[], (List.append_nil _).symm, .goesOn (.acquire format) rfl⟩
    | succ missing =>
      rcases ha : SurfaceAllocator.allocate s.hardware format.bufferSize with ⟨e | a, hardware⟩
      · refine ⟨[], ?_⟩
        simp only [step, ha, List.append_nil]
        exact ⟨Overheard.calls_allocate ha, .unbuilt format e rfl⟩
      · rcases hf : built.find? (·.identity == a.identity) with _ | owner
        · refine ⟨[], ?_⟩
          simp only [step, ha, hf, List.append_nil]
          exact ⟨Overheard.calls_allocate ha, .goesOn (.acquire format) rfl⟩
        · refine ⟨[], ?_⟩
          simp only [step, ha, hf, List.append_nil]
          exact ⟨Overheard.calls_allocate ha, .unbuilt format _ rfl⟩
  | binding format missing built a =>
    rcases hb : SurfaceAllocator.bindSurface s.hardware a format with ⟨e | surface, hardware⟩
    · refine ⟨[], ?_⟩
      simp only [step, hb, List.append_nil]
      exact ⟨Overheard.calls_bindSurface hb, .unbuilt format e rfl⟩
    · refine ⟨[], ?_⟩
      simp only [step, hb, List.append_nil]
      exact ⟨Overheard.calls_bindSurface hb, .goesOn (.acquire format) rfl⟩
  | registering format built =>
    rcases hr : VideoDecoder.registerBuffers s.hardware
      (built.map (FramePool.externalBuffer format)) with ⟨e | _, hardware⟩
    · refine ⟨[.register (built.map (FramePool.externalBuffer format)) (.error e)], ?_⟩
      simp only [step, hr]
      exact ⟨Overheard.calls_registerBuffers hr, .unregistered format _ e rfl⟩
    · refine ⟨[.register (built.map (FramePool.externalBuffer format)) (.ok ())], ?_⟩
      simp only [step, hr]
      exact ⟨Overheard.calls_registerBuffers hr, .registered format _ rfl⟩

/-- What a task of an operation does in one step: the change of generation that it starts, the tasks
that take its place, and the call that the decoder gets. -/
inductive TaskEffect (now : Instant) (s s' : DecodeStage η) :
    StageTask → Option ReturnGoal → List StageTask → List DecoderCall → Prop
  | dropped (u : AccessUnit)
      (h : s'.account =
        { s.account with
          stats := { s.account.stats with droppedUnits := s.account.stats.droppedUnits + 1 } }) :
      TaskEffect now s s' (.offer u 0) none [] []
  | accepted (u : AccessUnit) (attempts : Nat)
      (h : s'.account =
        { s.account with
          stats := { s.account.stats with submitted := s.account.stats.submitted + 1 }
          inFlight := (s.accept now u.pts).inFlight }) :
      TaskEffect now s s' (.offer u (attempts + 1)) none []
        [.submit u.data u.pts (.ok .accepted)]
  | rejected (u : AccessUnit) (attempts : Nat) (e : ReceiverError)
      (h : s'.account =
        { s.account with
          stats := { s.account.stats with decoderErrors := s.account.stats.decoderErrors + 1 } }) :
      TaskEffect now s s' (.offer u (attempts + 1)) none [] [.submit u.data u.pts (.error e)]
  | busy (u : AccessUnit) (attempts : Nat)
      (h : s'.account =
        { s.account with
          stats := { s.account.stats with busyRetries := s.account.stats.busyRetries + 1 } }) :
      TaskEffect now s s' (.offer u (attempts + 1)) none [.poll, .offer u attempts]
        [.submit u.data u.pts (.ok .busy)]
  | observed (u : AccessUnit) (h : s'.account = s.account) :
      TaskEffect now s s' (.observe u) none [] []
  | pollFailed (e : ReceiverError)
      (h : s'.account =
        { s.account with
          stats := { s.account.stats with decoderErrors := s.account.stats.decoderErrors + 1 } }) :
      TaskEffect now s s' .poll none [] [.poll (.error e)]
  | exhausted (h : s'.account = s.account) : TaskEffect now s s' .poll none [] [.poll (.ok none)]
  | picture (identity : HardwareIdentity) (pts : UInt64) (h : s'.account = s.account) :
      TaskEffect now s s' .poll none [.present identity pts, .poll]
        [.poll (.ok (some (.picture identity pts)))]
  | formatChanged (format : PictureFormat) (h : s'.account = s.account) :
      TaskEffect now s s' .poll (some (.acquire format)) [.poll]
        [.poll (.ok (some (.formatChanged format)))]
  | unknown (identity : HardwareIdentity) (pts : UInt64)
      (h : s'.account =
        { s.account with
          stats :=
            { s.account.stats with unknownBuffers := s.account.stats.unknownBuffers + 1 } }) :
      TaskEffect now s s' (.present identity pts) none [] []
  | posted (identity : HardwareIdentity) (pts : UInt64) (surface : SurfaceId)
      (h : s'.account =
        { s.account with
          stats := { s.account.stats with pictures := s.account.stats.pictures + 1 }
          posted := s.account.posted + 1
          inFlight := (s.takeAcceptTime pts).2.inFlight })
      (hframe : s'.mailbox.pending = some ⟨surface, (s.takeAcceptTime pts).1.getD now⟩) :
      TaskEffect now s s' (.present identity pts) none [] []

/-- A picture is counted as unknown, or it is posted. -/
theorem DecodeStage.present_effect (s : DecodeStage η) (now : Instant)
    (identity : HardwareIdentity) (pts : UInt64) :
    TaskEffect now s (s.present now identity pts) (.present identity pts) none [] [] := by
  rcases hslot : (s.pool.resolve identity).bind s.pool.slot? with _ | slot
  · refine .unknown identity pts ?_
    simp only [present, hslot, account]
  · have htake : (s.takeAcceptTime pts).2.stats = s.stats ∧
        (s.takeAcceptTime pts).2.mailbox = s.mailbox ∧
        (s.takeAcceptTime pts).2.pool = s.pool := by
      unfold takeAcceptTime
      split <;> exact ⟨rfl, rfl, rfl⟩
    obtain ⟨hstats, hmailbox, hpool⟩ := htake
    refine .posted identity pts slot.surface ?_ ?_
    · simp only [present, hslot, account, hstats, hmailbox, hpool, Mailbox.post]
    · simp only [present, hslot, Mailbox.post]

/-- Every step of a task has such an effect. -/
theorem StageTask.step_effect [VideoDecoder η] (now : Instant) (s : DecodeStage (Overheard η))
    (task : StageTask) :
    ∃ calls, (task.step now s).2.2.hardware.calls = s.hardware.calls ++ calls ∧
      TaskEffect now s (task.step now s).2.2 task ((task.step now s).1.map Change.goal)
        (task.step now s).2.1 calls := by
  cases task with
  | offer u attempts =>
    cases attempts with
    | zero => exact ⟨[], (List.append_nil _).symm, .dropped u rfl⟩
    | succ attempts =>
      rcases hs : VideoDecoder.submit s.hardware u.data u.pts with ⟨e | _ | _, hardware⟩ <;>
        simp only [step, hs]
      · exact ⟨_, Overheard.calls_submit hs, .rejected u attempts e rfl⟩
      · exact ⟨_, Overheard.calls_submit hs, .accepted u attempts rfl⟩
      · exact ⟨_, Overheard.calls_submit hs, .busy u attempts rfl⟩
  | observe u =>
    refine ⟨[], ?_, .observed u ?_⟩
    · simp only [step, (s.observe_frame u).2.1, List.append_nil]
    · simp only [step, DecodeStage.observe]
      split <;> rfl
  | poll =>
    rcases hp : VideoDecoder.pollEvent s.hardware with
      ⟨e | _ | ⟨format⟩ | ⟨identity, pts⟩, hardware⟩ <;> simp only [step, hp]
    · exact ⟨_, Overheard.calls_pollEvent hp, .pollFailed e rfl⟩
    · exact ⟨_, Overheard.calls_pollEvent hp, .exhausted rfl⟩
    · exact ⟨_, Overheard.calls_pollEvent hp, .formatChanged format rfl⟩
    · exact ⟨_, Overheard.calls_pollEvent hp, .picture identity pts rfl⟩
  | present identity pts =>
    refine ⟨[], ?_, s.present_effect now identity pts⟩
    simp only [step, (s.present_frame now identity pts).2.1, List.append_nil]

/-- What a step of an operation does: where the operation stood and where it stands then, the error
that it ends with, and the call that the decoder gets. -/
inductive Progress (now : Instant) (s s' : DecodeStage η) :
    Option ReturnGoal → List StageTask → Option ReturnGoal → List StageTask →
      Option ReceiverError → List DecoderCall → Prop
  | changed {goal : ReturnGoal} {next : Option ReturnGoal} {calls : List DecoderCall}
      (tasks : List StageTask) (h : ChangeEffect s s' goal (.ok next) calls) :
      Progress now s s' (some goal) tasks next tasks none calls
  | ended {goal : ReturnGoal} {e : ReceiverError} {calls : List DecoderCall}
      (tasks : List StageTask) (h : ChangeEffect s s' goal (.error e) calls) :
      Progress now s s' (some goal) tasks none [] (some e) calls
  | worked {task : StageTask} {next : Option ReturnGoal} {front : List StageTask}
      {calls : List DecoderCall} (rest : List StageTask)
      (h : TaskEffect now s s' task next front calls) :
      Progress now s s' none (task :: rest) next (front ++ rest) none calls

/-- What remains to be achieved by a change of generation. -/
def StageRun.goal (r : StageRun η) : Option ReturnGoal := r.change.map Change.goal

theorem StageRun.goal_eq_none_iff (r : StageRun η) : r.goal = none ↔ r.change = none :=
  Option.map_eq_none_iff

/-- An operation that has not returned goes on, and nothing else changes. -/
theorem StageRun.proceed_progress [SurfaceAllocator η] [VideoDecoder η] (now : Instant)
    {r : StageRun (Overheard η)} (h : ¬ r.Idle) :
    ∃ calls failure,
      (r.proceed now).stage.hardware.calls = r.stage.hardware.calls ++ calls ∧
      Progress now r.stage (r.proceed now).stage r.goal r.tasks (r.proceed now).goal
        (r.proceed now).tasks failure calls ∧
      (r.proceed now).failure = failure.or r.failure ∧
      (r.proceed now).operation = r.operation := by
  obtain ⟨s, change, tasks, op, failure⟩ := r
  cases change with
  | some c =>
    obtain ⟨calls, hcalls, heffect⟩ := c.step_effect s
    rcases hstep : c.step s with ⟨e | next, s'⟩ <;> rw [hstep] at hcalls heffect <;>
      simp only [proceed, afterChange, hstep]
    · exact ⟨calls, some e, hcalls, .ended tasks heffect, rfl, trivial⟩
    · exact ⟨calls, none, hcalls, .changed tasks heffect, rfl, trivial⟩
  | none =>
    cases tasks with
    | nil => exact absurd ⟨rfl, rfl⟩ h
    | cons task rest =>
      obtain ⟨calls, hcalls, heffect⟩ := task.step_effect now s
      exact ⟨calls, none, hcalls, .worked rest heffect, rfl, rfl⟩

/-- What an action does: it starts an operation, or it is a step of one, or it leaves operations
alone. -/
inductive StageRun.Turn (r : StageRun (Overheard η)) :
    StageAction → StageRun (Overheard η) → Prop
  | started (op : StageOperation) (hidle : r.Idle) :
      Turn r (.start op) ⟨r.stage, op.change, op.tasks, some op, none⟩
  | advanced {r' : StageRun (Overheard η)} {calls : List DecoderCall}
      {failure : Option ReceiverError} (now : Instant) (hidle : ¬ r.Idle)
      (hcalls : r'.stage.hardware.calls = r.stage.hardware.calls ++ calls)
      (hprogress : Progress now r.stage r'.stage r.goal r.tasks r'.goal r'.tasks failure calls)
      (hfailure : r'.failure = failure.or r.failure) (hop : r'.operation = r.operation) :
      Turn r (.proceed now) r'
  | aside {s : DecodeStage (Overheard η)} (a : StageAction)
      (hstart : ∀ op, a = .start op → ¬ r.Idle) (hproceed : ∀ now, a = .proceed now → r.Idle)
      (hhardware : s.hardware = r.stage.hardware) (haccount : s.account = r.stage.account) :
      Turn r a { r with stage := s }

theorem StageRun.act_turn [SurfaceAllocator η] [VideoDecoder η] (r : StageRun (Overheard η))
    (a : StageAction) : r.Turn a (r.act a) := by
  cases a with
  | start op =>
    by_cases hidle : r.Idle
    · rw [act, start, if_pos hidle]
      exact .started op hidle
    · rw [act, start, if_neg hidle]
      exact .aside _ (fun _ _ => hidle) (by rintro _ ⟨⟩) rfl rfl
  | proceed now =>
    by_cases hidle : r.Idle
    · have hsame : r.proceed now = r := by simp only [proceed, hidle.1, hidle.2]
      rw [act, hsame]
      exact .aside _ (by rintro _ ⟨⟩) (fun _ _ => hidle) rfl rfl
    · obtain ⟨calls, failure, hcalls, hprogress, hfailure, hop⟩ := r.proceed_progress now hidle
      exact .advanced now hidle hcalls hprogress hfailure hop
  | take =>
    refine .aside _ (by rintro _ ⟨⟩) (by rintro _ ⟨⟩) rfl ?_
    simp only [DecodeStage.account, r.stage.mailbox.posted_take?]
  | finish => exact .aside _ (by rintro _ ⟨⟩) (by rintro _ ⟨⟩) rfl rfl
  | watch monitor => exact .aside _ (by rintro _ ⟨⟩) (by rintro _ ⟨⟩) rfl rfl

/-! ## Runs under the recorder -/

/-- The error with which an operation has returned. -/
def StageResult.error? : StageResult → Option ReceiverError
  | failed e => some e
  | _ => none

section Map

variable [SurfaceAllocator η] [VideoDecoder η] [SurfaceAllocator θ] [VideoDecoder θ] {f : η → θ}
  (h : AnswersAlike f)

include h

theorem Change.step_map (s : DecodeStage η) (c : Change) :
    c.step (s.map f) = Prod.map id (DecodeStage.map f) (c.step s) := by
  cases c with
  | discarding goal => rfl
  | dismantling goal => rfl
  | unbinding slots goal =>
    cases slots with
    | nil => cases goal <;> rfl
    | cons b slots => simp only [step, DecodeStage.map, h.unbindSurface_eq, Prod.map, id]
  | releasing handle slots goal => simp only [step, DecodeStage.map, h.release_eq, Prod.map, id]
  | allocating format missing built =>
    cases missing with
    | zero => rfl
    | succ missing =>
      have hcall := h.allocate_eq s.hardware format.bufferSize
      rcases ha : SurfaceAllocator.allocate s.hardware format.bufferSize with ⟨e | a, hardware⟩ <;>
        rw [ha] at hcall
      · simp only [step, DecodeStage.map, ha, hcall, Prod.map, id]
      · rcases hf : built.find? (·.identity == a.identity) with _ | owner <;>
          simp only [step, DecodeStage.map, ha, hcall, hf, Prod.map, id]
  | binding format missing built a =>
    have hcall := h.bindSurface_eq s.hardware a format
    rcases hb : SurfaceAllocator.bindSurface s.hardware a format with ⟨e | surface, hardware⟩ <;>
      rw [hb] at hcall <;> simp only [step, DecodeStage.map, hb, hcall, Prod.map, id]
  | registering format built =>
    have hcall := h.registerBuffers_eq s.hardware (built.map (FramePool.externalBuffer format))
    rcases hr : VideoDecoder.registerBuffers s.hardware
        (built.map (FramePool.externalBuffer format)) with ⟨e | _, hardware⟩ <;>
      rw [hr] at hcall <;> simp only [step, DecodeStage.map, hr, hcall, Prod.map, id]

theorem StageTask.step_map (now : Instant) (s : DecodeStage η) (task : StageTask) :
    task.step now (s.map f) =
      Prod.map id (Prod.map id (DecodeStage.map f)) (task.step now s) := by
  cases task with
  | offer u attempts =>
    cases attempts with
    | zero => rfl
    | succ attempts =>
      have hcall := h.submit_eq s.hardware u.data u.pts
      rcases hs : VideoDecoder.submit s.hardware u.data u.pts with ⟨e | _ | _, hardware⟩ <;>
        rw [hs] at hcall <;> simp only [step, DecodeStage.map, hs, hcall, Prod.map, id] <;> rfl
  | observe u => simp only [step, DecodeStage.observe_map, Prod.map, id]
  | poll =>
    have hcall := h.pollEvent_eq s.hardware
    rcases hp : VideoDecoder.pollEvent s.hardware with
      ⟨e | _ | ⟨format⟩ | ⟨identity, pts⟩, hardware⟩ <;>
      rw [hp] at hcall <;>
      simp only [step, DecodeStage.map, DecodeStage.onDecoderError, hp, hcall, Prod.map, id]
  | present identity pts => simp only [step, DecodeStage.present_map, Prod.map, id]

end Map

namespace StageRun

/-- The run over the image of its board. -/
def map (f : η → θ) (r : StageRun η) : StageRun θ :=
  ⟨r.stage.map f, r.change, r.tasks, r.operation, r.failure⟩

section Map

variable [SurfaceAllocator η] [VideoDecoder η] [SurfaceAllocator θ] [VideoDecoder θ] {f : η → θ}
  (h : AnswersAlike f)

include h

theorem act_map (r : StageRun η) (a : StageAction) : (r.map f).act a = (r.act a).map f := by
  cases a with
  | start op =>
    change StageRun.start (r.map f) op = StageRun.map f (r.start op)
    by_cases hidle : r.Idle
    · have hidle' : (r.map f).Idle := hidle
      rw [start, start, if_pos hidle, if_pos hidle']
      rfl
    · have hidle' : ¬ (r.map f).Idle := hidle
      rw [start, start, if_neg hidle, if_neg hidle']
  | proceed now =>
    obtain ⟨s, change, tasks, op, failure⟩ := r
    cases change with
    | some c =>
      simp only [act, proceed, map, Change.step_map h]
      rcases c.step s with ⟨e | change, s'⟩ <;> rfl
    | none =>
      cases tasks with
      | nil => rfl
      | cons task rest => simp only [act, proceed, map, StageTask.step_map h, Prod.map, id]
  | take => rfl
  | finish => rfl
  | watch monitor => rfl

/-- Boards that answer alike are run alike. -/
theorem actAll_map (r : StageRun η) (actions : List StageAction) :
    (r.map f).actAll actions = (r.actAll actions).map f := by
  induction actions generalizing r with
  | nil => rfl
  | cons a actions ih =>
    have hstep : (r.map f).actAll (a :: actions) = ((r.act a).map f).actAll actions :=
      congrArg (actAll · actions) (act_map h r a)
    exact hstep.trans (ih (r.act a))

end Map

variable [SurfaceAllocator η] [VideoDecoder η]

theorem actAll_replicate_proceed (now : Instant) (n : Nat) (r : StageRun η) :
    r.actAll (List.replicate n (.proceed now)) = (StageRun.proceed now)^[n] r := by
  induction n generalizing r with
  | zero => rfl
  | succ n ih => exact ih (r.proceed now)

/-- An operation that is performed in one go, and that has an end, is a run of steps. -/
theorem performed_actAll {r : StageRun η} (hidle : r.Idle) (op : StageOperation) (now : Instant)
    (hend : (op.perform now r.stage).1 ≠ .endless) :
    ∃ n, r.actAll (.start op :: List.replicate n (.proceed now)) =
      ⟨(op.perform now r.stage).2, none, [], some op, (op.perform now r.stage).1.error?⟩ := by
  obtain ⟨r', ⟨n, rfl⟩, hstage, hout⟩ := perform_reaches now hidle op
  refine ⟨n, ?_⟩
  change (r.start op).actAll _ = _
  rw [actAll_replicate_proceed]
  rcases hperform : op.perform now r.stage with ⟨_ | e | _, s⟩ <;> rw [hperform] at hout hend
  · exact hout
  · exact hout
  · exact absurd rfl hend

end StageRun

end VideoReceiver
