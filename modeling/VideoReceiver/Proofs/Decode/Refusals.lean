import VideoReceiver.Proofs.Decode.Backlog

/-!
# Errors of the decode stage

A rebuild, and with it an operation of the decode stage, fails when the board refuses a buffer or
gives an identity twice. A refusal is handed on as it is; only the error for an identity is made by
the pool. So nothing but the board decides whether an error of the decode stage is fatal.

## Main definitions

- `Refusals`: a board with the errors that it has refused buffers with
- `Explained`: where the error of an operation comes from

## Main statements

- `StageOperation.perform_map`: boards that answer alike are operated alike
- `StageOperation.explained_perform`: the error of an operation is the only refusal
- `Refusals.refusal_law`: an error is fatal if and only if every refusal is
-/

namespace VideoReceiver

variable {η θ : Type}

/-! ## Boards that answer alike -/

namespace DecodeStage

/-- The stage over the image of its board. -/
def map (f : η → θ) (s : DecodeStage η) : DecodeStage θ :=
  ⟨f s.hardware, s.pool, s.mailbox, s.monitor, s.inFlight, s.stats⟩

theorem takeAcceptTime_map (f : η → θ) (s : DecodeStage η) (pts : UInt64) :
    (s.map f).takeAcceptTime pts = Prod.map id (map f) (s.takeAcceptTime pts) := by
  simp only [takeAcceptTime, map]
  split <;> rfl

theorem present_map (f : η → θ) (s : DecodeStage η) (now : Instant) (identity : HardwareIdentity)
    (pts : UInt64) : (s.map f).present now identity pts = (s.present now identity pts).map f := by
  have hslot : ((s.map f).pool.resolve identity).bind (s.map f).pool.slot? =
      (s.pool.resolve identity).bind s.pool.slot? := rfl
  simp only [present, hslot, takeAcceptTime_map]
  rcases (s.pool.resolve identity).bind s.pool.slot? with _ | slot <;> rfl

theorem observe_map (f : η → θ) (s : DecodeStage η) (u : AccessUnit) :
    (s.map f).observe u = (s.observe u).map f := by
  simp only [observe, map]
  rcases s.monitor.observe u.data with ⟨_ | nalType, monitor⟩ <;> rfl

/-- The stage after it has found the decoder busy. -/
def busy (s : DecodeStage η) (hardware : η) : DecodeStage η :=
  { s with hardware, stats := { s.stats with busyRetries := s.stats.busyRetries + 1 } }

section Busy

variable [SurfaceAllocator η] [VideoDecoder η] {now : Instant} {u : AccessUnit} {attempts : Nat}
  {s s' : DecodeStage η} {hardware : η}
  (hsubmit : VideoDecoder.submit s.hardware u.data u.pts = (.ok .busy, hardware))

include hsubmit

theorem submitWithin_of_done (hdrain : (s.busy hardware).drain now = (.done, s')) :
    s.submitWithin now u (attempts + 1) = s'.submitWithin now u attempts := by
  change drain { s with hardware, stats := _ } now = _ at hdrain
  simp only [submitWithin, hsubmit, hdrain]

theorem submitWithin_of_stopped {result : StageResult}
    (hdrain : (s.busy hardware).drain now = (result, s')) (hresult : result ≠ .done) :
    s.submitWithin now u (attempts + 1) = (result, s') := by
  change drain { s with hardware, stats := _ } now = _ at hdrain
  simp only [submitWithin, hsubmit, hdrain]
  cases result with
  | done => exact absurd rfl hresult
  | failed e => rfl
  | endless => rfl

end Busy

variable [SurfaceAllocator η] [VideoDecoder η] [SurfaceAllocator θ] [VideoDecoder θ] {f : η → θ}
  (h : AnswersAlike f)

include h

theorem changeFormat_map (s : DecodeStage η) (format : PictureFormat) :
    (s.map f).changeFormat format = Prod.map id (map f) (s.changeFormat format) := by
  have hrebuild := FramePool.rebuild_map h s.pool format s.hardware
  rcases hr : s.pool.rebuild format s.hardware with ⟨e | _, pool, hardware⟩ <;>
    rw [hr] at hrebuild <;> simp only [changeFormat, map, hr, hrebuild] <;> rfl

theorem drainWithin_map (now : Instant) (polls : Nat) (s : DecodeStage η) :
    (s.map f).drainWithin now polls = Prod.map id (map f) (s.drainWithin now polls) := by
  induction polls generalizing s with
  | zero => rfl
  | succ polls ih =>
    have hpoll : VideoDecoder.pollEvent (s.map f).hardware =
        Prod.map id f (VideoDecoder.pollEvent s.hardware) :=
      h.pollEvent_eq s.hardware
    rw [drainWithin, drainWithin, hpoll]
    rcases VideoDecoder.pollEvent s.hardware with ⟨e | _ | ⟨format⟩ | ⟨identity, pts⟩, hardware⟩
    · rfl
    · rfl
    · have hchange := changeFormat_map h { s with hardware } format
      change changeFormat { s.map f with hardware := f hardware } format = _ at hchange
      simp only [id, Prod.map] at hchange ⊢
      rw [hchange]
      rcases changeFormat { s with hardware } format with ⟨e | _, s'⟩
      · rfl
      · exact ih s'
    · change drainWithin now polls ((map f { s with hardware }).present now identity pts) = _
      rw [present_map]
      exact ih _

theorem drain_map (s : DecodeStage η) (now : Instant) :
    (s.map f).drain now = Prod.map id (map f) (s.drain now) := by
  have hbacklog : VideoDecoder.backlog (s.map f).hardware = VideoDecoder.backlog s.hardware :=
    h.backlog_eq s.hardware
  rw [drain, drain, hbacklog, drainWithin_map h]

theorem submitWithin_map (now : Instant) (u : AccessUnit) (attempts : Nat) (s : DecodeStage η) :
    (s.map f).submitWithin now u attempts =
      Prod.map id (map f) (s.submitWithin now u attempts) := by
  induction attempts generalizing s with
  | zero => rfl
  | succ attempts ih =>
    have hsubmit : VideoDecoder.submit (s.map f).hardware u.data u.pts =
        Prod.map id f (VideoDecoder.submit s.hardware u.data u.pts) :=
      h.submit_eq s.hardware u.data u.pts
    rcases hs : VideoDecoder.submit s.hardware u.data u.pts with ⟨e | _ | _, hardware⟩ <;>
      rw [hs] at hsubmit
    · simp only [submitWithin, hs, hsubmit, Prod.map]
      rfl
    · simp only [submitWithin, hs, hsubmit, Prod.map]
      rfl
    · have hdrain := drain_map h (s.busy hardware) now
      rcases hd : (s.busy hardware).drain now with ⟨result, s'⟩
      rw [hd] at hdrain
      by_cases hdone : result = .done
      · subst hdone
        rw [submitWithin_of_done hs hd, submitWithin_of_done hsubmit hdrain]
        exact ih s'
      · rw [submitWithin_of_stopped hs hd hdone, submitWithin_of_stopped hsubmit hdrain hdone]
        rfl

theorem feed_map (s : DecodeStage η) (now : Instant) (u : AccessUnit) :
    (s.map f).feed now u = Prod.map id (map f) (s.feed now u) := by
  rw [feed, feed, submit, submit, submitWithin_map h]
  rcases s.submitWithin now u (maxBusyRetries + 1) with ⟨_ | e | _, s'⟩
  · simp only [Prod.map, id, observe_map, drain_map h]
  · rfl
  · rfl

end DecodeStage

/-- Boards that answer alike are operated alike. -/
theorem StageOperation.perform_map [SurfaceAllocator η] [VideoDecoder η] [SurfaceAllocator θ]
    [VideoDecoder θ] {f : η → θ} (h : AnswersAlike f) (now : Instant) (s : DecodeStage η)
    (op : StageOperation) :
    op.perform now (s.map f) = Prod.map id (DecodeStage.map f) (op.perform now s) := by
  cases op with
  | feed u => exact DecodeStage.feed_map h s now u
  | drain => exact DecodeStage.drain_map h s now
  | teardown =>
    have hreturn := FramePool.releaseSlots_map h.toAllocatesAlike s.hardware s.pool.slots
    simp only [perform, DecodeStage.teardown, FramePool.teardown, DecodeStage.map, hreturn]
    rfl

/-! ## Refusals -/

/-- A board with the errors that it has refused buffers with: their memory, their binding to a
surface, or their registration. -/
structure Refusals (η : Type) where
  board : η
  errors : List ReceiverError := []

namespace Refusals

/-- The answer to a call that asks for buffers. -/
def answer {α : Type} (errors : List ReceiverError) :
    Except ReceiverError α × η → Except ReceiverError α × Refusals η
  | (.ok a, board) => (.ok a, ⟨board, errors⟩)
  | (.error e, board) => (.error e, ⟨board, errors ++ [e]⟩)

instance [SurfaceAllocator η] : SurfaceAllocator (Refusals η) where
  allocate r size := answer r.errors (SurfaceAllocator.allocate r.board size)
  bindSurface r a format := answer r.errors (SurfaceAllocator.bindSurface r.board a format)
  unbindSurface r surface := { r with board := SurfaceAllocator.unbindSurface r.board surface }
  release r handle := { r with board := SurfaceAllocator.release r.board handle }

instance [VideoDecoder η] : VideoDecoder (Refusals η) where
  submit r data pts := Prod.map id (mk · r.errors) (VideoDecoder.submit r.board data pts)
  pollEvent r := Prod.map id (mk · r.errors) (VideoDecoder.pollEvent r.board)
  registerBuffers r buffers := answer r.errors (VideoDecoder.registerBuffers r.board buffers)
  backlog r := VideoDecoder.backlog r.board

theorem map_board_answer {α : Type} (errors : List ReceiverError)
    (x : Except ReceiverError α × η) : Prod.map id board (answer errors x) = x := by
  rcases x with ⟨e | a, board⟩ <;> rfl

theorem answersAlike [SurfaceAllocator η] [VideoDecoder η] :
    AnswersAlike (board (η := η)) where
  allocate_eq _ _ := (map_board_answer _ _).symm
  bindSurface_eq _ _ _ := (map_board_answer _ _).symm
  unbindSurface_eq _ _ := rfl
  release_eq _ _ := rfl
  submit_eq _ _ _ := rfl
  pollEvent_eq _ := rfl
  registerBuffers_eq _ _ := (map_board_answer _ _).symm
  backlog_eq _ := rfl

variable {α : Type} {errors : List ReceiverError} {x : Except ReceiverError α × η} {r : Refusals η}

theorem errors_of_answer_eq_ok {a : α} (h : answer errors x = (.ok a, r)) : r.errors = errors := by
  rcases x with ⟨e | a, board⟩ <;> cases h
  rfl

theorem errors_of_answer_eq_error {e : ReceiverError} (h : answer errors x = (.error e, r)) :
    r.errors = errors ++ [e] := by
  rcases x with ⟨e | a, board⟩ <;> cases h
  rfl

end Refusals

/-- Whether an operation has failed, and with which error. -/
def StageResult.outcome : StageResult → Except ReceiverError Unit
  | failed e => .error e
  | _ => .ok ()

/-- How the refusals of a board, which were `errors` before, explain an outcome: nothing has been
refused; the error is the only refusal; or an identity has been given twice. -/
inductive Explained (errors : List ReceiverError) :
    Except ReceiverError Unit → List ReceiverError → Prop
  | ok : Explained errors (.ok ()) errors
  | refused (e : ReceiverError) : Explained errors (.error e) (errors ++ [e])
  | duplicate (built : List BufferSlot) (a : Allocation) (owner : BufferSlot) :
      Explained errors (.error (FramePool.duplicateIdentity built a owner)) errors

theorem Explained.errors_eq {errors errors' : List ReceiverError}
    (h : Explained errors (.ok ()) errors') : errors' = errors := by
  cases h
  rfl

/-- Only a refusal can keep an error from being fatal. -/
theorem Explained.isFatal_iff {e : ReceiverError} {errors : List ReceiverError}
    (h : Explained [] (.error e) errors) :
    e.isFatal = true ↔ ∀ refusal ∈ errors, refusal.isFatal = true := by
  cases h with
  | refused => simp
  | duplicate built a owner => simp [FramePool.duplicateIdentity, ReceiverError.isFatal]

namespace FramePool

variable [SurfaceAllocator η]

theorem errors_releaseSlots (r : Refusals η) (slots : List BufferSlot) :
    (releaseSlots r slots : Refusals η).errors = r.errors := by
  induction slots generalizing r with
  | nil => rfl
  | cons slot slots ih => exact ih _

theorem explained_buildSlots (format : PictureFormat) (missing : Nat) (built : List BufferSlot)
    (r : Refusals η) :
    Explained r.errors (buildSlots format missing built r).1
      (buildSlots format missing built r).2.2.errors := by
  fun_induction buildSlots format missing built r with
  | case1 built r => exact .ok
  | case2 missing built r e r₁ ha =>
    rw [Refusals.errors_of_answer_eq_error ha]
    exact .refused e
  | case3 missing built r a r₁ ha owner hf =>
    change Explained r.errors _ r₁.errors
    rw [Refusals.errors_of_answer_eq_ok ha]
    exact .duplicate built a owner
  | case4 missing built r a r₁ ha hf e r₂ hb =>
    change Explained r.errors _ r₂.errors
    rw [Refusals.errors_of_answer_eq_error hb, Refusals.errors_of_answer_eq_ok ha]
    exact .refused e
  | case5 missing built r a r₁ ha hf surface r₂ hb ih =>
    rw [Refusals.errors_of_answer_eq_ok hb, Refusals.errors_of_answer_eq_ok ha] at ih
    exact ih

variable [VideoDecoder η]

theorem explained_rebuild (p : FramePool) (format : PictureFormat) (r : Refusals η) :
    Explained r.errors (p.rebuild format r).1 (p.rebuild format r).2.2.errors := by
  have hbuild := explained_buildSlots format p.capacity [] (releaseSlots r p.slots : Refusals η)
  rw [errors_releaseSlots] at hbuild
  rcases hb : buildSlots format p.capacity [] (releaseSlots r p.slots : Refusals η) with
    ⟨e | _, built, r₁⟩ <;> rw [hb] at hbuild
  · rw [rebuild_of_unbuilt hb, errors_releaseSlots]
    exact hbuild
  · rcases hr : VideoDecoder.registerBuffers r₁ (built.map (externalBuffer format)) with
      ⟨e | _, r₂⟩
    · rw [rebuild_of_unregistered hb hr, errors_releaseSlots,
        Refusals.errors_of_answer_eq_error hr, hbuild.errors_eq]
      exact .refused e
    · rw [rebuild_of_registered hb hr, Refusals.errors_of_answer_eq_ok hr, hbuild.errors_eq]
      exact .ok

end FramePool

namespace DecodeStage

variable [SurfaceAllocator η] [VideoDecoder η]

theorem explained_changeFormat (s : DecodeStage (Refusals η)) (format : PictureFormat) :
    Explained s.hardware.errors (s.changeFormat format).1
      (s.changeFormat format).2.hardware.errors := by
  have hrebuild := FramePool.explained_rebuild s.pool format s.hardware
  rcases hr : s.pool.rebuild format s.hardware with ⟨e | _, pool, hardware⟩ <;>
    rw [hr] at hrebuild <;> simp only [changeFormat, hr] <;> exact hrebuild

theorem explained_drainWithin (now : Instant) (polls : Nat) (s : DecodeStage (Refusals η)) :
    Explained s.hardware.errors (s.drainWithin now polls).1.outcome
      (s.drainWithin now polls).2.hardware.errors := by
  have hpolled : ∀ (s : DecodeStage (Refusals η)) {event hardware},
      VideoDecoder.pollEvent s.hardware = (event, hardware) →
        hardware.errors = s.hardware.errors := by
    rintro s event hardware hpoll
    cases hpoll
    rfl
  fun_induction drainWithin now polls s with
  | case1 s => exact .ok
  | case2 polls s e hardware hpoll =>
    rw [← hpolled s hpoll]
    exact .ok
  | case3 polls s hardware hpoll =>
    rw [← hpolled s hpoll]
    exact .ok
  | case4 polls s identity pts hardware hpoll ih =>
    obtain ⟨-, hsame, -⟩ := { s with hardware }.present_frame now identity pts
    rw [hsame] at ih
    rw [← hpolled s hpoll]
    exact ih
  | case5 polls s format hardware hpoll s' hchange ih =>
    have hexplained := explained_changeFormat { s with hardware } format
    rw [hchange] at hexplained
    rw [← hpolled s hpoll, ← hexplained.errors_eq]
    exact ih
  | case6 polls s format hardware hpoll e s' hchange =>
    have hexplained := explained_changeFormat { s with hardware } format
    rw [hchange] at hexplained
    rw [← hpolled s hpoll]
    exact hexplained

theorem explained_drain (s : DecodeStage (Refusals η)) (now : Instant) :
    Explained s.hardware.errors (s.drain now).1.outcome (s.drain now).2.hardware.errors :=
  explained_drainWithin now _ s

theorem explained_submitWithin (now : Instant) (u : AccessUnit) (attempts : Nat)
    (s : DecodeStage (Refusals η)) :
    Explained s.hardware.errors (s.submitWithin now u attempts).1.outcome
      (s.submitWithin now u attempts).2.hardware.errors := by
  have hsubmitted : ∀ (s : DecodeStage (Refusals η)) {outcome hardware},
      VideoDecoder.submit s.hardware u.data u.pts = (outcome, hardware) →
        hardware.errors = s.hardware.errors := by
    rintro s outcome hardware hsubmit
    cases hsubmit
    rfl
  fun_induction submitWithin now u attempts s with
  | case1 s => exact .ok
  | case2 attempts s hardware hsubmit =>
    rw [← hsubmitted s hsubmit]
    exact .ok
  | case3 attempts s e hardware hsubmit =>
    rw [← hsubmitted s hsubmit]
    exact .ok
  | case4 attempts s hardware hsubmit stats s' hdrain ih =>
    have hexplained := explained_drain { s with hardware, stats } now
    rw [hdrain] at hexplained
    rw [← hsubmitted s hsubmit, ← hexplained.errors_eq]
    exact ih
  | case5 attempts s hardware hsubmit stats hstopped =>
    rw [← hsubmitted s hsubmit]
    exact explained_drain { s with hardware, stats } now

theorem explained_feed (s : DecodeStage (Refusals η)) (now : Instant) (u : AccessUnit) :
    Explained s.hardware.errors (s.feed now u).1.outcome (s.feed now u).2.hardware.errors := by
  have hsubmit := explained_submitWithin now u (maxBusyRetries + 1) s
  rw [feed, submit]
  rcases hs : s.submitWithin now u (maxBusyRetries + 1) with ⟨_ | e | _, s'⟩ <;> rw [hs] at hsubmit
  · have hdrain := explained_drain (s'.observe u) now
    rw [(s'.observe_frame u).2.1, hsubmit.errors_eq] at hdrain
    exact hdrain
  · exact hsubmit
  · exact hsubmit

end DecodeStage

/-- The error of an operation is the only refusal. -/
theorem StageOperation.explained_perform [SurfaceAllocator η] [VideoDecoder η] (now : Instant)
    (s : DecodeStage (Refusals η)) (op : StageOperation) :
    Explained s.hardware.errors (op.perform now s).1.outcome
      (op.perform now s).2.hardware.errors := by
  cases op with
  | feed u => exact s.explained_feed now u
  | drain => exact s.explained_drain now
  | teardown =>
    have hreturn := FramePool.errors_releaseSlots s.hardware s.pool.slots
    change Explained _ _ (FramePool.releaseSlots s.hardware s.pool.slots).errors
    rw [hreturn]
    exact .ok

/-- **The board decides whether an error is fatal.** Under a recorder of refusals a rebuild and the
operations of the decode stage do what they do without it. If they succeed nothing has been refused.
Otherwise their error is the one refusal, or the pool has made it because an identity was given
twice. So it is fatal if and only if every refusal is. -/
theorem Refusals.refusal_law (η : Type) [SurfaceAllocator η] [VideoDecoder η] :
    (∀ (p : FramePool) (format : PictureFormat) (board : η),
      let run := p.rebuild format (Refusals.mk board [])
      p.rebuild format board = (run.1, run.2.1, run.2.2.board) ∧
      Explained [] run.1 run.2.2.errors ∧
      ∀ e, run.1 = .error e →
        (e.isFatal = true ↔ ∀ refusal ∈ run.2.2.errors, refusal.isFatal = true)) ∧
    (∀ (op : StageOperation) (now : Instant) (s : DecodeStage η),
      let run := op.perform now (s.map (Refusals.mk · []))
      op.perform now s = (run.1, run.2.map Refusals.board) ∧
      Explained [] run.1.outcome run.2.hardware.errors ∧
      ∀ e, run.1 = .failed e →
        (e.isFatal = true ↔ ∀ refusal ∈ run.2.hardware.errors, refusal.isFatal = true)) := by
  constructor
  · intro p format board run
    have hexplained : Explained [] run.1 run.2.2.errors := p.explained_rebuild format ⟨board, []⟩
    refine ⟨FramePool.rebuild_map Refusals.answersAlike p format ⟨board, []⟩, hexplained,
      fun e he => ?_⟩
    rw [he] at hexplained
    exact hexplained.isFatal_iff
  · intro op now s run
    have hexplained : Explained [] run.1.outcome run.2.hardware.errors :=
      op.explained_perform now (s.map (Refusals.mk · []))
    refine ⟨op.perform_map Refusals.answersAlike now (s.map (Refusals.mk · [])), hexplained,
      fun e he => ?_⟩
    rw [he] at hexplained
    exact hexplained.isFatal_iff

/-- A scripted board whose decoder refuses every set of buffers with the same error. -/
structure Bench.Refuser where
  board : Bench.Board := {}
  error : ReceiverError

namespace Bench.Refuser

instance : SurfaceAllocator Refuser where
  allocate r size := Prod.map id (mk · r.error) (r.board.allocate size)
  bindSurface r a _ := Prod.map id (mk · r.error) (r.board.bindSurface a)
  unbindSurface r surface := { r with board := r.board.unbindSurface surface }
  release r handle := { r with board := r.board.release handle }

instance : VideoDecoder Refuser where
  submit r data pts := Prod.map id (mk · r.error) (r.board.submit data pts)
  pollEvent r := Prod.map id (mk · r.error) r.board.pollEvent
  registerBuffers r _ := (.error r.error, r)
  backlog r := VideoDecoder.backlog r.board

end Bench.Refuser

/-- A decoder refuses the buffers of a new format with an error of its own. A rebuild, a drain and an
access unit all fail with it, and it is not fatal. -/
theorem DecodeStage.feed_failed_of_decoder_error :
    let e := ReceiverError.decoder "register_buffers" none
    let format := PictureFormat.unpadded 64 48 default
    let s : DecodeStage Bench.Refuser :=
      { hardware := ⟨{ events := [.formatChanged format] }, e⟩, pool := { capacity := 1 } }
    (s.pool.rebuild format s.hardware).1 = .error e ∧ (s.drain 0).1 = .failed e ∧
      (s.feed 0 default).1 = .failed e ∧ e.isFatal = false := by
  decide +kernel

end VideoReceiver
