import VideoReceiver.Proofs.Decode.Generation
import VideoReceiver.Proofs.Hardware.Alike

/-!
# Decoders that keep to their backlog

An operation of the decode stage handles events until the decoder has no more. It has an end if
every event leaves the decoder with less to announce and only access units give it more.

## Main definitions

- `BoundedBacklog`: a board whose decoder keeps to its backlog

## Main statements

- `BoundedBacklog.perform_ne_endless`: every operation of the decode stage ends
- `BoundedBacklog.recorded`, `Bench.Board.boundedBacklog`: boards for which this holds
-/

namespace VideoReceiver

open VideoDecoder (backlog)

/-- Every event is one less in the backlog of the decoder, and buffers do not add to it. -/
structure BoundedBacklog (η : Type) [SurfaceAllocator η] [VideoDecoder η] : Prop where
  pollEvent_lt {board board' : η} {event : DecoderEvent} :
    VideoDecoder.pollEvent board = (.ok (some event), board') → backlog board' < backlog board
  allocate_le {board board' : η} {size : Nat} {answer : Except ReceiverError Allocation} :
    SurfaceAllocator.allocate board size = (answer, board') → backlog board' ≤ backlog board
  bindSurface_le {board board' : η} {a : Allocation} {format : PictureFormat}
    {answer : Except ReceiverError SurfaceId} :
    SurfaceAllocator.bindSurface board a format = (answer, board') →
      backlog board' ≤ backlog board
  unbindSurface_le (board : η) (surface : SurfaceId) :
    backlog (SurfaceAllocator.unbindSurface board surface) ≤ backlog board
  release_le (board : η) (handle : AllocationHandle) :
    backlog (SurfaceAllocator.release board handle) ≤ backlog board
  registerBuffers_le {board board' : η} {buffers : List ExternalBuffer}
    {answer : Except ReceiverError Unit} :
    VideoDecoder.registerBuffers board buffers = (answer, board') →
      backlog board' ≤ backlog board

namespace BoundedBacklog

variable {η : Type} [SurfaceAllocator η] [VideoDecoder η] (h : BoundedBacklog η)

include h

/-! ## Changes of generation -/

theorem releaseSlots_le (board : η) (slots : List BufferSlot) :
    backlog (FramePool.releaseSlots board slots) ≤ backlog board := by
  induction slots generalizing board with
  | nil => exact Nat.le_refl _
  | cons slot slots ih =>
    exact Nat.le_trans (ih _)
      (Nat.le_trans (h.release_le _ slot.handle) (h.unbindSurface_le board slot.surface))

theorem buildSlots_le (format : PictureFormat) (missing : Nat) (built : List BufferSlot)
    (board : η) :
    backlog (FramePool.buildSlots format missing built board).2.2 ≤ backlog board := by
  fun_induction FramePool.buildSlots format missing built board with
  | case1 built board => exact Nat.le_refl _
  | case2 missing built board e board₁ ha => exact h.allocate_le ha
  | case3 missing built board a board₁ ha owner hf =>
    exact Nat.le_trans (h.release_le board₁ a.handle) (h.allocate_le ha)
  | case4 missing built board a board₁ ha hf e board₂ hb =>
    exact Nat.le_trans (h.release_le board₂ a.handle)
      (Nat.le_trans (h.bindSurface_le hb) (h.allocate_le ha))
  | case5 missing built board a board₁ ha hf surface board₂ hb ih =>
    exact Nat.le_trans ih (Nat.le_trans (h.bindSurface_le hb) (h.allocate_le ha))

theorem rebuild_le (p : FramePool) (format : PictureFormat) (board : η) :
    backlog (p.rebuild format board).2.2 ≤ backlog board := by
  have hbuild := Nat.le_trans (h.buildSlots_le format p.capacity [] _)
    (h.releaseSlots_le board p.slots)
  rcases hb : FramePool.buildSlots format p.capacity [] (FramePool.releaseSlots board p.slots)
    with ⟨e | _, built, board₁⟩ <;> rw [hb] at hbuild
  · simp only [FramePool.rebuild, FramePool.teardown, hb]
    exact Nat.le_trans (h.releaseSlots_le board₁ built) hbuild
  · rcases hr : VideoDecoder.registerBuffers board₁ (built.map (FramePool.externalBuffer format))
      with ⟨e | _, board₂⟩ <;> simp only [FramePool.rebuild, FramePool.teardown, hb, hr]
    · exact Nat.le_trans (h.releaseSlots_le board₂ built)
        (Nat.le_trans (h.registerBuffers_le hr) hbuild)
    · exact Nat.le_trans (h.registerBuffers_le hr) hbuild

theorem changeFormat_le (s : DecodeStage η) (format : PictureFormat) :
    backlog (s.changeFormat format).2.hardware ≤ backlog s.hardware := by
  have hrebuild := h.rebuild_le s.pool format s.hardware
  rcases hr : s.pool.rebuild format s.hardware with ⟨e | _, pool, hardware⟩ <;>
    simp only [DecodeStage.changeFormat, hr] <;> rw [hr] at hrebuild <;> exact hrebuild

/-! ## Operations -/

/-- More polls than events are enough. -/
theorem drainWithin_ne_endless (now : Instant) {polls : Nat} {s : DecodeStage η}
    (hpolls : backlog s.hardware < polls) : (s.drainWithin now polls).1 ≠ .endless := by
  fun_induction DecodeStage.drainWithin now polls s with
  | case1 s => exact absurd hpolls (Nat.not_lt_zero _)
  | case2 => nofun
  | case3 => nofun
  | case4 polls s identity pts hardware hpoll ih =>
    refine ih ?_
    obtain ⟨-, hhardware, -⟩ := { s with hardware }.present_frame now identity pts
    rw [hhardware]
    exact Nat.lt_of_lt_of_le (h.pollEvent_lt hpoll) (Nat.le_of_lt_succ hpolls)
  | case5 polls s format hardware hpoll s' hchange ih =>
    refine ih ?_
    have hle := h.changeFormat_le { s with hardware } format
    rw [hchange] at hle
    exact Nat.lt_of_le_of_lt hle
      (Nat.lt_of_lt_of_le (h.pollEvent_lt hpoll) (Nat.le_of_lt_succ hpolls))
  | case6 => nofun

theorem drain_ne_endless (s : DecodeStage η) (now : Instant) : (s.drain now).1 ≠ .endless :=
  h.drainWithin_ne_endless now (Nat.lt_succ_self _)

theorem submitWithin_ne_endless (now : Instant) (u : AccessUnit) (attempts : Nat)
    (s : DecodeStage η) : (s.submitWithin now u attempts).1 ≠ .endless := by
  fun_induction DecodeStage.submitWithin now u attempts s with
  | case1 => nofun
  | case2 => nofun
  | case3 => nofun
  | case4 attempts s hardware hs stats s' hdrain ih => exact ih
  | case5 attempts s hardware hs stats hstopped =>
    exact h.drain_ne_endless { s with hardware, stats } now

/-- Feeding an access unit ends. -/
theorem feed_ne_endless (s : DecodeStage η) (now : Instant) (u : AccessUnit) :
    (s.feed now u).1 ≠ .endless := by
  rw [DecodeStage.feed]
  split
  · exact h.drain_ne_endless _ now
  · exact h.submitWithin_ne_endless now u (DecodeStage.maxBusyRetries + 1) s

/-- Every operation ends. -/
theorem perform_ne_endless (op : StageOperation) (now : Instant) (s : DecodeStage η) :
    (op.perform now s).1 ≠ .endless := by
  cases op with
  | feed u => exact h.feed_ne_endless s now u
  | drain => exact h.drain_ne_endless s now
  | teardown => nofun

/-! ## Boards -/

/-- What a board carries besides adds nothing. -/
theorem of_answersAlike {θ : Type} [SurfaceAllocator θ] [VideoDecoder θ] {f : θ → η}
    (hf : AnswersAlike f) : BoundedBacklog θ where
  pollEvent_lt {board board' event} hpoll := by
    have hcall := hf.pollEvent_eq board
    rw [hpoll] at hcall
    rw [← hf.backlog_eq, ← hf.backlog_eq]
    exact h.pollEvent_lt hcall
  allocate_le {board board' size answer} ha := by
    have hcall := hf.allocate_eq board size
    rw [ha] at hcall
    rw [← hf.backlog_eq, ← hf.backlog_eq]
    exact h.allocate_le hcall
  bindSurface_le {board board' a format answer} hb := by
    have hcall := hf.bindSurface_eq board a format
    rw [hb] at hcall
    rw [← hf.backlog_eq, ← hf.backlog_eq]
    exact h.bindSurface_le hcall
  unbindSurface_le board surface := by
    rw [← hf.backlog_eq, ← hf.backlog_eq, ← hf.unbindSurface_eq]
    exact h.unbindSurface_le (f board) surface
  release_le board handle := by
    rw [← hf.backlog_eq, ← hf.backlog_eq, ← hf.release_eq]
    exact h.release_le (f board) handle
  registerBuffers_le {board board' buffers answer} hr := by
    have hcall := hf.registerBuffers_eq board buffers
    rw [hr] at hcall
    rw [← hf.backlog_eq, ← hf.backlog_eq]
    exact h.registerBuffers_le hcall

/-- A recorder adds nothing. -/
theorem recorded : BoundedBacklog (Recorded η) := h.of_answersAlike Recorded.answersAlike

end BoundedBacklog

namespace Bench.Board

/-- A picture that has been decoded is announced or waits for buffers. -/
theorem backlog_emitPicture (b : Board) (pts : UInt64) :
    backlog (b.emitPicture pts) = backlog b + 1 := by
  unfold emitPicture
  split
  · show (b.events ++ [_]).length + b.awaiting.length = _
    rw [List.length_append]
    exact Nat.add_right_comm _ _ _
  · show b.events.length + (b.awaiting ++ [pts]).length = _
    rw [List.length_append]
    rfl

theorem backlog_foldl_emitPicture (b : Board) (waiting : List UInt64) :
    backlog (waiting.foldl emitPicture b) = backlog b + waiting.length := by
  induction waiting generalizing b with
  | nil => rfl
  | cons pts waiting ih =>
    rw [List.foldl_cons, ih, backlog_emitPicture, List.length_cons]
    omega

/-- A scripted board announces what it has been told to and the pictures of its access units. -/
theorem boundedBacklog : BoundedBacklog Board where
  pollEvent_lt {b b' event} hpoll := by
    change b.pollEvent = _ at hpoll
    unfold pollEvent at hpoll
    split at hpoll
    · cases hpoll
    · rcases hevents : b.events with _ | ⟨first, events⟩
      · simp [hevents] at hpoll
      · simp only [hevents, Prod.mk.injEq] at hpoll
        obtain ⟨-, rfl⟩ := hpoll
        show (List.drop 1 (first :: events)).length + b.awaiting.length <
          b.events.length + b.awaiting.length
        rw [hevents]
        exact Nat.add_lt_add_right (Nat.lt_succ_self _) _
  allocate_le {b b' size answer} hcall := by
    change b.allocate size = _ at hcall
    unfold allocate at hcall
    split at hcall <;> cases hcall <;> exact Nat.le_refl _
  bindSurface_le {b b' a format answer} hcall := by
    change b.bindSurface a = _ at hcall
    unfold bindSurface at hcall
    split at hcall <;> cases hcall <;> exact Nat.le_refl _
  unbindSurface_le b surface := Nat.le_refl _
  release_le b handle := Nat.le_refl _
  registerBuffers_le {b b' buffers answer} hcall := by
    change b.registerBuffers buffers = _ at hcall
    unfold registerBuffers at hcall
    split at hcall
    · cases hcall
      exact Nat.le_refl _
    · cases hcall
      -- the pictures that waited become events or wait on
      exact Nat.le_of_eq (backlog_foldl_emitPicture _ b.awaiting)

end Bench.Board

end VideoReceiver
