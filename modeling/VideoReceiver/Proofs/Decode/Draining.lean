import VideoReceiver.Proofs.Decode.Fates

/-!
# The end of a round of events

A round asks the decoder for events until it has no more. Handling an event can give the decoder new
ones: a change of format registers buffers, and pictures that have waited for buffers are queued, or
wait again. The number of queued events alone is therefore no measure for a round; the events and
the waiting pictures together are, as no event is handled that does not lower their number by one.

## Main definitions

- `DevicePair`: an allocator and a decoder that share nothing

## Main statements

- `DecodeStage.polls_drainWithin_le`: a round asks once for each event of the backlog, and once more
- `DecodeStage.drainWithin_eq_drain`: a larger allowance of polls changes nothing
- `DecodeStage.failsPoll_or_exhausted`: what makes a round return without an error
- `DecodeStage.drain_law`: every round of a scripted decoder ends, whatever the allocator does
-/

namespace VideoReceiver

variable {η : Type}

/-- The decoder is asked for an event. -/
@[simp]
def DecoderCall.isPoll : DecoderCall → Bool
  | poll _ => true
  | _ => false

open DecoderCall (isPoll failsPoll)
open VideoDecoder (backlog)

/-! ## Polls -/

theorem FramePool.calls_releaseSlots [SurfaceAllocator η] (board : Overheard η)
    (slots : List BufferSlot) : (releaseSlots board slots).calls = board.calls := by
  induction slots generalizing board with
  | nil => rfl
  | cons slot slots ih => exact ih _

theorem FramePool.calls_buildSlots [SurfaceAllocator η] (format : PictureFormat) (missing : Nat)
    (built : List BufferSlot) (board : Overheard η) :
    (buildSlots format missing built board).2.2.calls = board.calls := by
  fun_induction buildSlots format missing built board with
  | case1 built board => rfl
  | case2 missing built board e board₁ ha => exact Overheard.calls_allocate ha
  | case3 missing built board a board₁ ha owner hf =>
    show board₁.calls = board.calls
    exact Overheard.calls_allocate ha
  | case4 missing built board a board₁ ha hf e board₂ hb =>
    exact (Overheard.calls_bindSurface hb).trans (Overheard.calls_allocate ha)
  | case5 missing built board a board₁ ha hf surface board₂ hb ih =>
    exact ih.trans ((Overheard.calls_bindSurface hb).trans (Overheard.calls_allocate ha))

section Rebuild

variable [SurfaceAllocator η] [VideoDecoder η]

/-- Building a generation asks for no event. -/
theorem FramePool.polls_rebuild (p : FramePool) (format : PictureFormat) (board : Overheard η) :
    (p.rebuild format board).2.2.calls.countP isPoll = board.calls.countP isPoll := by
  have hbuild := (calls_buildSlots format p.capacity [] (releaseSlots board p.slots)).trans
    (calls_releaseSlots board p.slots)
  rcases hb : buildSlots format p.capacity [] (releaseSlots board p.slots) with
    ⟨e | _, built, board₁⟩ <;> rw [hb] at hbuild <;> simp only at hbuild
  · rw [rebuild_of_unbuilt hb, calls_releaseSlots, hbuild]
  · rcases hr : VideoDecoder.registerBuffers board₁ (built.map (externalBuffer format))
      with ⟨e | _, board₂⟩
    · rw [rebuild_of_unregistered hb hr, calls_releaseSlots, Overheard.calls_registerBuffers hr,
        hbuild, List.countP_append]
      rfl
    · rw [rebuild_of_registered hb hr, Overheard.calls_registerBuffers hr, hbuild,
        List.countP_append]
      rfl

namespace DecodeStage

theorem polls_changeFormat (s : DecodeStage (Overheard η)) (format : PictureFormat) :
    (s.changeFormat format).2.hardware.calls.countP isPoll =
      s.hardware.calls.countP isPoll := by
  have hrebuild := s.pool.polls_rebuild format s.hardware
  rcases hr : s.pool.rebuild format s.hardware with ⟨e | _, pool, hardware⟩ <;>
    rw [hr] at hrebuild <;> simp only [changeFormat, hr] <;> exact hrebuild

omit [SurfaceAllocator η] in
theorem polls_of_pollEvent {s : DecodeStage (Overheard η)} {hardware : Overheard η}
    {answer : Except ReceiverError (Option DecoderEvent)}
    (h : VideoDecoder.pollEvent s.hardware = (answer, hardware)) :
    hardware.calls.countP isPoll = s.hardware.calls.countP isPoll + 1 := by
  rw [Overheard.calls_pollEvent h, List.countP_append]
  rfl

/-- A round of events makes one poll for each event of the backlog at most, and one more. -/
theorem polls_drainWithin_le (h : BoundedBacklog η) (now : Instant) (polls : Nat)
    (s : DecodeStage (Overheard η)) :
    (s.drainWithin now polls).2.hardware.calls.countP isPoll ≤
      s.hardware.calls.countP isPoll + backlog s.hardware + 1 := by
  -- each event lowers the backlog by one at least, while the polls made rise by one
  have hrec := h.of_answersAlike (Overheard.answersAlike (η := η))
  fun_induction drainWithin now polls s with
  | case1 s => exact Nat.le_succ_of_le (Nat.le_add_right _ _)
  | case2 polls s e hardware hpoll =>
    have hpolls := polls_of_pollEvent hpoll
    show hardware.calls.countP isPoll ≤ _
    omega
  | case3 polls s hardware hpoll =>
    have hpolls := polls_of_pollEvent hpoll
    show hardware.calls.countP isPoll ≤ _
    omega
  | case4 polls s identity pts hardware hpoll ih =>
    have hpolls := polls_of_pollEvent hpoll
    have hlt := hrec.pollEvent_lt hpoll
    obtain ⟨-, hhardware, -⟩ := { s with hardware }.present_frame now identity pts
    rw [hhardware] at ih
    change _ ≤ hardware.calls.countP isPoll + backlog hardware + 1 at ih
    omega
  | case5 polls s format hardware hpoll s' hchange ih =>
    have hpolls := polls_of_pollEvent hpoll
    have hlt := hrec.pollEvent_lt hpoll
    have hsame := { s with hardware }.polls_changeFormat format
    have hle := hrec.changeFormat_le { s with hardware } format
    rw [hchange] at hsame hle
    change s'.hardware.calls.countP isPoll = hardware.calls.countP isPoll at hsame
    change backlog s'.hardware ≤ backlog hardware at hle
    omega
  | case6 polls s format hardware hpoll e s' hchange =>
    have hpolls := polls_of_pollEvent hpoll
    have hsame := { s with hardware }.polls_changeFormat format
    rw [hchange] at hsame
    change s'.hardware.calls.countP isPoll = hardware.calls.countP isPoll at hsame
    show s'.hardware.calls.countP isPoll ≤ _
    omega

/-- A round that has an end comes to the same end when it may poll once more. -/
theorem drainWithin_succ_eq {now : Instant} {polls : Nat} {s : DecodeStage η}
    (hend : (s.drainWithin now polls).1 ≠ .endless) :
    s.drainWithin now (polls + 1) = s.drainWithin now polls := by
  fun_induction drainWithin now polls s with
  | case1 s => exact absurd rfl hend
  | case2 polls s e hardware hpoll => rw [drainWithin, hpoll]
  | case3 polls s hardware hpoll => rw [drainWithin, hpoll]
  | case4 polls s identity pts hardware hpoll ih =>
    rw [drainWithin, hpoll]
    exact ih hend
  | case5 polls s format hardware hpoll s' hchange ih =>
    simp only [drainWithin, hpoll, hchange]
    exact ih hend
  | case6 polls s format hardware hpoll e s' hchange =>
    simp only [drainWithin, hpoll, hchange]

/-- The allowance of polls does not matter, as long as it is enough. -/
theorem drainWithin_eq_drain (h : BoundedBacklog η) (s : DecodeStage η) (now : Instant)
    {polls : Nat} (hpolls : backlog s.hardware < polls) :
    s.drainWithin now polls = s.drain now := by
  induction hpolls with
  | refl => rfl
  | step hpolls ih => exact (drainWithin_succ_eq (h.drainWithin_ne_endless now hpolls)).trans ih

/-- A round that is done has ended with a failed poll, or the decoder had no more events. -/
theorem failsPoll_or_exhausted {now : Instant} {polls : Nat} {s : DecodeStage (Overheard η)}
    (hdone : (s.drainWithin now polls).1 = .done) :
    (∃ c ∈ (s.drainWithin now polls).2.hardware.calls, failsPoll c = true) ∨
      ∃ board : η, VideoDecoder.pollEvent board =
        (.ok none, (s.drainWithin now polls).2.hardware.board) := by
  fun_induction drainWithin now polls s with
  | case1 s => cases hdone
  | case2 polls s e hardware hpoll =>
    left
    refine ⟨.poll (.error e), ?_, rfl⟩
    show _ ∈ hardware.calls
    rw [Overheard.calls_pollEvent hpoll]
    exact List.mem_append_right _ (List.mem_singleton_self _)
  | case3 polls s hardware hpoll =>
    right
    have hcall := (Overheard.answersAlike (η := η)).pollEvent_eq s.hardware
    rw [hpoll] at hcall
    exact ⟨s.hardware.board, hcall⟩
  | case4 polls s identity pts hardware hpoll ih => exact ih hdone
  | case5 polls s format hardware hpoll s' hchange ih => exact ih hdone
  | case6 => cases hdone

end DecodeStage

end Rebuild

/-! ## Scripted decoders -/

/-- An allocator and a decoder that share nothing. -/
structure DevicePair (α δ : Type) where
  allocator : α
  decoder : δ

namespace DevicePair

variable {α δ : Type}

instance [SurfaceAllocator α] : SurfaceAllocator (DevicePair α δ) where
  allocate d size := Prod.map id (mk · d.decoder) (SurfaceAllocator.allocate d.allocator size)
  bindSurface d a format :=
    Prod.map id (mk · d.decoder) (SurfaceAllocator.bindSurface d.allocator a format)
  unbindSurface d surface :=
    { d with allocator := SurfaceAllocator.unbindSurface d.allocator surface }
  release d handle := { d with allocator := SurfaceAllocator.release d.allocator handle }

instance [VideoDecoder δ] : VideoDecoder (DevicePair α δ) where
  submit d data pts := Prod.map id (mk d.allocator) (VideoDecoder.submit d.decoder data pts)
  pollEvent d := Prod.map id (mk d.allocator) (VideoDecoder.pollEvent d.decoder)
  registerBuffers d buffers :=
    Prod.map id (mk d.allocator) (VideoDecoder.registerBuffers d.decoder buffers)
  backlog d := VideoDecoder.backlog d.decoder

/-- Whether a pair keeps to its backlog is up to the decoder. -/
theorem boundedBacklog [SurfaceAllocator α] [SurfaceAllocator δ] [VideoDecoder δ]
    (h : BoundedBacklog δ) : BoundedBacklog (DevicePair α δ) where
  pollEvent_lt {d d' event} hpoll := by
    cases hpoll' : VideoDecoder.pollEvent d.decoder with
    | mk answer decoder =>
      change Prod.map id (mk d.allocator) (VideoDecoder.pollEvent d.decoder) = _ at hpoll
      rw [hpoll'] at hpoll
      cases hpoll
      exact h.pollEvent_lt hpoll'
  allocate_le {d d' size answer} hcall := by
    cases hcall
    exact Nat.le_refl _
  bindSurface_le {d d' a format answer} hcall := by
    cases hcall
    exact Nat.le_refl _
  unbindSurface_le _ _ := Nat.le_refl _
  release_le _ _ := Nat.le_refl _
  registerBuffers_le {d d' buffers answer} hcall := by
    cases hcall
    exact h.registerBuffers_le rfl

end DevicePair

/-- A scripted decoder that has nothing to announce has an empty queue. -/
theorem Bench.Board.events_of_exhausted {b b' : Bench.Board}
    (h : b.pollEvent = (.ok none, b')) : b'.events = [] := by
  unfold pollEvent at h
  split at h
  · cases h
  · simp only [Prod.mk.injEq, Except.ok.injEq, List.head?_eq_none_iff] at h
    obtain ⟨hevents, rfl⟩ := h
    rw [hevents]
    rfl

/-- **A round of events comes to an end**, for every script of the decoder, every pool of whatever
capacity and every allocator. It never runs out of polls, and a larger allowance of them changes
nothing; it asks once for each queued event and each waiting picture at most, and once more. If it
returns without an error and no poll has failed, the queue is empty. The round is overheard, which
does not change it. -/
theorem DecodeStage.drain_law {α : Type} [SurfaceAllocator α]
    (s : DecodeStage (DevicePair α Bench.Board)) (now : Instant) :
    let load := s.hardware.decoder.events.length + s.hardware.decoder.awaiting.length
    let run := (s.map (Overheard.mk · [])).drain now
    s.drain now = (run.1, run.2.map Overheard.board) ∧
    run.1 ≠ .endless ∧
    (∀ polls, load < polls → s.drainWithin now polls = s.drain now) ∧
    run.2.hardware.calls.countP isPoll ≤ load + 1 ∧
    (run.1 = .done → (∀ c ∈ run.2.hardware.calls, failsPoll c = false) →
      run.2.hardware.board.decoder.events = []) := by
  intro load run
  have hbound : BoundedBacklog (DevicePair α Bench.Board) :=
    DevicePair.boundedBacklog Bench.Board.boundedBacklog
  have hrun : s.drain now = (run.1, run.2.map Overheard.board) :=
    drain_map Overheard.answersAlike (s.map (Overheard.mk · [])) now
  have hend := hbound.drain_ne_endless s now
  rw [hrun] at hend
  refine ⟨hrun, hend, fun polls => drainWithin_eq_drain hbound s now, ?_, ?_⟩
  · have hpolls := polls_drainWithin_le hbound now (load + 1) (s.map (Overheard.mk · []))
    rw [show (s.map (Overheard.mk · [])).hardware.calls.countP isPoll = 0 from rfl, Nat.zero_add]
      at hpolls
    exact hpolls
  · intro hdone hpolls
    rcases failsPoll_or_exhausted hdone with ⟨c, hc, hfails⟩ | ⟨board, hnone⟩
    · rw [hpolls c hc] at hfails
      cases hfails
    · -- the last poll, seen from the decoder's side
      have hdecoder : board.decoder.pollEvent = (.ok none, run.2.hardware.board.decoder) :=
        congrArg (Prod.map id DevicePair.decoder) hnone
      exact Bench.Board.events_of_exhausted hdecoder

/-- The bound is reached: a format is queued, the picture that has waited goes into a buffer of the
new generation, and the fourth poll finds nothing. -/
example :
    let board : Bench.Board :=
      { events := [.formatChanged default, .picture ⟨7⟩ 1], awaiting := [2] }
    let run := ({ hardware := ⟨board, []⟩ } : DecodeStage (Overheard Bench.Board)).drain 0
    run.1 = .done ∧ run.2.hardware.calls.countP isPoll = 4 ∧ run.2.mailbox.posted = 1 := by
  decide

end VideoReceiver
