import VideoReceiver.Pool
import VideoReceiver.Proofs.Hardware.Alike

/-!
# What the frame pool asks of the hardware

A change of generation is a short list of calls: the old buffers are given back, then the new ones
are acquired one by one, and a generation that cannot be completed is given back as well.

## Main statements

- `FramePool.buildSlots_calls`: the calls that acquire a generation
- `FramePool.rebuild_calls`: the calls of a rebuild
- `FramePool.rebuild_map`: boards that answer alike are rebuilt alike
-/

namespace VideoReceiver

open Bench (HardwareCall)

/-! ## The calls for one buffer -/

namespace BufferSlot

/-- The calls that give a buffer back. -/
def returnCalls (s : BufferSlot) : List HardwareCall := [.unbind s.surface, .release s.handle]

/-- The calls that acquired a buffer of a size. -/
def acquireCalls (size : Nat) (s : BufferSlot) : List HardwareCall :=
  [.allocate size (some (s.handle, s.identity)), .bind s.handle (some s.surface)]

end BufferSlot

/-- How the acquisition of a generation is abandoned: memory is refused; its identity is taken; it
cannot be bound; or the decoder refuses the buffers. -/
inductive Abandonment (size : Nat) : List HardwareCall → Prop
  | refused : Abandonment size [.allocate size none]
  | duplicate (handle identity) :
      Abandonment size [.allocate size (some (handle, identity)), .release handle]
  | unbindable (handle identity) :
      Abandonment size
        [.allocate size (some (handle, identity)), .bind handle none, .release handle]
  | unregistered (buffers) : Abandonment size [.register buffers true]

/-- The calls that follow the return of the old generation, by the slots that are there in the
end: none in a teardown; a complete generation; or one that is given back. -/
inductive GenerationCalls (capacity size : Nat) : List BufferSlot → List HardwareCall → Prop
  | none : GenerationCalls capacity size [] []
  | complete (slots : List BufferSlot) (buffers) (hcap : slots.length ≤ capacity) :
      GenerationCalls capacity size slots
        (slots.flatMap (·.acquireCalls size) ++ [.register buffers false])
  | abandoned (slots : List BufferSlot) {calls} (hcap : slots.length ≤ capacity)
      (h : Abandonment size calls) :
      GenerationCalls capacity size []
        (slots.flatMap (·.acquireCalls size) ++ calls ++ slots.flatMap (·.returnCalls))

namespace FramePool

variable {η : Type} [SurfaceAllocator η]

theorem log_releaseSlots (r : Recorded η) (slots : List BufferSlot) :
    (releaseSlots r slots : Recorded η).log = r.log ++ slots.flatMap (·.returnCalls) := by
  induction slots generalizing r with
  | nil => simp [releaseSlots]
  | cons s slots ih =>
    change (releaseSlots _ slots : Recorded η).log = _
    rw [ih]
    simp [BufferSlot.returnCalls, SurfaceAllocator.release, SurfaceAllocator.unbindSurface]

/-- What a build adds to the slots and to the log: as many buffers as were missing, or fewer of
them and the calls that end the attempt. -/
theorem buildSlots_calls (format : PictureFormat) (missing : Nat) (built : List BufferSlot)
    (r : Recorded η) :
    ∃ added calls,
      (buildSlots format missing built r).2.1 = built ++ added ∧
      (buildSlots format missing built r).2.2.log =
        r.log ++ (added.flatMap (·.acquireCalls format.bufferSize) ++ calls) ∧
      added.length ≤ missing ∧
      match (buildSlots format missing built r).1 with
      | .ok () => calls = []
      | .error _ => Abandonment format.bufferSize calls := by
  induction missing generalizing built r with
  | zero => exact ⟨[], [], by simp [buildSlots]⟩
  | succ missing ih =>
    rcases ha : SurfaceAllocator.allocate r.board format.bufferSize with ⟨e | a, board⟩
    · refine ⟨[], [.allocate format.bufferSize none], ?_⟩
      simp [buildSlots, SurfaceAllocator.allocate, ha, Abandonment.refused]
    · rcases hf : built.find? (·.identity == a.identity) with _ | owner
      · rcases hb : SurfaceAllocator.bindSurface board a format with ⟨e | surface, board'⟩
        · refine ⟨[], [.allocate format.bufferSize (some (a.handle, a.identity)),
            .bind a.handle none, .release a.handle], ?_⟩
          simp [buildSlots, SurfaceAllocator.allocate, SurfaceAllocator.bindSurface,
            SurfaceAllocator.release, ha, hf, hb, Abandonment.unbindable]
        · let slot : BufferSlot := ⟨built.length, a.identity, surface, a.handle⟩
          obtain ⟨added, calls, hbuilt, hlog, hlen, hout⟩ :=
            ih (built ++ [slot]) ⟨board', r.log ++ slot.acquireCalls format.bufferSize⟩
          have hstep : buildSlots format (missing + 1) built r =
              buildSlots format missing (built ++ [slot])
                (⟨board', r.log ++ slot.acquireCalls format.bufferSize⟩ : Recorded η) := by
            simp [buildSlots, SurfaceAllocator.allocate, SurfaceAllocator.bindSurface, ha, hf, hb,
              BufferSlot.acquireCalls, slot]
          rw [hstep]
          refine ⟨slot :: added, calls, ?_, ?_, Nat.succ_le_succ hlen, hout⟩
          · simp [hbuilt]
          · simp [hlog]
      · refine ⟨[], [.allocate format.bufferSize (some (a.handle, a.identity)),
          .release a.handle], ?_⟩
        simp [buildSlots, SurfaceAllocator.allocate, SurfaceAllocator.release, ha, hf,
          Abandonment.duplicate]

variable [VideoDecoder η]

/-! ## The three ways a rebuild ends -/

theorem rebuild_of_unbuilt {p : FramePool} {format : PictureFormat} {h h' : η}
    {e : ReceiverError} {built : List BufferSlot}
    (hb : buildSlots format p.capacity [] (releaseSlots h p.slots) = (.error e, built, h')) :
    p.rebuild format h =
      (.error e, { p with slots := [], format := none }, releaseSlots h' built) := by
  simp [rebuild, teardown, hb]

theorem rebuild_of_unregistered {p : FramePool} {format : PictureFormat} {h h' h'' : η}
    {e : ReceiverError} {built : List BufferSlot}
    (hb : buildSlots format p.capacity [] (releaseSlots h p.slots) = (.ok (), built, h'))
    (hr : VideoDecoder.registerBuffers h' (built.map (externalBuffer format)) = (.error e, h'')) :
    p.rebuild format h =
      (.error e, { p with slots := [], format := none }, releaseSlots h'' built) := by
  simp [rebuild, teardown, hb, hr]

theorem rebuild_of_registered {p : FramePool} {format : PictureFormat} {h h' h'' : η}
    {built : List BufferSlot}
    (hb : buildSlots format p.capacity [] (releaseSlots h p.slots) = (.ok (), built, h'))
    (hr : VideoDecoder.registerBuffers h' (built.map (externalBuffer format)) = (.ok (), h'')) :
    p.rebuild format h =
      (.ok (), { p with slots := built, format := some format, generation := p.generation + 1 },
        h'') := by
  simp [rebuild, teardown, hb, hr]

theorem capacity_rebuild (p : FramePool) (format : PictureFormat) (h : η) :
    (p.rebuild format h).2.1.capacity = p.capacity := by
  rcases hb : buildSlots format p.capacity [] (releaseSlots h p.slots) with ⟨e | _, built, h'⟩
  · rw [rebuild_of_unbuilt hb]
  · rcases hr : VideoDecoder.registerBuffers h' (built.map (externalBuffer format)) with
      ⟨e | _, h''⟩
    · rw [rebuild_of_unregistered hb hr]
    · rw [rebuild_of_registered hb hr]

/-- The calls of a rebuild: the old generation is given back before anything else. -/
theorem rebuild_calls (p : FramePool) (format : PictureFormat) (r : Recorded η) :
    ∃ calls,
      (p.rebuild format r).2.2.log = r.log ++ (p.slots.flatMap (·.returnCalls) ++ calls) ∧
      GenerationCalls p.capacity format.bufferSize (p.rebuild format r).2.1.slots calls := by
  obtain ⟨added, calls, hbuilt, hlog, hlen, hout⟩ :=
    buildSlots_calls format p.capacity [] (releaseSlots r p.slots : Recorded η)
  rcases hb : buildSlots format p.capacity [] (releaseSlots r p.slots : Recorded η) with
    ⟨outcome, built, r'⟩
  simp only [hb, List.nil_append, log_releaseSlots] at hbuilt hlog hout
  subst hbuilt
  cases outcome with
  | error e =>
    rw [rebuild_of_unbuilt hb]
    refine ⟨_, ?_, .abandoned built hlen hout⟩
    simp [log_releaseSlots, hlog]
  | ok =>
    subst hout
    rcases hr : VideoDecoder.registerBuffers r'.board (built.map (externalBuffer format)) with
      ⟨e | _, board⟩
    · rw [rebuild_of_unregistered hb (Recorded.registerBuffers_of_error hr)]
      refine ⟨_, ?_, .abandoned built hlen (.unregistered (built.map (externalBuffer format)))⟩
      simp [log_releaseSlots, hlog]
    · rw [rebuild_of_registered hb (Recorded.registerBuffers_of_ok hr)]
      refine ⟨_, ?_, .complete built (built.map (externalBuffer format)) hlen⟩
      simp [hlog]

/-! ## Boards that answer alike -/

section Alike

variable {θ : Type} [SurfaceAllocator θ] {f : η → θ}

omit [VideoDecoder η] in
theorem releaseSlots_map (h : AllocatesAlike f) (board : η) (slots : List BufferSlot) :
    releaseSlots (f board) slots = f (releaseSlots board slots) := by
  induction slots generalizing board with
  | nil => rfl
  | cons slot slots ih =>
    simp only [releaseSlots, List.foldl_cons] at ih ⊢
    rw [h.unbindSurface_eq, h.release_eq, ih]

omit [VideoDecoder η] in
theorem buildSlots_map (h : AllocatesAlike f) (format : PictureFormat) (missing : Nat)
    (built : List BufferSlot) (board : η) :
    buildSlots format missing built (f board) =
      Prod.map id (Prod.map id f) (buildSlots format missing built board) := by
  fun_induction buildSlots format missing built board with
  | case1 built board => rfl
  | case2 missing built board e board₁ ha => simp [buildSlots, h.allocate_eq, ha]
  | case3 missing built board a board₁ ha owner hf reason =>
    simp [buildSlots, h.allocate_eq, h.release_eq, ha, hf, reason]
  | case4 missing built board a board₁ ha hf e board₂ hb =>
    simp [buildSlots, h.allocate_eq, h.bindSurface_eq, h.release_eq, ha, hf, hb]
  | case5 missing built board a board₁ ha hf surface board₂ hb ih =>
    simp [buildSlots, h.allocate_eq, h.bindSurface_eq, ha, hf, hb, ih]

variable [VideoDecoder θ]

/-- Boards that answer alike are rebuilt alike. -/
theorem rebuild_map (h : AnswersAlike f) (p : FramePool) (format : PictureFormat) (board : η) :
    p.rebuild format (f board) = Prod.map id (Prod.map id f) (p.rebuild format board) := by
  have hbuild := buildSlots_map h.toAllocatesAlike format p.capacity []
    (releaseSlots board p.slots)
  rw [← releaseSlots_map h.toAllocatesAlike] at hbuild
  rcases hb : buildSlots format p.capacity [] (releaseSlots board p.slots) with
    ⟨e | _, built, board₁⟩ <;> rw [hb] at hbuild
  · rw [rebuild_of_unbuilt hb, rebuild_of_unbuilt hbuild, releaseSlots_map h.toAllocatesAlike]
    rfl
  · have hregister := h.registerBuffers_eq board₁ (built.map (externalBuffer format))
    rcases hr : VideoDecoder.registerBuffers board₁ (built.map (externalBuffer format)) with
      ⟨e | _, board₂⟩ <;> rw [hr] at hregister
    · rw [rebuild_of_unregistered hb hr, rebuild_of_unregistered hbuild hregister,
        releaseSlots_map h.toAllocatesAlike]
      rfl
    · rw [rebuild_of_registered hb hr, rebuild_of_registered hbuild hregister]
      rfl

end Alike

omit [VideoDecoder η] in
theorem board_releaseSlots (r : Recorded η) (slots : List BufferSlot) :
    (releaseSlots r slots : Recorded η).board = releaseSlots r.board slots :=
  (releaseSlots_map Recorded.allocatesAlike r slots).symm

theorem board_rebuild (p : FramePool) (format : PictureFormat) (r : Recorded η) :
    p.rebuild format r.board =
      ((p.rebuild format r).1, (p.rebuild format r).2.1, (p.rebuild format r).2.2.board) :=
  rebuild_map Recorded.answersAlike p format r

end FramePool

end VideoReceiver
