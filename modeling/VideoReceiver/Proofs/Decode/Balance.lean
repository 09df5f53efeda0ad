import VideoReceiver.Proofs.Decode.Generation
import VideoReceiver.Proofs.Hardware.Ledger

/-!
# What the decode stage gives back

The decode stage gives back what it gets, once, whatever the board hands out and wherever a change
of generation fails: what has been got and not given back belongs to the buffers of the pool, or to
those that a change of generation has in hand.

## Main definitions

- `BalancedLog`: what has been got is what has been given back and what is held
- `Change.memory`, `Change.surfaces`: what a change of generation has in hand

## Main statements

- `StageRun.Balanced.proceed`: every step keeps the balance
- `StageRun.Balanced.settled`: a stage whose pool is empty has given everything back
-/

namespace VideoReceiver

open Bench (HardwareCall)

/-! ## Balances -/

namespace Bench.HardwareCall

/-- The memory that a call has got. -/
def allocated? : HardwareCall → Option AllocationHandle
  | allocate _ (some (handle, _)) => some handle
  | _ => none

/-- The memory that a call gives back. -/
def released? : HardwareCall → Option AllocationHandle
  | release handle => some handle
  | _ => none

/-- The surface that a call has got. -/
def bound? : HardwareCall → Option SurfaceId
  | bind _ (some surface) => some surface
  | _ => none

/-- The surface that a call gives back. -/
def unbound? : HardwareCall → Option SurfaceId
  | unbind surface => some surface
  | _ => none

/-- A call that neither gets anything nor gives anything back. -/
def isIdle : HardwareCall → Bool
  | allocate _ none | bind _ none | submit .. | pollFailed | register .. => true
  | _ => false

theorem parts_of_isIdle {c : HardwareCall} (hc : c.isIdle = true) :
    c.allocated? = none ∧ c.released? = none ∧ c.bound? = none ∧ c.unbound? = none := by
  cases c with
  | allocate size result =>
    cases result with
    | none => exact ⟨rfl, rfl, rfl, rfl⟩
    | some a => cases hc
  | bind handle result =>
    cases result with
    | none => exact ⟨rfl, rfl, rfl, rfl⟩
    | some surface => cases hc
  | unbind surface => cases hc
  | release handle => cases hc
  | _ => exact ⟨rfl, rfl, rfl, rfl⟩

end Bench.HardwareCall

/-- What the calls of a log have got is as often what they have given back or what is held. -/
structure BalancedLog (log : List HardwareCall) (memory : List AllocationHandle)
    (surfaces : List SurfaceId) : Prop where
  memory_eq (handle : AllocationHandle) :
    (log.filterMap HardwareCall.allocated?).count handle =
      (log.filterMap HardwareCall.released?).count handle + memory.count handle
  surfaces_eq (surface : SurfaceId) :
    (log.filterMap HardwareCall.bound?).count surface =
      (log.filterMap HardwareCall.unbound?).count surface + surfaces.count surface

namespace BalancedLog

variable {log : List HardwareCall} {memory : List AllocationHandle} {surfaces : List SurfaceId}

theorem perm (h : BalancedLog log memory surfaces) {memory' : List AllocationHandle}
    {surfaces' : List SurfaceId} (hmemory : memory.Perm memory')
    (hsurfaces : surfaces.Perm surfaces') : BalancedLog log memory' surfaces' where
  memory_eq handle := by rw [h.memory_eq, hmemory.count_eq]
  surfaces_eq surface := by rw [h.surfaces_eq, hsurfaces.count_eq]

theorem idle (h : BalancedLog log memory surfaces) (calls : List HardwareCall)
    (hcalls : ∀ c ∈ calls, c.isIdle = true) : BalancedLog (log ++ calls) memory surfaces := by
  have hparts := fun c hc => HardwareCall.parts_of_isIdle (hcalls c hc)
  constructor
  · intro handle
    rw [List.filterMap_append, List.filterMap_append,
      List.filterMap_eq_nil_iff.2 fun c hc => (hparts c hc).1,
      List.filterMap_eq_nil_iff.2 fun c hc => (hparts c hc).2.1, List.append_nil, List.append_nil,
      h.memory_eq]
  · intro surface
    rw [List.filterMap_append, List.filterMap_append,
      List.filterMap_eq_nil_iff.2 fun c hc => (hparts c hc).2.2.1,
      List.filterMap_eq_nil_iff.2 fun c hc => (hparts c hc).2.2.2, List.append_nil,
      List.append_nil, h.surfaces_eq]

theorem allocate (h : BalancedLog log memory surfaces) (size : Nat) (handle : AllocationHandle)
    (identity : HardwareIdentity) :
    BalancedLog (log ++ [.allocate size (some (handle, identity))]) (handle :: memory)
      surfaces := by
  constructor
  · intro a
    have hmemory := h.memory_eq a
    simp only [List.filterMap_append, List.count_append, List.count_cons, List.filterMap_cons,
      List.filterMap_nil, HardwareCall.allocated?, HardwareCall.released?, List.count_nil]
    omega
  · intro surface
    have hsurfaces := h.surfaces_eq surface
    simp only [List.filterMap_append, List.filterMap_cons, List.filterMap_nil, HardwareCall.bound?,
      HardwareCall.unbound?, List.append_nil]
    exact hsurfaces

theorem release {handle : AllocationHandle} (h : BalancedLog log (handle :: memory) surfaces) :
    BalancedLog (log ++ [.release handle]) memory surfaces := by
  constructor
  · intro a
    have hmemory := h.memory_eq a
    simp only [List.filterMap_append, List.count_append, List.count_cons, List.filterMap_cons,
      List.filterMap_nil, HardwareCall.allocated?, HardwareCall.released?, List.count_nil]
      at hmemory ⊢
    omega
  · intro surface
    have hsurfaces := h.surfaces_eq surface
    simp only [List.filterMap_append, List.filterMap_cons, List.filterMap_nil, HardwareCall.bound?,
      HardwareCall.unbound?, List.append_nil]
    exact hsurfaces

theorem bind (h : BalancedLog log memory surfaces) (handle : AllocationHandle)
    (surface : SurfaceId) :
    BalancedLog (log ++ [.bind handle (some surface)]) memory (surface :: surfaces) := by
  constructor
  · intro a
    have hmemory := h.memory_eq a
    simp only [List.filterMap_append, List.filterMap_cons, List.filterMap_nil,
      HardwareCall.allocated?, HardwareCall.released?, List.append_nil]
    exact hmemory
  · intro s
    have hsurfaces := h.surfaces_eq s
    simp only [List.filterMap_append, List.count_append, List.count_cons, List.filterMap_cons,
      List.filterMap_nil, HardwareCall.bound?, HardwareCall.unbound?, List.count_nil]
    omega

theorem unbind {surface : SurfaceId} (h : BalancedLog log memory (surface :: surfaces)) :
    BalancedLog (log ++ [.unbind surface]) memory surfaces := by
  constructor
  · intro a
    have hmemory := h.memory_eq a
    simp only [List.filterMap_append, List.filterMap_cons, List.filterMap_nil,
      HardwareCall.allocated?, HardwareCall.released?, List.append_nil]
    exact hmemory
  · intro s
    have hsurfaces := h.surfaces_eq s
    simp only [List.filterMap_append, List.count_append, List.count_cons, List.filterMap_cons,
      List.filterMap_nil, HardwareCall.bound?, HardwareCall.unbound?, List.count_nil]
      at hsurfaces ⊢
    omega

end BalancedLog

/-! ## What a decode stage holds -/

/-- The memory that a change of generation has in hand. -/
def Change.memory : Change → List AllocationHandle
  | unbinding slots _ | allocating _ _ slots | registering _ slots => slots.map (·.handle)
  | releasing handle slots _ => handle :: slots.map (·.handle)
  | binding _ _ built a => a.handle :: built.map (·.handle)
  | _ => []

/-- The surfaces that a change of generation has in hand. -/
def Change.surfaces : Change → List SurfaceId
  | unbinding slots _ | releasing _ slots _ | allocating _ _ slots | binding _ _ slots _
  | registering _ slots => slots.map (·.surface)
  | _ => []

/-- The pool of a stage and what a change of generation has in hand balance the log. -/
def DecodeStage.Balanced {η : Type} (s : DecodeStage (Recorded η)) (change : Option Change) :
    Prop :=
  BalancedLog s.hardware.log
    ((change.map Change.memory).getD [] ++ s.pool.slots.map (·.handle))
    ((change.map Change.surfaces).getD [] ++ s.pool.slots.map (·.surface))

variable {η : Type} [SurfaceAllocator η] [VideoDecoder η]

/-- A step of a change of generation keeps the balance. -/
theorem Change.step_balanced {s : DecodeStage (Recorded η)} {c : Change} (hc : c.Consistent s)
    (h : s.Balanced (some c)) :
    match (c.step s).1 with
    | .ok change => (c.step s).2.Balanced change
    | .error _ => (c.step s).2.Balanced none := by
  cases c with
  | discarding goal => exact h
  | dismantling goal =>
    show BalancedLog _ (s.pool.slots.map _ ++ []) (s.pool.slots.map _ ++ [])
    rw [List.append_nil, List.append_nil]
    exact h
  | unbinding slots goal =>
    cases slots with
    | nil => cases goal <;> exact h
    | cons b slots => exact BalancedLog.unbind h
  | releasing handle slots goal => exact BalancedLog.release h
  | allocating format missing built =>
    cases missing with
    | zero => exact h
    | succ missing =>
      rcases ha : SurfaceAllocator.allocate s.hardware.board format.bufferSize with ⟨e | a, board⟩
      · have hidle := BalancedLog.idle h [.allocate format.bufferSize none]
          (List.forall_mem_singleton.2 rfl)
        simp only [step, SurfaceAllocator.allocate, ha]
        exact hidle
      · have hgot := BalancedLog.allocate h format.bufferSize a.handle a.identity
        rcases hf : built.find? (·.identity == a.identity) with _ | owner
        · simp only [step, SurfaceAllocator.allocate, ha, hf]
          exact hgot
        · simp only [step, SurfaceAllocator.allocate, ha, hf]
          exact hgot
  | binding format missing built a =>
    rcases hb : SurfaceAllocator.bindSurface s.hardware.board a format with ⟨e | surface, board⟩
    · have hidle := BalancedLog.idle h [.bind a.handle none] (List.forall_mem_singleton.2 rfl)
      simp only [step, SurfaceAllocator.bindSurface, hb]
      exact hidle
    · have hgot := BalancedLog.bind h a.handle surface
      simp only [step, SurfaceAllocator.bindSurface, hb]
      let slot : BufferSlot := ⟨built.length, a.identity, surface, a.handle⟩
      refine hgot.perm ?_ ?_
      · show List.Perm (a.handle :: (built.map (·.handle) ++ s.pool.slots.map (·.handle)))
          ((built ++ [slot]).map (·.handle) ++ s.pool.slots.map (·.handle))
        rw [List.map_append, List.append_assoc]
        exact List.perm_middle.symm
      · show List.Perm (surface :: (built.map (·.surface) ++ s.pool.slots.map (·.surface)))
          ((built ++ [slot]).map (·.surface) ++ s.pool.slots.map (·.surface))
        rw [List.map_append, List.append_assoc]
        exact List.perm_middle.symm
  | registering format built =>
    have hempty : s.pool.slots = [] := hc
    have hidle := fun failed => BalancedLog.idle h
      [.register (built.map (FramePool.externalBuffer format)) failed]
      (List.forall_mem_singleton.2 rfl)
    rcases hr : VideoDecoder.registerBuffers s.hardware.board
      (built.map (FramePool.externalBuffer format)) with ⟨e | _, board⟩
    · have hrefused := hidle true
      simp only [step, Recorded.registerBuffers_of_error hr]
      exact hrefused
    · simp only [step, Recorded.registerBuffers_of_ok hr]
      -- the pool was empty, so that nothing is lost when the new buffers come into it
      have hown : ∀ {α : Type} (part : BufferSlot → α),
          built.map part ++ s.pool.slots.map part = [] ++ built.map part := by
        intro α part
        rw [hempty]
        exact List.append_nil _
      have hnew := (hidle false).perm (.of_eq (hown (·.handle))) (.of_eq (hown (·.surface)))
      exact hnew

omit [SurfaceAllocator η] in
/-- A task neither gets anything nor gives anything back; a change that it starts has nothing in
hand yet. -/
theorem StageTask.step_balanced {s : DecodeStage (Recorded η)} (now : Instant) (task : StageTask)
    (h : s.Balanced none) : (task.step now s).2.2.Balanced (task.step now s).1 := by
  cases task with
  | offer u attempts =>
    cases attempts with
    | zero => exact h
    | succ attempts =>
      have hidle := fun answer => BalancedLog.idle h [.submit u.data.length u.pts answer]
        (List.forall_mem_singleton.2 rfl)
      rcases hs : VideoDecoder.submit s.hardware.board u.data u.pts with ⟨e | _ | _, board⟩ <;>
        simp only [step, VideoDecoder.submit, hs] <;> exact hidle _
  | observe u =>
    obtain ⟨hpool, hhardware, -⟩ := s.observe_frame u
    show DecodeStage.Balanced (s.observe u) none
    unfold DecodeStage.Balanced
    rw [hpool, hhardware]
    exact h
  | poll =>
    rcases hp : VideoDecoder.pollEvent s.hardware.board with ⟨e | event, board⟩
    · have hidle := BalancedLog.idle h [.pollFailed] (List.forall_mem_singleton.2 rfl)
      simp only [step, VideoDecoder.pollEvent, hp]
      exact hidle
    · rcases event with _ | _ | ⟨identity, pts⟩ <;>
        simp only [step, VideoDecoder.pollEvent, hp] <;> exact h
  | present identity pts =>
    obtain ⟨hpool, hhardware, -⟩ := s.present_frame now identity pts
    show DecodeStage.Balanced (s.present now identity pts) none
    unfold DecodeStage.Balanced
    rw [hpool, hhardware]
    exact h

namespace StageRun

/-- What a stage has got and not given back is in its pool, or a change of generation has it in
hand. -/
def Balanced (r : StageRun (Recorded η)) : Prop := r.stage.Balanced r.change

theorem Balanced.proceed {r : StageRun (Recorded η)} (hr : r.Sound) (h : r.Balanced)
    (now : Instant) : (r.proceed now).Balanced := by
  obtain ⟨s, change, tasks, op, failure⟩ := r
  cases change with
  | some c =>
    have hstep := Change.step_balanced (s := s) (c := c) (hr.change c rfl) h
    simp only [StageRun.proceed]
    generalize c.step s = result at hstep ⊢
    obtain ⟨e | change, s'⟩ := result
    · exact hstep
    · exact hstep
  | none =>
    cases tasks with
    | nil => exact h
    | cons task rest => exact task.step_balanced now h

omit [SurfaceAllocator η] [VideoDecoder η] in
theorem Balanced.start {r : StageRun (Recorded η)} (h : r.Balanced) (op : StageOperation) :
    (r.start op).Balanced := by
  by_cases hidle : r.Idle
  · have hnone : r.stage.Balanced none := by
      rw [← hidle.1]
      exact h
    rw [StageRun.start, if_pos hidle]
    cases op <;> exact hnone
  · rw [StageRun.start, if_neg hidle]
    exact h

omit [SurfaceAllocator η] [VideoDecoder η] in
/-- A stage at rest with an empty pool has given everything back that it has ever got. -/
theorem Balanced.settled {r : StageRun (Recorded η)} (h : r.Balanced) (hidle : r.Idle)
    (hempty : r.stage.pool.slots = []) : BalancedLog r.stage.hardware.log [] [] := by
  unfold Balanced DecodeStage.Balanced at h
  rw [hidle.1, hempty] at h
  exact h

end StageRun

end VideoReceiver
