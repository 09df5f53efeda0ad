import VideoReceiver.Proofs.Pool.Accounting

/-!
# Complete generations

A rebuild leaves the pool with a complete generation, which the decoder has been told about as it
is, or with nothing. The identities of a generation are distinct, so that a slot can be told by its
identity.

## Main definitions

- `Indexed`: slots in order, each with an identity of its own
- `RebuildEnd`: the ways a rebuild ends, with the calls it has made by then

## Main statements

- `FramePool.buildSlots_indexed`: the slots that a build leaves are indexed
- `FramePool.rebuild_ends`: every rebuild ends in one of these ways
- `FramePool.resolve_eq_some_iff`: from identities to slots and back
- `FramePool.generation_law`: what holds after any number of rebuilds and teardowns
-/

namespace VideoReceiver

open Bench (HardwareCall)

/-! ## Slots in order -/

/-- Every slot carries its position as its index and an identity that no other slot has. -/
structure Indexed (slots : List BufferSlot) : Prop where
  indices : slots.map (·.index) = List.range slots.length
  identities : (slots.map (·.identity)).Nodup

namespace Indexed

theorem nil : Indexed [] := ⟨rfl, List.nodup_nil⟩

/-- A slot joins at the end if no slot is found under its identity. -/
theorem concat {slots : List BufferSlot} (h : Indexed slots) {slot : BufferSlot}
    (hindex : slot.index = slots.length)
    (hnew : slots.find? (·.identity == slot.identity) = none) : Indexed (slots ++ [slot]) where
  indices := by
    rw [List.map_append, List.map_singleton, h.indices, hindex, List.length_append,
      List.length_singleton, List.range_succ]
  identities := by
    rw [List.map_append, List.map_singleton, ← List.concat_eq_append]
    refine h.identities.concat fun hmem => ?_
    obtain ⟨owner, howner, heq⟩ := List.mem_map.1 hmem
    exact List.find?_eq_none.1 hnew owner howner (beq_iff_eq.2 heq)

end Indexed

namespace FramePool

/-! ## From identities to slots -/

/-- A slot is found under its own identity and under no other one. -/
theorem resolve_eq_some_iff {p : FramePool} (h : Indexed p.slots) (identity : HardwareIdentity)
    (index : Nat) :
    p.resolve identity = some index ↔
      ∃ slot, p.slot? index = some slot ∧ slot.identity = identity := by
  rw [resolve, slot?, List.findIdx?_eq_some_iff_getElem]
  constructor
  · rintro ⟨hlt, hfound, -⟩
    exact ⟨p.slots[index], List.getElem?_eq_getElem hlt, beq_iff_eq.1 hfound⟩
  · rintro ⟨slot, hslot, rfl⟩
    obtain ⟨hlt, rfl⟩ := List.getElem?_eq_some_iff.1 hslot
    refine ⟨hlt, beq_self_eq_true _, fun j hj hfound => ?_⟩
    -- an earlier slot would have the same identity
    have hne := List.pairwise_iff_getElem.1 (List.pairwise_map.1 h.identities) j index
      (Nat.lt_trans hj hlt) hlt hj
    exact hne (beq_iff_eq.1 hfound)

theorem exists_mem_of_resolve {p : FramePool} {identity : HardwareIdentity} {index : Nat}
    (h : p.resolve identity = some index) : ∃ slot ∈ p.slots, slot.identity = identity := by
  obtain ⟨hlt, hfound, -⟩ := List.findIdx?_eq_some_iff_getElem.1 h
  exact ⟨p.slots[index], List.getElem_mem hlt, beq_iff_eq.1 hfound⟩

/-! ## Building a generation -/

section Build

variable {η : Type} [SurfaceAllocator η]

/-- A build adds indexed slots to indexed slots: as many as were missing, or fewer if it fails. -/
theorem buildSlots_indexed (format : PictureFormat) (missing : Nat) {built : List BufferSlot}
    (hbuilt : Indexed built) (board : η) :
    Indexed (buildSlots format missing built board).2.1 ∧
      match (buildSlots format missing built board).1 with
      | .ok () => (buildSlots format missing built board).2.1.length = built.length + missing
      | .error _ =>
        (buildSlots format missing built board).2.1.length < built.length + missing := by
  fun_induction buildSlots format missing built board with
  | case1 built board => exact ⟨hbuilt, rfl⟩
  | case2 missing built board e board₁ ha =>
    exact ⟨hbuilt, Nat.lt_add_of_pos_right missing.succ_pos⟩
  | case3 missing built board a board₁ ha owner hf =>
    exact ⟨hbuilt, Nat.lt_add_of_pos_right missing.succ_pos⟩
  | case4 missing built board a board₁ ha hf e board₂ hb =>
    exact ⟨hbuilt, Nat.lt_add_of_pos_right missing.succ_pos⟩
  | case5 missing built board a board₁ ha hf surface board₂ hb ih =>
    have hlen : (built ++ [(⟨built.length, a.identity, surface, a.handle⟩ : BufferSlot)]).length +
        missing = built.length + (missing + 1) := by
      rw [List.length_append, List.length_singleton, Nat.add_assoc, Nat.add_comm 1]
    rw [hlen] at ih
    exact ih (hbuilt.concat rfl hf)

end Build

end FramePool

/-! ## The end of a rebuild -/

/-- What the decoder is told by a call, and whether it refuses. -/
def Bench.HardwareCall.registration? : HardwareCall → Option (List ExternalBuffer × Bool)
  | register buffers failed => some (buffers, failed)
  | _ => none

/-- How a rebuild ends: its outcome, the pool that it leaves, and the calls that it has made after
the return of the old generation. -/
inductive RebuildEnd (p : FramePool) (format : PictureFormat) :
    Except ReceiverError Unit → FramePool → List HardwareCall → Prop
  /-- The generation is complete, and the decoder has been told exactly its slots. -/
  | complete (slots : List BufferSlot) (hlen : slots.length = p.capacity) (h : Indexed slots) :
      RebuildEnd p format (.ok ())
        { p with slots, format := some format, generation := p.generation + 1 }
        (slots.flatMap (·.acquireCalls format.bufferSize) ++
          [.register (slots.map (FramePool.externalBuffer format)) false])
  /-- The decoder has refused a complete generation. -/
  | unregistered (e : ReceiverError) (slots : List BufferSlot) (hlen : slots.length = p.capacity)
      (h : Indexed slots) :
      RebuildEnd p format (.error e) { p with slots := [], format := none }
        (slots.flatMap (·.acquireCalls format.bufferSize) ++
          [.register (slots.map (FramePool.externalBuffer format)) true] ++
          slots.flatMap (·.returnCalls))
  /-- A slot could not be had, and the decoder has been told nothing. -/
  | unbuilt (e : ReceiverError) (slots : List BufferSlot) {calls : List HardwareCall}
      (hlen : slots.length < p.capacity) (h : Indexed slots)
      (habandon : Abandonment format.bufferSize calls)
      (hsilent : ∀ c ∈ calls, c.registration? = none) :
      RebuildEnd p format (.error e) { p with slots := [], format := none }
        (slots.flatMap (·.acquireCalls format.bufferSize) ++ calls ++
          slots.flatMap (·.returnCalls))

namespace Recorded

variable {η : Type} [SurfaceAllocator η] {r r' : Recorded η}

/-- What the decoder has been told so far. -/
def told (r : Recorded η) : List (List ExternalBuffer × Bool) :=
  r.log.filterMap HardwareCall.registration?

theorem told_allocate {size : Nat} {answer : Except ReceiverError Allocation}
    (h : SurfaceAllocator.allocate r size = (answer, r')) : r'.told = r.told := by
  rcases ha : SurfaceAllocator.allocate r.board size with ⟨e | a, board⟩ <;>
    simp only [SurfaceAllocator.allocate, ha, Prod.mk.injEq] at h <;>
    obtain ⟨-, rfl⟩ := h <;> simp [told, HardwareCall.registration?]

theorem told_bindSurface {a : Allocation} {format : PictureFormat}
    {answer : Except ReceiverError SurfaceId}
    (h : SurfaceAllocator.bindSurface r a format = (answer, r')) : r'.told = r.told := by
  rcases hb : SurfaceAllocator.bindSurface r.board a format with ⟨e | surface, board⟩ <;>
    simp only [SurfaceAllocator.bindSurface, hb, Prod.mk.injEq] at h <;>
    obtain ⟨-, rfl⟩ := h <;> simp [told, HardwareCall.registration?]

theorem told_release (r : Recorded η) (handle : AllocationHandle) :
    (SurfaceAllocator.release r handle).told = r.told := by
  simp [told, SurfaceAllocator.release, HardwareCall.registration?]

end Recorded

namespace FramePool

variable {η : Type} [SurfaceAllocator η]

/-- A build tells the decoder nothing. -/
theorem told_buildSlots (format : PictureFormat) (missing : Nat) (built : List BufferSlot)
    (r : Recorded η) : (buildSlots format missing built r).2.2.told = r.told := by
  fun_induction buildSlots format missing built r with
  | case1 built r => rfl
  | case2 missing built r e r₁ ha => exact Recorded.told_allocate ha
  | case3 missing built r a r₁ ha owner hf =>
    exact (Recorded.told_release r₁ a.handle).trans (Recorded.told_allocate ha)
  | case4 missing built r a r₁ ha hf e r₂ hb =>
    exact (Recorded.told_release r₂ a.handle).trans
      ((Recorded.told_bindSurface hb).trans (Recorded.told_allocate ha))
  | case5 missing built r a r₁ ha hf surface r₂ hb ih =>
    exact ih.trans ((Recorded.told_bindSurface hb).trans (Recorded.told_allocate ha))

variable [VideoDecoder η]

/-- Every rebuild gives the old generation back and then ends in one of three ways. -/
theorem rebuild_ends (p : FramePool) (format : PictureFormat) (r : Recorded η) :
    ∃ calls,
      (p.rebuild format r).2.2.log = r.log ++ (p.slots.flatMap (·.returnCalls) ++ calls) ∧
      RebuildEnd p format (p.rebuild format r).1 (p.rebuild format r).2.1 calls := by
  obtain ⟨added, calls, hbuilt, hlog, -, hout⟩ :=
    buildSlots_calls format p.capacity [] (releaseSlots r p.slots : Recorded η)
  obtain ⟨hindexed, hlen⟩ :=
    buildSlots_indexed format p.capacity Indexed.nil (releaseSlots r p.slots : Recorded η)
  have htold := told_buildSlots format p.capacity [] (releaseSlots r p.slots : Recorded η)
  rcases hb : buildSlots format p.capacity [] (releaseSlots r p.slots : Recorded η) with
    ⟨outcome, built, r'⟩
  rw [hb] at htold
  simp only [hb, List.nil_append, List.length_nil, Nat.zero_add] at hbuilt hlog hout hindexed hlen
  subst hbuilt
  cases outcome with
  | error e =>
    rw [rebuild_of_unbuilt hb]
    refine ⟨_, ?_, .unbuilt e built hlen hindexed hout ?_⟩
    · simp [log_releaseSlots, hlog]
    · -- what is in the log besides the calls of the slots tells nothing either
      rw [Recorded.told, hlog, List.filterMap_append, List.filterMap_append] at htold
      have hnothing := List.append_right_eq_self.1 htold
      exact List.filterMap_eq_nil_iff.1 (List.append_eq_nil_iff.1 hnothing).2
  | ok =>
    subst hout
    rcases hr : VideoDecoder.registerBuffers r'.board (built.map (externalBuffer format)) with
      ⟨e | _, board⟩
    · rw [rebuild_of_unregistered hb (Recorded.registerBuffers_of_error hr)]
      refine ⟨_, ?_, .unregistered e built hlen hindexed⟩
      simp [log_releaseSlots, hlog]
    · rw [rebuild_of_registered hb (Recorded.registerBuffers_of_ok hr)]
      refine ⟨_, ?_, .complete built hlen hindexed⟩
      simp [log_releaseSlots, hlog]

end FramePool

/-- Whatever has happened, the slots are indexed. -/
theorem RebuildEnd.indexed {p p' : FramePool} {format : PictureFormat}
    {outcome : Except ReceiverError Unit} {calls : List HardwareCall}
    (h : RebuildEnd p format outcome p' calls) : Indexed p'.slots := by
  cases h with
  | complete slots hlen h => exact h
  | unregistered => exact .nil
  | unbuilt => exact .nil

/-- The identity of a slot has been handed out for it. -/
theorem RebuildEnd.allocate_mem {p p' : FramePool} {format : PictureFormat}
    {outcome : Except ReceiverError Unit} {calls : List HardwareCall}
    (h : RebuildEnd p format outcome p' calls) {slot : BufferSlot} (hslot : slot ∈ p'.slots) :
    .allocate format.bufferSize (some (slot.handle, slot.identity)) ∈ calls := by
  cases h with
  | complete slots hlen h =>
    refine List.mem_append_left _ (List.mem_flatMap.2 ⟨slot, hslot, ?_⟩)
    exact List.mem_cons_self
  | unregistered => cases hslot
  | unbuilt => cases hslot

namespace FramePool

variable {η : Type} [SurfaceAllocator η] [VideoDecoder η]

theorem indexed_recordedRun (capacity : Nat) (board : η) (commands : List PoolCommand) :
    Indexed (recordedRun capacity board commands).1.slots := by
  induction commands using List.reverseRecOn with
  | nil => exact .nil
  | append_singleton commands c ih =>
    rw [recordedRun_append]
    cases c with
    | rebuild format =>
      obtain ⟨calls, -, hend⟩ := rebuild_ends (recordedRun capacity board commands).1 format
        (recordedRun capacity board commands).2
      exact hend.indexed
    | teardown => exact .nil

theorem capacity_recordedRun (capacity : Nat) (board : η) (commands : List PoolCommand) :
    (recordedRun capacity board commands).1.capacity = capacity := by
  induction commands using List.reverseRecOn with
  | nil => rfl
  | append_singleton commands c ih =>
    rw [recordedRun_append]
    exact (capacity_perform _ _ c).trans ih

/-- If the pool has a slot, then the latest command was a rebuild, which has allocated its
memory. -/
theorem allocate_of_mem_slots {capacity : Nat} {board : η} {commands : List PoolCommand}
    {slot : BufferSlot} (hslot : slot ∈ (recordedRun capacity board commands).1.slots) :
    ∃ earlier format calls, commands = earlier ++ [.rebuild format] ∧
      (recordedRun capacity board commands).2.log =
        (recordedRun capacity board earlier).2.log ++ calls ∧
      .allocate format.bufferSize (some (slot.handle, slot.identity)) ∈ calls := by
  rcases List.eq_nil_or_concat commands with rfl | ⟨earlier, c, rfl⟩
  · cases hslot
  · rw [List.concat_eq_append, recordedRun_append] at hslot ⊢
    cases c with
    | rebuild format =>
      obtain ⟨calls, hlog, hend⟩ := rebuild_ends (recordedRun capacity board earlier).1 format
        (recordedRun capacity board earlier).2
      exact ⟨earlier, format, _, rfl, hlog, List.mem_append_right _ (hend.allocate_mem hslot)⟩
    | teardown => cases hslot

/-- **Generations are complete, or there is none.** After any rebuilds and teardowns on any board:
a rebuild ends with a complete generation that the decoder has been told about as it is, or with an
empty pool after everything has been given back, and then the decoder has been told nothing unless
the generation was complete. A teardown leaves an empty pool and tells the decoder nothing. At any
time a slot is found under its own identity and under no other one; so an identity is found only if
the latest command was a rebuild that was handed it. -/
theorem generation_law (capacity : Nat) (board : η) (commands : List PoolCommand) :
    let p := (recordedRun capacity board commands).1
    let r := (recordedRun capacity board commands).2
    performAll ({ capacity }, board) commands = (p, r.board) ∧ p.capacity = capacity ∧
      (∀ format, ∃ calls,
        p.rebuild format r.board =
            ((p.rebuild format r).1, (p.rebuild format r).2.1, (p.rebuild format r).2.2.board) ∧
          (p.rebuild format r).2.2.log = r.log ++ (p.slots.flatMap (·.returnCalls) ++ calls) ∧
          RebuildEnd p format (p.rebuild format r).1 (p.rebuild format r).2.1 calls) ∧
      (p.teardown r).1 = { p with slots := [], format := none } ∧
      (p.teardown r).2.log = r.log ++ p.slots.flatMap (·.returnCalls) ∧
      (∀ identity index, p.resolve identity = some index ↔
        ∃ slot, p.slot? index = some slot ∧ slot.identity = identity) ∧
      ∀ identity index, p.resolve identity = some index →
        ∃ earlier format calls handle, commands = earlier ++ [.rebuild format] ∧
          r.log = (recordedRun capacity board earlier).2.log ++ calls ∧
          .allocate format.bufferSize (some (handle, identity)) ∈ calls := by
  intro p r
  refine ⟨board_performAll { capacity } { board } commands,
    capacity_recordedRun capacity board commands, fun format => ?_, rfl,
    log_releaseSlots r p.slots,
    resolve_eq_some_iff (indexed_recordedRun capacity board commands), fun identity index h => ?_⟩
  · obtain ⟨calls, hlog, hend⟩ := rebuild_ends p format r
    exact ⟨calls, board_rebuild p format r, hlog, hend⟩
  · obtain ⟨slot, hslot, rfl⟩ := exists_mem_of_resolve h
    obtain ⟨earlier, format, calls, hcommands, hlog, hmem⟩ := allocate_of_mem_slots hslot
    exact ⟨earlier, format, calls, slot.handle, hcommands, hlog, hmem⟩

/-- Two generations swap their identities: each of them is found where it has been handed out
last. -/
example :
    let p := (recordedRun 2 ({ identities := [⟨7⟩, ⟨8⟩, ⟨8⟩, ⟨7⟩] } : Bench.Board)
      (List.replicate 2 (.rebuild (.unpadded 64 48 .nv12)))).1
    p.resolve ⟨7⟩ = some 1 ∧ p.resolve ⟨8⟩ = some 0 ∧ p.generation = 2 := by
  decide +kernel

end FramePool

end VideoReceiver
