import VideoReceiver.Proofs.Pool.Calls

/-!
# The accounts of the frame pool

Whatever the board answers, as long as it does not hand out what it has handed out already, the
memory that is live and the surfaces that are bound are at any time those of the pool's slots.

## Main definitions

- `PoolCommand`: a change of generation
- `OrderlyLog`: nothing is given back that is not held, and never more is bound than a generation
- `Accounted`: what is held is what the slots of a pool say

## Main statements

- `GenerationCalls.leads`: the calls of one generation keep the accounts
- `FramePool.accounted_recordedRun`: so do any number of rebuilds and teardowns
-/

namespace VideoReceiver

open Bench (HardwareCall)

namespace Holdings

/-- What is held when exactly the given slots are. -/
def ofSlots (slots : List BufferSlot) : Holdings :=
  ⟨slots.map (·.handle), slots.map fun s => (s.surface, s.handle)⟩

/-- A call that is permitted and leaves no more than `capacity` surfaces bound. -/
def Orderly (capacity : Nat) (h : Holdings) (c : HardwareCall) : Prop :=
  h.Permits c ∧ (h.step c).bound.length ≤ capacity

end Holdings

/-- Slots that share neither memory nor surfaces. -/
structure SeparateSlots (slots : List BufferSlot) : Prop where
  handles : (slots.map (·.handle)).Nodup
  surfaces : (slots.map (·.surface)).Nodup

theorem SeparateSlots.nil : SeparateSlots [] := ⟨List.nodup_nil, List.nodup_nil⟩

/-- The calls lead, in good order, from holding one list of slots to holding another. -/
structure Leads (capacity : Nat) (slots : List BufferSlot) (calls : List HardwareCall)
    (slots' : List BufferSlot) : Prop where
  foldl_eq : calls.foldl Holdings.step (.ofSlots slots) = .ofSlots slots'
  orderly : Along (Holdings.Orderly capacity) (.ofSlots slots) calls
  separate : SeparateSlots slots'

namespace Leads

variable {capacity : Nat}

theorem refl {slots : List BufferSlot} (h : SeparateSlots slots) : Leads capacity slots [] slots :=
  ⟨rfl, trivial, h⟩

theorem trans {slots₁ slots₂ slots₃ : List BufferSlot} {calls₁ calls₂ : List HardwareCall}
    (h₁ : Leads capacity slots₁ calls₁ slots₂) (h₂ : Leads capacity slots₂ calls₂ slots₃) :
    Leads capacity slots₁ (calls₁ ++ calls₂) slots₃ where
  foldl_eq := by rw [List.foldl_append, h₁.foldl_eq, h₂.foldl_eq]
  orderly := Along.append.2 ⟨h₁.orderly, h₁.foldl_eq ▸ h₂.orderly⟩
  separate := h₂.separate

/-- One buffer more is held once it has been acquired. -/
theorem acquire {slots : List BufferSlot} {s : BufferSlot} {size : Nat}
    (hsep : SeparateSlots slots) (hcap : slots.length < capacity)
    (hfresh : Along Holdings.FreshAnswer (.ofSlots slots) (s.acquireCalls size)) :
    Leads capacity slots (s.acquireCalls size) (slots ++ [s]) := by
  obtain ⟨hhandle, hsurface, -⟩ := hfresh
  refine ⟨?_, ⟨⟨trivial, ?_⟩, ⟨?_, ?_⟩, trivial⟩, ?_, ?_⟩
  · simp [BufferSlot.acquireCalls, Holdings.step, Holdings.ofSlots]
  · simpa [Holdings.step, Holdings.ofSlots] using Nat.le_of_lt hcap
  · simp [Holdings.Permits, Holdings.step]
  · simpa [Holdings.step, Holdings.ofSlots] using Nat.succ_le_of_lt hcap
  · rw [List.map_append, List.map_singleton, ← List.concat_eq_append]
    exact hsep.handles.concat hhandle
  · rw [List.map_append, List.map_singleton, ← List.concat_eq_append]
    refine hsep.surfaces.concat ?_
    simpa [Holdings.FreshAnswer, Holdings.surfaces, Holdings.step, Holdings.ofSlots] using hsurface

theorem acquireAll {slots added : List BufferSlot} {size : Nat} (hsep : SeparateSlots slots)
    (hcap : (slots ++ added).length ≤ capacity)
    (hfresh : Along Holdings.FreshAnswer (.ofSlots slots) (added.flatMap (·.acquireCalls size))) :
    Leads capacity slots (added.flatMap (·.acquireCalls size)) (slots ++ added) := by
  induction added generalizing slots with
  | nil => simpa using refl hsep
  | cons s added ih =>
    rw [List.flatMap_cons, Along.append] at hfresh
    have hlt : slots.length < capacity := by simp at hcap; omega
    have hone : Leads capacity slots (s.acquireCalls size) (slots ++ [s]) :=
      acquire hsep hlt hfresh.1
    rw [List.append_cons] at hcap ⊢
    exact hone.trans (ih hone.separate hcap (hone.foldl_eq ▸ hfresh.2))

/-- One buffer less is held once the first one has been given back. -/
theorem giveBack {s : BufferSlot} {slots : List BufferSlot} (hsep : SeparateSlots (s :: slots))
    (hcap : (s :: slots).length ≤ capacity) :
    Leads capacity (s :: slots) s.returnCalls slots := by
  obtain ⟨hhandles, hsurfaces⟩ := hsep
  rw [List.map_cons, List.nodup_cons] at hhandles hsurfaces
  have hbound : (slots.map fun t => (t.surface, t.handle)).filter (·.1 != s.surface) =
      slots.map fun t => (t.surface, t.handle) := by
    rw [List.filter_eq_self]
    simp only [List.mem_map, forall_exists_index, and_imp, bne_iff_ne]
    rintro _ t ht rfl he
    exact hsurfaces.1 (List.mem_map.2 ⟨t, ht, he⟩)
  have hlive : (slots.map (·.handle)).filter (· != s.handle) = slots.map (·.handle) := by
    rw [List.filter_eq_self]
    intro a ha
    rw [bne_iff_ne]
    rintro rfl
    exact hhandles.1 ha
  have hunbound : (Holdings.ofSlots (s :: slots)).step (.unbind s.surface) =
      ⟨s.handle :: slots.map (·.handle), slots.map fun t => (t.surface, t.handle)⟩ := by
    simp [Holdings.step, Holdings.ofSlots, hbound]
  have hle : slots.length ≤ capacity := Nat.le_of_succ_le hcap
  refine ⟨?_, ⟨⟨?_, ?_⟩, ⟨?_, ?_⟩, trivial⟩, hhandles.2, hsurfaces.2⟩
  · simp only [BufferSlot.returnCalls, List.foldl_cons, List.foldl_nil, hunbound]
    simp [Holdings.step, Holdings.ofSlots, hlive]
  · simp [Holdings.Permits, Holdings.surfaces, Holdings.ofSlots]
  · simpa [hunbound] using hle
  · rw [hunbound]
    refine ⟨List.mem_cons_self, fun surface hm => hhandles.1 ?_⟩
    obtain ⟨t, ht, he⟩ := List.mem_map.1 hm
    exact List.mem_map.2 ⟨t, ht, congrArg Prod.snd he⟩
  · rw [hunbound]
    simpa [Holdings.step] using hle

theorem giveBackAll {slots : List BufferSlot} (hsep : SeparateSlots slots)
    (hcap : slots.length ≤ capacity) :
    Leads capacity slots (slots.flatMap (·.returnCalls)) [] := by
  induction slots with
  | nil => exact refl hsep
  | cons s slots ih =>
    have hone : Leads capacity (s :: slots) s.returnCalls slots := giveBack hsep hcap
    exact hone.trans (ih hone.separate (Nat.le_of_succ_le hcap))

end Leads

/-- Whichever way an acquisition is abandoned, memory that it got is released again. -/
theorem Abandonment.leads {capacity size : Nat} {slots : List BufferSlot}
    {calls : List HardwareCall} (h : Abandonment size calls) (hsep : SeparateSlots slots)
    (hcap : slots.length ≤ capacity) (hfresh : Along Holdings.FreshAnswer (.ofSlots slots) calls) :
    Leads capacity slots calls slots := by
  have hbound : (Holdings.ofSlots slots).bound.length ≤ capacity := by
    simpa [Holdings.ofSlots] using hcap
  -- memory that was not live before, and no surface shows
  have hrelease : ∀ handle, handle ∉ (Holdings.ofSlots slots).live →
      ((Holdings.ofSlots slots).live ++ [handle]).filter (· != handle) =
          (Holdings.ofSlots slots).live ∧
        ∀ surface, (surface, handle) ∉ (Holdings.ofSlots slots).bound := by
    intro handle hnew
    refine ⟨?_, fun surface hm => hnew ?_⟩
    · rw [List.filter_append, List.filter_eq_self.2]
      · simp
      · intro a ha
        rw [bne_iff_ne]
        rintro rfl
        exact hnew ha
    · obtain ⟨t, ht, he⟩ := List.mem_map.1 hm
      exact List.mem_map.2 ⟨t, ht, congrArg Prod.snd he⟩
  cases h with
  | refused => exact ⟨rfl, ⟨⟨trivial, hbound⟩, trivial⟩, hsep⟩
  | duplicate handle identity =>
    obtain ⟨hlive, hshown⟩ := hrelease handle hfresh.1
    refine ⟨?_, ⟨⟨trivial, hbound⟩, ⟨⟨?_, hshown⟩, hbound⟩, trivial⟩, hsep⟩
    · simp [Holdings.step, hlive]
    · simp [Holdings.step]
  | unbindable handle identity =>
    obtain ⟨hlive, hshown⟩ := hrelease handle hfresh.1
    refine ⟨?_, ⟨⟨trivial, hbound⟩, ⟨?_, hbound⟩, ⟨⟨?_, hshown⟩, hbound⟩, trivial⟩, hsep⟩
    · simp [Holdings.step, hlive]
    · simp [Holdings.Permits, Holdings.step]
    · simp [Holdings.step]
  | unregistered buffers => exact ⟨rfl, ⟨⟨trivial, hbound⟩, trivial⟩, hsep⟩

/-- The calls for a generation lead from nothing to its slots. -/
theorem GenerationCalls.leads {capacity size : Nat} {slots : List BufferSlot}
    {calls : List HardwareCall} (h : GenerationCalls capacity size slots calls)
    (hfresh : Along Holdings.FreshAnswer {} calls) :
    Leads capacity [] calls slots ∧ slots.length ≤ capacity := by
  cases h with
  | none => exact ⟨.refl .nil, Nat.zero_le _⟩
  | complete slots buffers hcap =>
    rw [Along.append] at hfresh
    have hall : Leads capacity [] _ slots := Leads.acquireAll .nil hcap hfresh.1
    have hreg : Leads capacity slots [.register buffers false] slots :=
      ⟨rfl, ⟨⟨trivial, by simpa [Holdings.step, Holdings.ofSlots] using hcap⟩, trivial⟩,
        hall.separate⟩
    exact ⟨hall.trans hreg, hcap⟩
  | abandoned slots hcap h =>
    rw [Along.append, Along.append] at hfresh
    have hall : Leads capacity [] _ slots := Leads.acquireAll .nil hcap hfresh.1.1
    have habandon : Leads capacity slots _ slots :=
      h.leads hall.separate hcap (hall.foldl_eq ▸ hfresh.1.2)
    exact ⟨(hall.trans habandon).trans (.giveBackAll hall.separate hcap), Nat.zero_le _⟩

/-! ## Runs of rebuilds and teardowns -/

/-- A change of generation. -/
inductive PoolCommand where
  | rebuild (format : PictureFormat)
  | teardown
  deriving DecidableEq, Repr

namespace FramePool

variable {η : Type} [SurfaceAllocator η] [VideoDecoder η]

/-- Performs a change of generation, whether it succeeds or not. -/
def perform (s : FramePool × η) : PoolCommand → FramePool × η
  | .rebuild format => (s.1.rebuild format s.2).2
  | .teardown => s.1.teardown s.2

/-- Performs changes of generation one after the other. -/
def performAll (s : FramePool × η) (commands : List PoolCommand) : FramePool × η :=
  commands.foldl perform s

theorem board_performAll (p : FramePool) (r : Recorded η) (commands : List PoolCommand) :
    performAll (p, r.board) commands =
      ((performAll (p, r) commands).1, (performAll (p, r) commands).2.board) := by
  induction commands generalizing p r with
  | nil => rfl
  | cons c commands ih =>
    cases c with
    | rebuild format =>
      simp only [performAll, List.foldl_cons, perform, board_rebuild] at ih ⊢
      exact ih _ _
    | teardown =>
      simp only [performAll, List.foldl_cons, perform, teardown, ← board_releaseSlots] at ih ⊢
      exact ih _ _

/-- Every command first gives the old generation back and then makes the calls for one
generation. -/
theorem perform_calls (p : FramePool) (r : Recorded η) (c : PoolCommand) :
    ∃ size calls,
      (perform (p, r) c).2.log = r.log ++ (p.slots.flatMap (·.returnCalls) ++ calls) ∧
      GenerationCalls p.capacity size (perform (p, r) c).1.slots calls := by
  cases c with
  | rebuild format => exact ⟨format.bufferSize, rebuild_calls p format r⟩
  | teardown => exact ⟨0, [], by simp [perform, teardown, log_releaseSlots], .none⟩

theorem capacity_perform (p : FramePool) (h : η) (c : PoolCommand) :
    (perform (p, h) c).1.capacity = p.capacity := by
  cases c with
  | rebuild format => exact capacity_rebuild p format h
  | teardown => rfl

/-- One command leads from the old slots to the new ones. -/
theorem perform_leads (p : FramePool) (r : Recorded η) (c : PoolCommand) :
    ∃ calls, (perform (p, r) c).2.log = r.log ++ calls ∧
      (SeparateSlots p.slots → p.slots.length ≤ p.capacity →
        Along Holdings.FreshAnswer (.ofSlots p.slots) calls →
        Leads p.capacity p.slots calls (perform (p, r) c).1.slots ∧
          (perform (p, r) c).1.slots.length ≤ p.capacity) := by
  obtain ⟨size, calls, hlog, hgen⟩ := perform_calls p r c
  refine ⟨_, hlog, fun hsep hcap hfresh => ?_⟩
  have hback : Leads p.capacity p.slots _ [] := .giveBackAll hsep hcap
  rw [Along.append, hback.foldl_eq] at hfresh
  obtain ⟨hleads, hlen⟩ := hgen.leads hfresh.2
  exact ⟨hback.trans hleads, hlen⟩

/-- Any number of commands lead from the old slots to the new ones. -/
theorem performAll_leads (p : FramePool) (r : Recorded η) (commands : List PoolCommand) :
    ∃ calls, (performAll (p, r) commands).2.log = r.log ++ calls ∧
      (SeparateSlots p.slots → p.slots.length ≤ p.capacity →
        Along Holdings.FreshAnswer (.ofSlots p.slots) calls →
        Leads p.capacity p.slots calls (performAll (p, r) commands).1.slots) := by
  induction commands generalizing p r with
  | nil => exact ⟨[], by simp [performAll], fun hsep _ _ => .refl hsep⟩
  | cons c commands ih =>
    obtain ⟨calls, hlog, hone⟩ := perform_leads p r c
    obtain ⟨later, hlater, hall⟩ := ih (perform (p, r) c).1 (perform (p, r) c).2
    rw [hlog, List.append_assoc] at hlater
    refine ⟨calls ++ later, hlater, fun hsep hcap hfresh => ?_⟩
    rw [Along.append] at hfresh
    obtain ⟨hleads, hlen⟩ := hone hsep hcap hfresh.1
    rw [capacity_perform] at hall
    exact hleads.trans (hall hleads.separate hlen (hleads.foldl_eq ▸ hfresh.2))

end FramePool

/-! ## The accounts -/

/-- A log in which nothing is given back that is not held, nothing is given back twice, memory is
not released while a surface shows it, and no more than `capacity` surfaces are ever bound. -/
structure OrderlyLog (capacity : Nat) (log : List HardwareCall) : Prop where
  permitted : ∀ before c rest, log = before ++ c :: rest → (Holdings.ofLog before).Permits c
  released_once : ∀ a b c handle, log = a ++ .release handle :: b ++ .release handle :: c →
    ∃ size identity, .allocate size (some (handle, identity)) ∈ b
  unbound_once : ∀ a b c surface, log = a ++ .unbind surface :: b ++ .unbind surface :: c →
    ∃ handle, .bind handle (some surface) ∈ b
  bound_le : ∀ before, before <+: log → (Holdings.ofLog before).bound.length ≤ capacity

theorem OrderlyLog.of_along {capacity : Nat} {log : List HardwareCall}
    (h : Along (Holdings.Orderly capacity) {} log) : OrderlyLog capacity log := by
  have hpermits : Along Holdings.Permits {} log := h.imp fun _ _ => And.left
  refine ⟨fun before c rest hl => hpermits.at_split hl,
    fun a b c handle hl => hpermits.allocate_between hl,
    fun a b c surface hl => hpermits.bind_between hl, ?_⟩
  intro before hbefore
  rcases List.eq_nil_or_concat before with rfl | ⟨before, c, rfl⟩
  · exact Nat.zero_le _
  · obtain ⟨rest, hl⟩ := hbefore
    rw [List.concat_eq_append, List.append_assoc, List.singleton_append] at hl
    rw [List.concat_eq_append, Holdings.ofLog_append_singleton]
    exact (h.at_split hl.symm).2

/-- What is live and bound is what the slots of the pool say. -/
structure Accounted (p : FramePool) (log : List HardwareCall) : Prop where
  live_eq : (Holdings.ofLog log).live = p.slots.map (·.handle)
  bound_eq : (Holdings.ofLog log).bound = p.slots.map fun s => (s.surface, s.handle)

namespace FramePool

variable {η : Type} [SurfaceAllocator η] [VideoDecoder η]

/-- A run of commands on a fresh pool over a board under a recorder. -/
def recordedRun (capacity : Nat) (board : η) (commands : List PoolCommand) :
    FramePool × Recorded η :=
  performAll ({ capacity }, { board }) commands

theorem recordedRun_append (capacity : Nat) (board : η) (commands later : List PoolCommand) :
    recordedRun capacity board (commands ++ later) =
      performAll (recordedRun capacity board commands) later := List.foldl_append

theorem recordedRun_leads {capacity : Nat} {board : η} {commands : List PoolCommand}
    (hfresh : Along Holdings.FreshAnswer {} (recordedRun capacity board commands).2.log) :
    Leads capacity [] (recordedRun capacity board commands).2.log
      (recordedRun capacity board commands).1.slots := by
  obtain ⟨calls, hlog, hleads⟩ :=
    performAll_leads { capacity } ({ board } : Recorded η) commands
  rw [List.nil_append] at hlog
  unfold recordedRun at hfresh ⊢
  rw [hlog] at hfresh ⊢
  exact hleads .nil (Nat.zero_le _) hfresh

/-- A part of a run, too, meets a board that does not hand out what it has handed out already. -/
theorem fresh_of_append {capacity : Nat} {board : η} {commands done rest : List PoolCommand}
    (hfresh : Along Holdings.FreshAnswer {} (recordedRun capacity board commands).2.log)
    (hc : commands = done ++ rest) :
    Along Holdings.FreshAnswer {} (recordedRun capacity board done).2.log := by
  obtain ⟨calls, hlog, -⟩ := performAll_leads (recordedRun capacity board done).1
    (recordedRun capacity board done).2 rest
  rw [hc, recordedRun_append, hlog, Along.append] at hfresh
  exact hfresh.1

/-- If the calls of a rebuild ask for something, then everything has been given back by then. -/
theorem returned_before_acquires {slots : List BufferSlot} {calls before after : List HardwareCall}
    {c : HardwareCall} (hc : c.Acquires)
    (h : slots.flatMap (·.returnCalls) ++ calls = before ++ c :: after) :
    slots.flatMap (·.returnCalls) <+: before := by
  rcases List.append_eq_append_iff.1 h with ⟨middle, hbefore, -⟩ | ⟨middle, hback, hcalls⟩
  · exact ⟨middle, hbefore.symm⟩
  · rcases middle with _ | ⟨d, middle⟩
    · have hall : slots.flatMap (·.returnCalls) = before := by rw [hback, List.append_nil]
      exact hall ▸ List.prefix_refl before
    · have hd : c = d := (List.cons.inj hcalls).1
      have hmem : c ∈ slots.flatMap (·.returnCalls) := by
        rw [hback, hd]
        exact List.mem_append_right _ List.mem_cons_self
      obtain ⟨s, -, hs⟩ := List.mem_flatMap.1 hmem
      simp only [BufferSlot.returnCalls, List.mem_cons, List.not_mem_nil, or_false] at hs
      rcases hs with rfl | rfl <;> exact hc.elim

/-- **The accounts of the pool.** Rebuilds and teardowns in any order run on a board that does not
hand out what it has handed out already, and that may refuse any call. The recorder changes nothing.
No call gives back what is not held, or gives anything back twice, or releases memory that a
surface shows, and never more than one generation is bound. After every command exactly the memory
and the surfaces of the slots are held. A rebuild asks for nothing before everything has been given
back. -/
theorem accounted_recordedRun (capacity : Nat) (board : η) (commands : List PoolCommand)
    (hfresh : Along Holdings.FreshAnswer {} (recordedRun capacity board commands).2.log) :
    performAll ({ capacity }, board) commands =
        ((recordedRun capacity board commands).1, (recordedRun capacity board commands).2.board) ∧
      OrderlyLog capacity (recordedRun capacity board commands).2.log ∧
      (∀ done rest, commands = done ++ rest →
        Accounted (recordedRun capacity board done).1 (recordedRun capacity board done).2.log) ∧
      ∀ done format rest, commands = done ++ .rebuild format :: rest →
        ∃ calls,
          (recordedRun capacity board (done ++ [.rebuild format])).2.log =
            (recordedRun capacity board done).2.log ++ calls ∧
          ∀ before c after, calls = before ++ c :: after → c.Acquires →
            ∃ returned, returned <+: before ∧
              Holdings.ofLog ((recordedRun capacity board done).2.log ++ returned) = {} := by
  refine ⟨board_performAll { capacity } { board } commands,
    .of_along (recordedRun_leads hfresh).orderly, ?_, ?_⟩
  · intro done rest hc
    have hleads := recordedRun_leads (fresh_of_append hfresh hc)
    exact ⟨congrArg Holdings.live hleads.foldl_eq, congrArg Holdings.bound hleads.foldl_eq⟩
  · intro done format rest hc
    have hleads := recordedRun_leads (fresh_of_append hfresh hc)
    obtain ⟨calls, hlog, -⟩ := rebuild_calls (recordedRun capacity board done).1 format
      (recordedRun capacity board done).2
    refine ⟨_, by rw [recordedRun_append]; exact hlog, fun before c after hsplit hacq => ?_⟩
    refine ⟨_, returned_before_acquires hacq hsplit, ?_⟩
    rw [Holdings.ofLog_append]
    have hheld : Holdings.ofLog (recordedRun capacity board done).2.log =
        .ofSlots (recordedRun capacity board done).1.slots := hleads.foldl_eq
    rw [hheld]
    exact (Leads.giveBackAll hleads.separate (Nat.le_refl _)).foldl_eq

/-- The second of two generations of two buffers cannot be completed, since its last surface cannot
be bound. -/
theorem accounted_unbindable_generation :
    Along Holdings.FreshAnswer {} (recordedRun 2 ({ failBindingAfter := some 3 } : Bench.Board)
        (List.replicate 2 (.rebuild (.unpadded 64 48 .nv12)))).2.log ∧
      OrderlyLog 2 (recordedRun 2 ({ failBindingAfter := some 3 } : Bench.Board)
        (List.replicate 2 (.rebuild (.unpadded 64 48 .nv12)))).2.log := by
  have hfresh : Along Holdings.FreshAnswer {}
      (recordedRun 2 ({ failBindingAfter := some 3 } : Bench.Board)
        (List.replicate 2 (.rebuild (.unpadded 64 48 .nv12)))).2.log := by decide +kernel
  exact ⟨hfresh, (accounted_recordedRun 2 _ _ hfresh).2.1⟩

end FramePool

end VideoReceiver
