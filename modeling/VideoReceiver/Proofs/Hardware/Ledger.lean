import VideoReceiver.Bench.Board
import Mathlib.Data.List.Induction
import Mathlib.Data.List.Nodup

/-!
# The hardware ledger

What a board holds is read off the calls that were made to it: a piece of memory is live from its
allocation to its release, and a surface is bound from its binding to its unbinding. Any board can
be put under a recorder that keeps the calls; the recorder answers as the board does.

## Main definitions

- `Holdings`: the live allocations and the bound surfaces, with the effect of a call on them
- `Holdings.Permits`: nothing is given back that is not held
- `Along`: a property of every call of a log, given what is held before it
- `Recorded`: a board under a recorder
-/

namespace VideoReceiver

open Bench (HardwareCall)

/-- What a sequence of calls leaves allocated and bound. -/
structure Holdings where
  /-- The memory that has been allocated and not released. -/
  live : List AllocationHandle := []
  /-- The surfaces that have been bound and not unbound, each with the memory that it shows. -/
  bound : List (SurfaceId × AllocationHandle) := []
  deriving DecidableEq, Repr

namespace Holdings

/-- The bound surfaces. -/
def surfaces (h : Holdings) : List SurfaceId := h.bound.map Prod.fst

/-- The effect of a call. A call that failed has none. -/
def step (h : Holdings) : HardwareCall → Holdings
  | .allocate _ (some (handle, _)) => { h with live := h.live ++ [handle] }
  | .bind handle (some surface) => { h with bound := h.bound ++ [(surface, handle)] }
  | .unbind surface => { h with bound := h.bound.filter (·.1 != surface) }
  | .release handle => { h with live := h.live.filter (· != handle) }
  | _ => h

/-- What is held after the calls of a log, if nothing was held before. -/
def ofLog (log : List HardwareCall) : Holdings := log.foldl step {}

@[simp] theorem ofLog_nil : ofLog [] = {} := rfl

theorem ofLog_append (log calls : List HardwareCall) :
    ofLog (log ++ calls) = calls.foldl step (ofLog log) := List.foldl_append

@[simp] theorem ofLog_append_singleton (log : List HardwareCall) (c : HardwareCall) :
    ofLog (log ++ [c]) = (ofLog log).step c := by
  simp [ofLog_append]

/-- The answer of a successful call names something that is not held yet. -/
def FreshAnswer (h : Holdings) : HardwareCall → Prop
  | .allocate _ (some (handle, _)) => handle ∉ h.live
  | .bind _ (some surface) => surface ∉ h.surfaces
  | _ => True

instance (h : Holdings) : DecidablePred h.FreshAnswer := fun c => by
  unfold FreshAnswer; split <;> infer_instance

/-- Memory is bound and released only while it is live, a surface is unbound only while it is
bound, and memory is not released while a surface shows it. -/
def Permits (h : Holdings) : HardwareCall → Prop
  | .bind handle _ => handle ∈ h.live
  | .unbind surface => surface ∈ h.surfaces
  | .release handle => handle ∈ h.live ∧ ∀ surface, (surface, handle) ∉ h.bound
  | _ => True

end Holdings

/-- A call that asks for something, whether it is had or not. -/
def Bench.HardwareCall.Acquires : HardwareCall → Prop
  | .allocate .. | .bind .. => True
  | _ => False

/-- Every call of a log has a property, given what is held before it. -/
def Along (P : Holdings → HardwareCall → Prop) : Holdings → List HardwareCall → Prop
  | _, [] => True
  | h, c :: cs => P h c ∧ Along P (h.step c) cs

namespace Along

variable {P : Holdings → HardwareCall → Prop}

instance decidable [∀ h, DecidablePred (P h)] :
    (h : Holdings) → (log : List HardwareCall) → Decidable (Along P h log)
  | _, [] => .isTrue trivial
  | h, c :: cs =>
    have := decidable (h.step c) cs
    inferInstanceAs (Decidable (P h c ∧ Along P (h.step c) cs))

theorem append {h : Holdings} {log calls : List HardwareCall} :
    Along P h (log ++ calls) ↔ Along P h log ∧ Along P (log.foldl Holdings.step h) calls := by
  induction log generalizing h with
  | nil => simp [Along]
  | cons c cs ih => simp [Along, ih, and_assoc]

theorem imp {Q : Holdings → HardwareCall → Prop} (hPQ : ∀ h c, P h c → Q h c) {h : Holdings}
    {log : List HardwareCall} (hP : Along P h log) : Along Q h log := by
  induction log generalizing h with
  | nil => trivial
  | cons c cs ih => exact ⟨hPQ h c hP.1, ih hP.2⟩

theorem at_split {h : Holdings} {log : List HardwareCall} (hP : Along P h log)
    {before : List HardwareCall} {c : HardwareCall} {rest : List HardwareCall}
    (hl : log = before ++ c :: rest) : P (before.foldl Holdings.step h) c := by
  subst hl
  exact (append.1 hP).2.1

end Along

/-! ## Giving back at most once -/

theorem Holdings.mem_live_of_foldl {h : Holdings} {calls : List HardwareCall}
    {handle : AllocationHandle} (hm : handle ∈ (calls.foldl step h).live) :
    handle ∈ h.live ∨ ∃ size identity, .allocate size (some (handle, identity)) ∈ calls := by
  induction calls generalizing h with
  | nil => exact .inl hm
  | cons c cs ih =>
    rcases ih hm with hlive | ⟨size, identity, hc⟩
    · cases c with
      | allocate size result =>
        rcases result with _ | ⟨a, identity⟩
        · exact .inl hlive
        · rcases List.mem_append.1 hlive with hl | hl
          · exact .inl hl
          · rw [List.mem_singleton] at hl
            subst hl
            exact .inr ⟨size, identity, List.mem_cons_self⟩
      | bind a result => cases result <;> exact .inl hlive
      | release a => exact .inl (List.mem_filter.1 hlive).1
      | _ => exact .inl hlive
    · exact .inr ⟨size, identity, List.mem_cons_of_mem _ hc⟩

/-- A surface stays bound until it is unbound. -/
theorem Holdings.mem_surfaces_step {h : Holdings} {c : HardwareCall} {surface : SurfaceId}
    (hm : surface ∈ h.surfaces) (hc : c ≠ .unbind surface) : surface ∈ (h.step c).surfaces := by
  cases c with
  | allocate size result => rcases result with _ | ⟨a, identity⟩ <;> exact hm
  | bind a result =>
    rcases result with _ | s
    · exact hm
    · simp only [surfaces, step, List.map_append]
      exact List.mem_append_left _ hm
  | unbind s =>
    obtain ⟨p, hp, rfl⟩ := List.mem_map.1 hm
    have hne : p.1 ≠ s := by
      rintro rfl
      exact hc rfl
    exact List.mem_map_of_mem (List.mem_filter.2 ⟨hp, bne_iff_ne.2 hne⟩)
  | _ => exact hm

theorem Holdings.mem_surfaces_of_foldl {h : Holdings} {calls : List HardwareCall}
    {surface : SurfaceId} (hm : surface ∈ (calls.foldl step h).surfaces) :
    surface ∈ h.surfaces ∨ ∃ handle, .bind handle (some surface) ∈ calls := by
  induction calls generalizing h with
  | nil => exact .inl hm
  | cons c cs ih =>
    rcases ih hm with hbound | ⟨handle, hc⟩
    · cases c with
      | allocate size result => rcases result with _ | ⟨a, identity⟩ <;> exact .inl hbound
      | bind a result =>
        rcases result with _ | s
        · exact .inl hbound
        · simp only [surfaces, step, List.map_append, List.map_cons, List.map_nil,
            List.mem_append, List.mem_singleton] at hbound
          rcases hbound with hb | rfl
          · exact .inl hb
          · exact .inr ⟨a, List.mem_cons_self⟩
      | unbind s =>
        obtain ⟨p, hp, rfl⟩ := List.mem_map.1 hbound
        exact .inl (List.mem_map.2 ⟨p, (List.mem_filter.1 hp).1, rfl⟩)
      | _ => exact .inl hbound
    · exact .inr ⟨handle, List.mem_cons_of_mem _ hc⟩

/-- A bound surface stays bound unless it is unbound and not handed out again afterwards. -/
theorem Holdings.mem_surfaces_foldl_iff {h : Holdings} {calls : List HardwareCall}
    {surface : SurfaceId} (hm : surface ∈ h.surfaces) :
    surface ∈ (calls.foldl step h).surfaces ↔
      ∀ a b, calls = a ++ .unbind surface :: b → ∃ handle, .bind handle (some surface) ∈ b := by
  constructor
  · rintro hlater a b rfl
    rw [List.foldl_append, List.foldl_cons] at hlater
    rcases mem_surfaces_of_foldl hlater with hback | hbind
    · simp [step, surfaces] at hback
    · exact hbind
  · intro hagain
    induction calls using List.reverseRecOn with
    | nil => exact hm
    | append_singleton calls c ih =>
      rw [List.foldl_append, List.foldl_cons, List.foldl_nil]
      by_cases hunbind : c = .unbind surface
      · subst hunbind
        obtain ⟨handle, hnil⟩ := hagain calls [] rfl
        cases hnil
      by_cases hbind : ∃ handle, c = .bind handle (some surface)
      · obtain ⟨handle, rfl⟩ := hbind
        simp [step, surfaces]
      -- any other call leaves the surface as it is
      refine mem_surfaces_step (ih fun a b hab => ?_) hunbind
      obtain ⟨handle, hmem⟩ := hagain a (b ++ [c]) (by simp [hab])
      rcases List.mem_append.1 hmem with hb | hc
      · exact ⟨handle, hb⟩
      · exact absurd ⟨handle, (List.mem_singleton.1 hc).symm⟩ hbind

/-- If only live memory is released, then between two releases of a handle lies an allocation that
returned it: each allocation is released at most once. -/
theorem Along.allocate_between {log a b c : List HardwareCall} {handle : AllocationHandle}
    (hp : Along Holdings.Permits {} log)
    (hl : log = a ++ .release handle :: b ++ .release handle :: c) :
    ∃ size identity, .allocate size (some (handle, identity)) ∈ b := by
  have hlive := (hp.at_split hl).1
  rw [List.foldl_append, List.foldl_cons] at hlive
  rcases Holdings.mem_live_of_foldl hlive with h | h
  · simp [Holdings.step] at h
  · exact h

/-- If only bound surfaces are unbound, then between two unbindings of a surface lies a binding
that returned it: each binding is undone at most once. -/
theorem Along.bind_between {log a b c : List HardwareCall} {surface : SurfaceId}
    (hp : Along Holdings.Permits {} log)
    (hl : log = a ++ .unbind surface :: b ++ .unbind surface :: c) :
    ∃ handle, .bind handle (some surface) ∈ b := by
  have hbound : surface ∈ Holdings.surfaces _ := hp.at_split hl
  rw [List.foldl_append, List.foldl_cons] at hbound
  rcases Holdings.mem_surfaces_of_foldl hbound with h | h
  · simp [Holdings.step, Holdings.surfaces] at h
  · exact h

/-! ## Recording -/

/-- A board under a recorder. -/
structure Recorded (η : Type) where
  board : η
  /-- The calls that were made, in order. -/
  log : List HardwareCall := []

namespace Recorded

variable {η : Type}

instance [SurfaceAllocator η] : SurfaceAllocator (Recorded η) where
  allocate r size :=
    match SurfaceAllocator.allocate r.board size with
    | (.ok a, board) => (.ok a, ⟨board, r.log ++ [.allocate size (some (a.handle, a.identity))]⟩)
    | (.error e, board) => (.error e, ⟨board, r.log ++ [.allocate size none]⟩)
  bindSurface r a format :=
    match SurfaceAllocator.bindSurface r.board a format with
    | (.ok surface, board) => (.ok surface, ⟨board, r.log ++ [.bind a.handle (some surface)]⟩)
    | (.error e, board) => (.error e, ⟨board, r.log ++ [.bind a.handle none]⟩)
  unbindSurface r surface :=
    ⟨SurfaceAllocator.unbindSurface r.board surface, r.log ++ [.unbind surface]⟩
  release r handle := ⟨SurfaceAllocator.release r.board handle, r.log ++ [.release handle]⟩

instance [VideoDecoder η] : VideoDecoder (Recorded η) where
  submit r data pts :=
    match VideoDecoder.submit r.board data pts with
    | (.ok .accepted, board) =>
      (.ok .accepted, ⟨board, r.log ++ [.submit data.length pts .accepted]⟩)
    | (.ok .busy, board) => (.ok .busy, ⟨board, r.log ++ [.submit data.length pts .busy]⟩)
    | (.error e, board) => (.error e, ⟨board, r.log ++ [.submit data.length pts .failed]⟩)
  pollEvent r :=
    match VideoDecoder.pollEvent r.board with
    | (.ok event, board) => (.ok event, { r with board })
    | (.error e, board) => (.error e, ⟨board, r.log ++ [.pollFailed]⟩)
  registerBuffers r buffers :=
    match VideoDecoder.registerBuffers r.board buffers with
    | (.ok (), board) => (.ok (), ⟨board, r.log ++ [.register buffers false]⟩)
    | (.error e, board) => (.error e, ⟨board, r.log ++ [.register buffers true]⟩)
  backlog r := VideoDecoder.backlog r.board

theorem registerBuffers_of_error [VideoDecoder η] {r : Recorded η} {buffers : List ExternalBuffer}
    {e : ReceiverError} {board : η}
    (h : VideoDecoder.registerBuffers r.board buffers = (.error e, board)) :
    VideoDecoder.registerBuffers r buffers =
      (.error e, ⟨board, r.log ++ [.register buffers true]⟩) := by
  simp [VideoDecoder.registerBuffers, h]

theorem registerBuffers_of_ok [VideoDecoder η] {r : Recorded η} {buffers : List ExternalBuffer}
    {board : η} (h : VideoDecoder.registerBuffers r.board buffers = (.ok (), board)) :
    VideoDecoder.registerBuffers r buffers =
      (.ok (), ⟨board, r.log ++ [.register buffers false]⟩) := by
  simp [VideoDecoder.registerBuffers, h]

/-- The surfaces that are bound after the calls so far. -/
def bound (r : Recorded η) : List SurfaceId := (Holdings.ofLog r.log).surfaces

/-- Calls have been added, none of which unbinds anything. -/
structure Keeps (r r' : Recorded η) : Prop where
  log_le : r.log <+: r'.log
  bound_subset : r.bound ⊆ r'.bound

theorem Keeps.refl (r : Recorded η) : Keeps r r := ⟨List.prefix_refl r.log, List.Subset.refl _⟩

theorem keeps_call (r : Recorded η) (board : η) {c : HardwareCall}
    (hc : ∀ surface, c ≠ .unbind surface) : Keeps r ⟨board, r.log ++ [c]⟩ where
  log_le := List.prefix_append r.log [c]
  bound_subset surface hs := by
    show surface ∈ (Holdings.ofLog (r.log ++ [c])).surfaces
    rw [Holdings.ofLog_append_singleton]
    exact Holdings.mem_surfaces_step hs (hc surface)

variable [SurfaceAllocator η]

theorem keeps_allocate (r : Recorded η) (size : Nat) :
    Keeps r (SurfaceAllocator.allocate r size).2 := by
  rcases ha : SurfaceAllocator.allocate r.board size with ⟨e | a, board⟩ <;>
    simp only [SurfaceAllocator.allocate, ha] <;> exact r.keeps_call board fun _ => nofun

theorem keeps_release (r : Recorded η) (handle : AllocationHandle) :
    Keeps r (SurfaceAllocator.release r handle) := r.keeps_call _ fun _ => nofun

theorem keeps_bindSurface (r : Recorded η) (a : Allocation) (format : PictureFormat) :
    Keeps r (SurfaceAllocator.bindSurface r a format).2 := by
  rcases hb : SurfaceAllocator.bindSurface r.board a format with ⟨e | surface, board⟩ <;>
    simp only [SurfaceAllocator.bindSurface, hb] <;> exact r.keeps_call board fun _ => nofun

theorem mem_bound_of_bindSurface {r r' : Recorded η} {a : Allocation} {format : PictureFormat}
    {surface : SurfaceId} (h : SurfaceAllocator.bindSurface r a format = (.ok surface, r')) :
    surface ∈ r'.bound := by
  rcases hb : SurfaceAllocator.bindSurface r.board a format with ⟨e | s, board⟩
  · simp [SurfaceAllocator.bindSurface, hb] at h
  · simp only [SurfaceAllocator.bindSurface, hb, Prod.mk.injEq, Except.ok.injEq] at h
    obtain ⟨rfl, rfl⟩ := h
    simp [bound, Holdings.step, Holdings.surfaces]

omit [SurfaceAllocator η]
variable [VideoDecoder η]

theorem keeps_registerBuffers (r : Recorded η) (buffers : List ExternalBuffer) :
    Keeps r (VideoDecoder.registerBuffers r buffers).2 := by
  rcases hr : VideoDecoder.registerBuffers r.board buffers with ⟨e | _, board⟩ <;>
    simp only [VideoDecoder.registerBuffers, hr] <;> exact r.keeps_call board fun _ => nofun

theorem keeps_submit (r : Recorded η) (data : Bytes) (pts : UInt64) :
    Keeps r (VideoDecoder.submit r data pts).2 := by
  rcases hs : VideoDecoder.submit r.board data pts with ⟨e | _ | _, board⟩ <;>
    simp only [VideoDecoder.submit, hs] <;> exact r.keeps_call board fun _ => nofun

theorem keeps_pollEvent (r : Recorded η) : Keeps r (VideoDecoder.pollEvent r).2 := by
  rcases hp : VideoDecoder.pollEvent r.board with ⟨e | event, board⟩ <;>
    simp only [VideoDecoder.pollEvent, hp]
  · exact r.keeps_call board fun _ => nofun
  · exact ⟨List.prefix_refl r.log, List.Subset.refl _⟩

end Recorded

end VideoReceiver
