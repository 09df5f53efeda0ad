import VideoReceiver.Proofs.Decode.Steps

/-!
# Pending frames and generations

The frame that waits in the mailbox always shows a surface of the buffers that the pool has now. A
change of generation first drops the pending frame and then has an empty pool until its end, so
nothing can be pending meanwhile; in particular nothing is after a failure or a teardown.

## Main definitions

- `DecodeStage.PendingLive`: a pending frame shows a surface of the pool
- `StageRun.Sound`: the invariant of a run

## Main statements

- `StageRun.Sound.act`: every action keeps the invariant
- `StageRun.pending_live`: what it says of the mailbox at any moment of any run
-/

namespace VideoReceiver

theorem Mailbox.pending_discard (m : Mailbox) : m.discard.2.pending = none := by
  unfold discard
  split
  · rfl
  · assumption

theorem Mailbox.pending_take? {m : Mailbox} {f : PendingFrame}
    (h : m.take?.2.pending = some f) : m.pending = some f := by
  unfold take? at h
  split at h
  · cases h
  · exact h

variable {η : Type}

namespace DecodeStage

/-- A pending frame shows the surface of one of the pool's buffers. -/
def PendingLive (s : DecodeStage η) : Prop :=
  ∀ f, s.mailbox.pending = some f → ∃ slot ∈ s.pool.slots, slot.surface = f.surface

theorem PendingLive.of_none {s : DecodeStage η} (h : s.mailbox.pending = none) : s.PendingLive := by
  intro f hf
  rw [h] at hf
  cases hf

theorem PendingLive.pending_eq_none {s : DecodeStage η} (h : s.PendingLive)
    (hs : s.pool.slots = []) : s.mailbox.pending = none := by
  rcases hp : s.mailbox.pending with _ | f
  · rfl
  · obtain ⟨slot, hslot, -⟩ := h f hp
    rw [hs] at hslot
    cases hslot

/-- Fewer frames may be pending in front of the same buffers. -/
theorem PendingLive.of_imp {s s' : DecodeStage η} (h : s.PendingLive)
    (hs : s'.pool.slots = s.pool.slots)
    (hp : ∀ f, s'.mailbox.pending = some f → s.mailbox.pending = some f) : s'.PendingLive :=
  fun f hf => hs ▸ h f (hp f hf)

theorem takeAcceptTime_frame (s : DecodeStage η) (pts : UInt64) :
    (s.takeAcceptTime pts).2.pool = s.pool ∧ (s.takeAcceptTime pts).2.hardware = s.hardware ∧
      (s.takeAcceptTime pts).2.mailbox = s.mailbox := by
  unfold takeAcceptTime
  split <;> exact ⟨rfl, rfl, rfl⟩

/-- A picture is posted under the surface of its slot, if it has one. -/
theorem present_frame (s : DecodeStage η) (now : Instant) (identity : HardwareIdentity)
    (pts : UInt64) :
    (s.present now identity pts).pool = s.pool ∧
      (s.present now identity pts).hardware = s.hardware ∧
      ((s.present now identity pts).mailbox = s.mailbox ∨
        ∃ slot ∈ s.pool.slots, ∃ decodedAt,
          (s.present now identity pts).mailbox = s.mailbox.post ⟨slot.surface, decodedAt⟩) := by
  obtain ⟨hpool, hhardware, hmailbox⟩ := s.takeAcceptTime_frame pts
  unfold present
  split
  · exact ⟨rfl, rfl, .inl rfl⟩
  · next slot hslot =>
    obtain ⟨index, -, hslot⟩ := Option.bind_eq_some_iff.1 hslot
    exact ⟨hpool, hhardware, .inr ⟨slot, List.mem_of_getElem? hslot, _, by rw [← hmailbox]⟩⟩

theorem PendingLive.present {s : DecodeStage η} (h : s.PendingLive) (now : Instant)
    (identity : HardwareIdentity) (pts : UInt64) : (s.present now identity pts).PendingLive := by
  obtain ⟨hpool, -, hmail | ⟨slot, hslot, decodedAt, hmail⟩⟩ := s.present_frame now identity pts
  · exact h.of_imp (by rw [hpool]) (by rw [hmail]; exact fun _ => id)
  · intro f hf
    rw [hmail] at hf
    cases hf
    exact ⟨slot, by rw [hpool]; exact hslot, rfl⟩

theorem observe_frame (s : DecodeStage η) (u : AccessUnit) :
    (s.observe u).pool = s.pool ∧ (s.observe u).hardware = s.hardware ∧
      (s.observe u).mailbox = s.mailbox := by
  unfold observe
  split <;> exact ⟨rfl, rfl, rfl⟩

end DecodeStage

/-! ## The invariant -/

/-- What a change of generation has achieved so far: nothing is pending before the pool is taken
apart, and then the pool is empty until the change ends. -/
def Change.Consistent (s : DecodeStage η) : Change → Prop
  | discarding _ => True
  | dismantling _ => s.mailbox.pending = none
  | _ => s.pool.slots = []

/-- A change of generation that ends with an empty pool and no error. -/
def Change.Forgets : Change → Prop
  | discarding goal | dismantling goal | unbinding _ goal | releasing _ _ goal => goal = .forget
  | _ => False

/-- The invariant of a run. -/
structure StageRun.Sound (r : StageRun η) : Prop where
  pending : r.stage.PendingLive
  change : ∀ c, r.change = some c → c.Consistent r.stage
  /-- After an error the pool is empty. -/
  failed : r.failure ≠ none → r.Idle ∧ r.stage.pool.slots = []
  /-- A teardown does nothing but empty the pool. -/
  closing : r.operation = some .teardown →
    r.tasks = [] ∧ (r.change = none → r.stage.pool.slots = []) ∧
      ∀ c, r.change = some c → c.Forgets

/-- Others may take the pending frame. -/
theorem Change.Consistent.of_imp {s s' : DecodeStage η} {c : Change} (h : c.Consistent s)
    (hs : s'.pool.slots = s.pool.slots)
    (hp : ∀ f, s'.mailbox.pending = some f → s.mailbox.pending = some f) : c.Consistent s' := by
  cases c with
  | discarding goal => trivial
  | dismantling goal =>
    have hnone : s.mailbox.pending = none := h
    show s'.mailbox.pending = none
    rw [Option.eq_none_iff_forall_ne_some]
    intro f hf
    rw [hp f hf] at hnone
    cases hnone
  | _ => exact hs.trans h

variable [VideoDecoder η]

/-- A task posts only what belongs to the pool, and every change that it starts begins with
dropping the pending frame. -/
theorem StageTask.step_live {s : DecodeStage η} (hp : s.PendingLive) (now : Instant)
    (task : StageTask) :
    (task.step now s).2.2.PendingLive ∧
      ((task.step now s).1 = none ∨ ∃ goal, (task.step now s).1 = some (.discarding goal)) := by
  cases task with
  | offer u attempts =>
    cases attempts with
    | zero => exact ⟨hp, .inl rfl⟩
    | succ attempts =>
      rcases hs : VideoDecoder.submit s.hardware u.data u.pts with ⟨e | _ | _, hardware⟩ <;>
        simp only [step, hs] <;> exact ⟨hp, .inl trivial⟩
  | observe u =>
    obtain ⟨hpool, -, hmail⟩ := s.observe_frame u
    exact ⟨hp.of_imp (by rw [step, hpool]) (by rw [step, hmail]; exact fun _ => id), .inl rfl⟩
  | poll =>
    rcases he : VideoDecoder.pollEvent s.hardware with ⟨e | _ | event, hardware⟩
    · simp only [step, he]
      exact ⟨hp, .inl trivial⟩
    · simp only [step, he]
      exact ⟨hp, .inl trivial⟩
    · cases event with
      | picture identity pts =>
        simp only [step, he]
        exact ⟨hp, .inl trivial⟩
      | formatChanged format =>
        simp only [step, he]
        exact ⟨hp, .inr ⟨_, rfl⟩⟩
  | present identity pts => exact ⟨hp.present now identity pts, .inl rfl⟩

variable [SurfaceAllocator η]

/-- A step of a change of generation keeps what it has achieved; where it ends without new
buffers, the pool is empty. -/
theorem Change.step_consistent {s : DecodeStage η} {c : Change} (hp : s.PendingLive)
    (hc : c.Consistent s) :
    (c.step s).2.PendingLive ∧
      match (c.step s).1 with
      | .ok none => c.Forgets → (c.step s).2.pool.slots = []
      | .ok (some c') => c'.Consistent (c.step s).2 ∧ (c.Forgets → c'.Forgets)
      | .error _ => (c.step s).2.pool.slots = [] := by
  cases c with
  | discarding goal => exact ⟨.of_none s.mailbox.pending_discard, s.mailbox.pending_discard, id⟩
  | dismantling goal => exact ⟨.of_none hc, rfl, id⟩
  | unbinding slots goal =>
    cases slots with
    | nil =>
      cases goal with
      | acquire format => exact ⟨hp, hc, fun hgoal => (by cases hgoal)⟩
      | forget => exact ⟨hp, fun _ => hc⟩
      | fail e => exact ⟨hp, hc⟩
    | cons b slots => exact ⟨hp, hc, id⟩
  | releasing handle slots goal => exact ⟨hp, hc, id⟩
  | allocating format missing built =>
    cases missing with
    | zero => exact ⟨hp, hc, False.elim⟩
    | succ missing =>
      rcases ha : SurfaceAllocator.allocate s.hardware format.bufferSize with ⟨e | a, hardware⟩
      · simp only [step, ha]
        exact ⟨hp, hc, False.elim⟩
      · rcases hf : built.find? (·.identity == a.identity) with _ | owner
        · simp only [step, ha, hf]
          exact ⟨hp, hc, False.elim⟩
        · simp only [step, ha, hf]
          exact ⟨hp, hc, False.elim⟩
  | binding format missing built a =>
    rcases hb : SurfaceAllocator.bindSurface s.hardware a format with ⟨e | surface, hardware⟩
    · simp only [step, hb]
      exact ⟨hp, hc, False.elim⟩
    · simp only [step, hb]
      exact ⟨hp, hc, False.elim⟩
  | registering format built =>
    rcases hr : VideoDecoder.registerBuffers s.hardware
      (built.map (FramePool.externalBuffer format)) with ⟨e | _, hardware⟩
    · simp only [step, hr]
      exact ⟨hp, hc, False.elim⟩
    · simp only [step, hr]
      exact ⟨.of_none (hp.pending_eq_none hc), False.elim⟩

namespace StageRun

omit [SurfaceAllocator η] [VideoDecoder η] in
/-- Other parties may take the pending frame, and use the monitor. -/
theorem Sound.of_imp {r : StageRun η} (h : r.Sound) {s : DecodeStage η}
    (hs : s.pool = r.stage.pool)
    (hp : ∀ f, s.mailbox.pending = some f → r.stage.mailbox.pending = some f) :
    Sound { r with stage := s } where
  pending := h.pending.of_imp (by rw [hs]) hp
  change c hc := (h.change c hc).of_imp (by rw [hs]) hp
  failed hf := by
    rw [hs]
    exact h.failed hf
  closing hop := by
    rw [hs]
    exact h.closing hop

theorem Sound.proceed {r : StageRun η} (h : r.Sound) (now : Instant) : (r.proceed now).Sound := by
  obtain ⟨s, change, tasks, op, failure⟩ := r
  cases change with
  | some c =>
    obtain ⟨hlive, hnext⟩ := c.step_consistent h.pending (h.change c rfl)
    -- an error would have ended the operation
    have hfailure : failure = none := by
      by_contra hne
      cases (h.failed hne).1.1
    rcases hstep : c.step s with ⟨e | _ | c', s'⟩
    · rw [hstep] at hlive hnext
      simp only [StageRun.proceed, afterChange, hstep]
      exact ⟨hlive, fun _ hc => (by cases hc), fun _ => ⟨⟨rfl, rfl⟩, hnext⟩,
        fun _ => ⟨rfl, fun _ => hnext, fun _ hc => (by cases hc)⟩⟩
    · rw [hstep] at hlive hnext
      simp only [StageRun.proceed, afterChange, hstep]
      refine ⟨hlive, fun _ hc => (by cases hc), fun hne => absurd hfailure hne, fun hop => ?_⟩
      obtain ⟨htasks, -, hforgets⟩ := h.closing hop
      exact ⟨htasks, fun _ => hnext (hforgets c rfl), fun _ hc => (by cases hc)⟩
    · rw [hstep] at hlive hnext
      simp only [StageRun.proceed, afterChange, hstep]
      refine ⟨hlive, ?_, fun hne => absurd hfailure hne, fun hop => ?_⟩
      · rintro _ ⟨⟩
        exact hnext.1
      · obtain ⟨htasks, -, hforgets⟩ := h.closing hop
        refine ⟨htasks, fun hnone => (by cases hnone), ?_⟩
        rintro _ ⟨⟩
        exact hnext.2 (hforgets c rfl)
  | none =>
    cases tasks with
    | nil => exact h
    | cons task rest =>
      obtain ⟨hlive, hchange⟩ := task.step_live h.pending now
      refine ⟨hlive, fun c (hc : (task.step now s).1 = some c) => ?_, fun hne => ?_, fun hop => ?_⟩
      · rcases hchange with hnone | ⟨goal, hgoal⟩
        · rw [hnone] at hc
          cases hc
        · rw [hgoal] at hc
          cases hc
          trivial
      · cases (h.failed hne).1.2
      · cases (h.closing hop).1

omit [SurfaceAllocator η] [VideoDecoder η] in
theorem Sound.start {r : StageRun η} (h : r.Sound) (op : StageOperation) : (r.start op).Sound := by
  by_cases hidle : r.Idle
  · rw [StageRun.start, if_pos hidle]
    refine ⟨h.pending, fun c hc => ?_, fun hne => absurd rfl hne, fun hop => ?_⟩
    · cases op with
      | teardown =>
        cases hc
        trivial
      | _ => cases hc
    · cases hop
      refine ⟨rfl, fun hnone => (by cases hnone), ?_⟩
      rintro _ ⟨⟩
      rfl
  · rw [StageRun.start, if_neg hidle]
    exact h

theorem Sound.act {r : StageRun η} (h : r.Sound) (a : StageAction) : (r.act a).Sound := by
  cases a with
  | start op => exact h.start op
  | proceed now => exact h.proceed now
  | take => exact h.of_imp rfl fun f => Mailbox.pending_take?
  | finish => exact h.of_imp rfl fun f => id
  | watch monitor => exact h.of_imp rfl fun f => id

theorem Sound.actAll {r : StageRun η} (h : r.Sound) (actions : List StageAction) :
    (r.actAll actions).Sound := by
  induction actions generalizing r with
  | nil => exact h
  | cons a actions ih => exact ih (h.act a)

omit [SurfaceAllocator η] [VideoDecoder η] in
/-- Nothing is pending after an error or a teardown. -/
theorem Sound.pending_eq_none {r : StageRun η} (h : r.Sound) (hidle : r.Idle)
    (hr : r.failure ≠ none ∨ r.operation = some .teardown) : r.stage.mailbox.pending = none := by
  apply h.pending.pending_eq_none
  rcases hr with hne | hop
  · exact (h.failed hne).2
  · exact (h.closing hop).2.1 hidle.1

/-- A run of a fresh stage. -/
def after (capacity : Nat) (board : η) (monitor : LinkMonitor) (actions : List StageAction) :
    StageRun η :=
  actAll { stage := { hardware := board, pool := { capacity }, monitor } } actions

theorem sound_after (capacity : Nat) (board : η) (monitor : LinkMonitor)
    (actions : List StageAction) : (after capacity board monitor actions).Sound := by
  apply Sound.actAll
  refine ⟨.of_none rfl, fun c hc => ?_, fun hne => absurd rfl hne, fun hop => ?_⟩
  · cases hc
  · cases hop

theorem Reaches.sound {now : Instant} {r r' : StageRun η} (h : Reaches now r r') (hr : r.Sound) :
    r'.Sound := by
  obtain ⟨n, rfl⟩ := h
  induction n generalizing r with
  | zero => exact hr
  | succ n ih => exact ih (hr.proceed now)

/-- **Only the current generation is pending.** A decode stage is fed, drained and torn down on any
board, while a consumer takes frames and others use the mailbox's end and the monitor, between any
two of its calls. At every moment a pending frame shows the surface of one of the pool's buffers,
and no frame is pending while the latest operation is over and was a teardown or has failed. This
holds as well after any operation that is now performed without interruption. -/
theorem pending_live (capacity : Nat) (board : η) (monitor : LinkMonitor)
    (actions : List StageAction) :
    (after capacity board monitor actions).stage.PendingLive ∧
      ((after capacity board monitor actions).Idle →
        (after capacity board monitor actions).failure ≠ none ∨
          (after capacity board monitor actions).operation = some .teardown →
        (after capacity board monitor actions).stage.mailbox.pending = none) ∧
      ((after capacity board monitor actions).Idle → ∀ (op : StageOperation) (now : Instant),
        (op.perform now (after capacity board monitor actions).stage).2.PendingLive ∧
          ((∃ e, (op.perform now (after capacity board monitor actions).stage).1 = .failed e) ∨
              op = .teardown →
            (op.perform now (after capacity board monitor actions).stage).2.mailbox.pending =
              none)) := by
  have hsound := sound_after capacity board monitor actions
  refine ⟨hsound.pending, hsound.pending_eq_none, fun hidle op now => ?_⟩
  obtain ⟨r, hreach, hstage, hout⟩ := perform_reaches now hidle op
  have hr : r.Sound := hreach.sound (hsound.start op)
  refine ⟨hstage ▸ hr.pending, fun hend => ?_⟩
  rw [← hstage]
  rcases hend with ⟨e, he⟩ | rfl
  · rw [he] at hout
    subst hout
    exact hr.pending_eq_none ⟨rfl, rfl⟩ (.inl (Option.some_ne_none e))
  · subst hout
    exact hr.pending_eq_none ⟨rfl, rfl⟩ (.inr rfl)

/-- The pool is built, a picture is posted, and then the format changes while memory has run out. -/
theorem pending_live_exhausted :
    (∃ f, (after 1 ({ events := [.formatChanged (.unpadded 64 48 .nv12), .picture ⟨0x1001⟩ 7,
          .formatChanged (.unpadded 32 24 .nv12)], failAllocationAfter := some 1 } : Bench.Board) {}
        (.start .drain :: List.replicate 11 (.proceed 0))).stage.mailbox.pending = some f) ∧
      (after 1 ({ events := [.formatChanged (.unpadded 64 48 .nv12), .picture ⟨0x1001⟩ 7,
          .formatChanged (.unpadded 32 24 .nv12)], failAllocationAfter := some 1 } : Bench.Board) {}
        (.start .drain :: List.replicate 18 (.proceed 0))).stage.mailbox.pending = none := by
  refine ⟨⟨⟨⟨1⟩, 0⟩, by decide +kernel⟩, ?_⟩
  exact (pending_live 1 _ {} _).2.1 (by decide +kernel) (.inl (by decide +kernel))

end StageRun

end VideoReceiver
