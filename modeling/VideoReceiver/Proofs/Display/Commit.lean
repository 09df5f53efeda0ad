import VideoReceiver.Bench.Screen
import VideoReceiver.Proofs.Decode.Generation

/-!
# Commits and generations

The display takes a frame from the mailbox and commits it later. A frame that still waits is
dropped before its surface is unbound; a frame that has been taken is out of the decode stage's
reach, so its surface may be gone by the time of the commit.

## Main definitions

- `Pipeline`: the decode stage and the display over one mailbox, with a log of the commits
- `PipelineAction`, `Pipeline.act`: a step of either party

## Main statements

- `StageRun.Covered.act`: the buffers of the pool are bound at any moment
- `Pipeline.commit_take_eq_present`: taking and committing at once is what the display stage does
- `Pipeline.commit_bound_iff`: which commits find their surface bound
-/

namespace VideoReceiver

open Bench (HardwareCall)

variable {η : Type}

/-! ## The pool's buffers are bound -/

/-- The surfaces of the buffers are bound. -/
def Recorded.Covers (r : Recorded η) (slots : List BufferSlot) : Prop :=
  ∀ slot ∈ slots, slot.surface ∈ r.bound

theorem Recorded.covers_nil (r : Recorded η) : r.Covers [] :=
  fun _ hslot => (List.not_mem_nil hslot).elim

theorem Recorded.Keeps.covers {r r' : Recorded η} {slots : List BufferSlot} (h : r.Keeps r')
    (hc : r.Covers slots) : r'.Covers slots :=
  fun slot hslot => h.bound_subset (hc slot hslot)

/-- The buffers that a change of generation has acquired so far. -/
def Change.built : Change → List BufferSlot
  | allocating _ _ built | binding _ _ built _ | registering _ built => built
  | _ => []

/-- The buffers of the pool are bound, and so are those that will come into it. -/
structure StageRun.Covered (r : StageRun (Recorded η)) : Prop where
  slots : r.stage.hardware.Covers r.stage.pool.slots
  built : ∀ c, r.change = some c → r.stage.hardware.Covers c.built

/-- Between two moments of a change of generation calls have only been added; the buffers of the
pool are bound, and so are those of what remains of the change. -/
structure Change.CoveredStep (s : DecodeStage (Recorded η))
    (next : Except ReceiverError (Option Change)) (s' : DecodeStage (Recorded η)) : Prop where
  log_le : s.hardware.log <+: s'.hardware.log
  slots : s'.hardware.Covers s'.pool.slots
  built : ∀ c, next = .ok (some c) → s'.hardware.Covers c.built

section Covered

variable [SurfaceAllocator η] [VideoDecoder η]

omit [SurfaceAllocator η] [VideoDecoder η] in
/-- Calls that unbind nothing leave everything bound. -/
theorem Change.CoveredStep.of_keeps {s : DecodeStage (Recorded η)} {hardware : Recorded η}
    {c : Change} (hkeeps : s.hardware.Keeps hardware) (hslots : s.hardware.Covers s.pool.slots)
    (hbuilt : hardware.Covers c.built) :
    CoveredStep s (.ok (some c)) { s with hardware } where
  log_le := hkeeps.log_le
  slots := hkeeps.covers hslots
  built := by
    rintro _ ⟨⟩
    exact hbuilt

/-- A change of generation unbinds only when the pool is empty. -/
theorem Change.step_covered {s : DecodeStage (Recorded η)} {c : Change} (hc : c.Consistent s)
    (hslots : s.hardware.Covers s.pool.slots) (hbuilt : s.hardware.Covers c.built) :
    CoveredStep s (c.step s).1 (c.step s).2 := by
  cases c with
  | discarding goal =>
    refine ⟨List.prefix_refl _, hslots, ?_⟩
    rintro _ ⟨⟩
    exact s.hardware.covers_nil
  | dismantling goal =>
    refine ⟨List.prefix_refl _, s.hardware.covers_nil, ?_⟩
    rintro _ ⟨⟩
    exact s.hardware.covers_nil
  | unbinding slots goal =>
    cases slots with
    | nil =>
      cases goal with
      | acquire format => exact .of_keeps (.refl _) hslots s.hardware.covers_nil
      | forget => exact ⟨List.prefix_refl _, hslots, fun c' h => (by cases h)⟩
      | fail e => exact ⟨List.prefix_refl _, hslots, fun c' h => (by cases h)⟩
    | cons b slots =>
      have hempty : s.pool.slots = [] := hc
      refine ⟨List.prefix_append _ _, ?_, ?_⟩
      · show Recorded.Covers _ s.pool.slots
        rw [hempty]
        exact Recorded.covers_nil _
      · rintro _ ⟨⟩
        exact Recorded.covers_nil _
  | releasing handle slots goal =>
    exact .of_keeps (s.hardware.keeps_release handle) hslots (Recorded.covers_nil _)
  | allocating format missing built =>
    cases missing with
    | zero => exact .of_keeps (.refl _) hslots hbuilt
    | succ missing =>
      have hkeeps := s.hardware.keeps_allocate format.bufferSize
      rcases ha : SurfaceAllocator.allocate s.hardware format.bufferSize with ⟨e | a, hardware⟩
      · rw [ha] at hkeeps
        simp only [step, ha]
        exact .of_keeps hkeeps hslots hardware.covers_nil
      · rw [ha] at hkeeps
        rcases hf : built.find? (·.identity == a.identity) with _ | owner
        · simp only [step, ha, hf]
          exact .of_keeps hkeeps hslots (hkeeps.covers hbuilt)
        · simp only [step, ha, hf]
          exact .of_keeps hkeeps hslots hardware.covers_nil
  | binding format missing built a =>
    have hkeeps := s.hardware.keeps_bindSurface a format
    rcases hb : SurfaceAllocator.bindSurface s.hardware a format with ⟨e | surface, hardware⟩
    · rw [hb] at hkeeps
      simp only [step, hb]
      exact .of_keeps hkeeps hslots hardware.covers_nil
    · rw [hb] at hkeeps
      simp only [step, hb]
      refine .of_keeps hkeeps hslots (List.forall_mem_append.2 ⟨hkeeps.covers hbuilt, ?_⟩)
      exact List.forall_mem_singleton.2 (Recorded.mem_bound_of_bindSurface hb)
  | registering format built =>
    have hkeeps := s.hardware.keeps_registerBuffers (built.map (FramePool.externalBuffer format))
    rcases hr : VideoDecoder.registerBuffers s.hardware
      (built.map (FramePool.externalBuffer format)) with ⟨e | _, hardware⟩
    · rw [hr] at hkeeps
      simp only [step, hr]
      exact .of_keeps hkeeps hslots hardware.covers_nil
    · rw [hr] at hkeeps
      simp only [step, hr]
      exact ⟨hkeeps.log_le, hkeeps.covers hbuilt, fun c' h => (by cases h)⟩

omit [SurfaceAllocator η] in
/-- Outside a change of generation the pool stays as it is and nothing is unbound. -/
theorem StageTask.step_keeps (s : DecodeStage (Recorded η)) (now : Instant) (task : StageTask) :
    s.hardware.Keeps (task.step now s).2.2.hardware ∧ (task.step now s).2.2.pool = s.pool := by
  cases task with
  | offer u attempts =>
    cases attempts with
    | zero => exact ⟨.refl _, rfl⟩
    | succ attempts =>
      have hkeeps := s.hardware.keeps_submit u.data u.pts
      rcases hs : VideoDecoder.submit s.hardware u.data u.pts with ⟨e | _ | _, hardware⟩ <;>
        rw [hs] at hkeeps <;> simp only [step, hs] <;> exact ⟨hkeeps, by trivial⟩
  | observe u =>
    obtain ⟨hpool, hhardware, -⟩ := s.observe_frame u
    exact ⟨by rw [step, hhardware]; exact .refl _, hpool⟩
  | poll =>
    have hkeeps := s.hardware.keeps_pollEvent
    rcases he : VideoDecoder.pollEvent s.hardware with ⟨e | event, hardware⟩
    · rw [he] at hkeeps
      simp only [step, he]
      exact ⟨hkeeps, rfl⟩
    · rw [he] at hkeeps
      rcases event with _ | _ | ⟨identity, pts⟩ <;> simp only [step, he] <;>
        exact ⟨hkeeps, trivial⟩
  | present identity pts =>
    obtain ⟨hpool, hhardware, -⟩ := s.present_frame now identity pts
    exact ⟨by rw [step, hhardware]; exact .refl _, hpool⟩

namespace StageRun

theorem Covered.proceed {r : StageRun (Recorded η)} (hr : r.Sound) (h : r.Covered) (now : Instant) :
    r.stage.hardware.log <+: (r.proceed now).stage.hardware.log ∧ (r.proceed now).Covered := by
  obtain ⟨s, change, tasks, op, failure⟩ := r
  cases change with
  | some c =>
    obtain ⟨hlog, hslots, hbuilt⟩ :=
      Change.step_covered (hr.change c rfl) h.slots (h.built c rfl)
    rcases hstep : c.step s with ⟨e | change, s'⟩
    · rw [hstep] at hlog hslots
      simp only [StageRun.proceed, afterChange, hstep]
      exact ⟨hlog, hslots, fun c' hc => (by cases hc)⟩
    · rw [hstep] at hlog hslots hbuilt
      simp only [StageRun.proceed, afterChange, hstep]
      refine ⟨hlog, hslots, ?_⟩
      rintro c' rfl
      exact hbuilt c' rfl
  | none =>
    cases tasks with
    | nil => exact ⟨List.prefix_refl _, h⟩
    | cons task rest =>
      obtain ⟨hkeeps, hpool⟩ := task.step_keeps s now
      obtain ⟨-, hchange⟩ := task.step_live hr.pending now
      refine ⟨hkeeps.log_le, ?_, fun c (hc : (task.step now s).1 = some c) => ?_⟩
      · show Recorded.Covers _ (task.step now s).2.2.pool.slots
        rw [hpool]
        exact hkeeps.covers h.slots
      · rcases hchange with hnone | ⟨goal, hgoal⟩
        · rw [hnone] at hc
          cases hc
        · rw [hgoal] at hc
          cases hc
          exact Recorded.covers_nil _

theorem Covered.act {r : StageRun (Recorded η)} (hr : r.Sound) (h : r.Covered) (a : StageAction) :
    r.stage.hardware.log <+: (r.act a).stage.hardware.log ∧ (r.act a).Covered := by
  cases a with
  | start op =>
    by_cases hidle : r.Idle
    · simp only [StageRun.act, StageRun.start, if_pos hidle]
      refine ⟨List.prefix_refl _, h.slots, fun c hc => ?_⟩
      cases op with
      | teardown =>
        cases hc
        exact Recorded.covers_nil _
      | _ => cases hc
    · simp only [StageRun.act, StageRun.start, if_neg hidle]
      exact ⟨List.prefix_refl _, h⟩
  | proceed now => exact h.proceed hr now
  | _ => exact ⟨List.prefix_refl _, h.slots, h.built⟩

end StageRun

end Covered

/-! ## Two parties -/

/-- A commit, with the calls that the board had answered when the frame was taken and when it is
committed. -/
structure Commit where
  surface : SurfaceId
  taken : List HardwareCall
  made : List HardwareCall
  deriving DecidableEq, Repr

/-- The decode stage, on a board under a recorder, and the display. -/
structure Pipeline (η κ : Type) where
  decode : StageRun (Recorded η)
  sink : κ
  stats : DisplayStats := {}
  /-- The frame that has been taken and not committed yet, and the calls up to its being taken. -/
  held : Option (PendingFrame × List HardwareCall) := none
  commits : List Commit := []

/-- A step of one of the parties. -/
inductive PipelineAction where
  | decode (a : StageAction)
  /-- The display takes a frame. -/
  | take
  /-- The display commits the frame that it has taken. -/
  | commit (now : Instant)

namespace Pipeline

variable {κ : Type}

/-- The calls that the board has answered so far. -/
def log (p : Pipeline η κ) : List HardwareCall := p.decode.stage.hardware.log

/-- What the display stage knows of. -/
def display (p : Pipeline η κ) : DisplayStage κ := ⟨p.sink, p.decode.stage.mailbox, p.stats⟩

/-- The display takes a frame if there is one and it holds none. -/
def take (p : Pipeline η κ) : Pipeline η κ :=
  match p.held, p.decode.stage.mailbox.take? with
  | none, (some (.frame f), mailbox) =>
    { p with
      decode := { p.decode with stage := { p.decode.stage with mailbox } }
      held := some (f, p.log) }
  | _, _ => p

/-- The display commits the frame that it holds. -/
def commit [DisplaySink κ] (p : Pipeline η κ) (now : Instant) : Pipeline η κ :=
  match p.held with
  | some (f, taken) =>
    let (outcome, sink) := DisplaySink.commit p.sink f.surface
    { p with
      sink
      stats := p.stats.record (now.since f.decodedAt) outcome
      held := none
      commits := p.commits ++ [⟨f.surface, taken, p.log⟩] }
  | none => p

theorem take_eq_of_pending {p : Pipeline η κ} {f : PendingFrame} (hheld : p.held = none)
    (hf : p.decode.stage.mailbox.pending = some f) :
    p.take =
      { p with
        decode :=
          { p.decode with
            stage :=
              { p.decode.stage with mailbox := { p.decode.stage.mailbox with pending := none } } }
        held := some (f, p.log) } := by
  simp only [take, hheld, Mailbox.take?, hf]

theorem take_eq_self {p : Pipeline η κ}
    (h : p.held ≠ none ∨ p.decode.stage.mailbox.pending = none) : p.take = p := by
  unfold take
  split
  · next hheld hmail =>
    rcases h with hne | hnone
    · exact absurd hheld hne
    · simp only [Mailbox.take?, hnone] at hmail
      split at hmail <;> simp at hmail
  · rfl

section Commit

variable [DisplaySink κ]

/-- Taking and committing without a break is what the display stage does. -/
theorem commit_take_eq_present (p : Pipeline η κ) (hheld : p.held = none) (now : Instant) :
    p.display.present (fun _ mailbox => mailbox) now =
      if p.take.held.isSome then .presented (p.take.commit now).display
      else if p.decode.stage.mailbox.finished then .ended p.display
      else .waiting p.display := by
  rcases hf : p.decode.stage.mailbox.pending with _ | f
  · rw [take_eq_self (.inr hf), hheld]
    rcases hfin : p.decode.stage.mailbox.finished <;>
      simp [DisplayStage.present, display, Mailbox.take?, hf, hfin]
  · rw [take_eq_of_pending hheld hf]
    simp [DisplayStage.present, display, commit, Mailbox.take?, hf]

variable [SurfaceAllocator η] [VideoDecoder η]

/-- Performs a step. -/
def act (p : Pipeline η κ) : PipelineAction → Pipeline η κ
  | .decode a => { p with decode := p.decode.act a }
  | .take => p.take
  | .commit now => p.commit now

/-- A run of a fresh decode stage and a display. -/
def after (capacity : Nat) (board : η) (monitor : LinkMonitor) (sink : κ)
    (actions : List PipelineAction) : Pipeline η κ :=
  actions.foldl act
    { decode := { stage := { hardware := { board }, pool := { capacity }, monitor } }, sink }

end Commit

/-- The invariant of both parties: a frame was taken while its surface was bound. -/
structure Sound (p : Pipeline η κ) : Prop where
  run : p.decode.Sound
  covered : p.decode.Covered
  held : ∀ f taken, p.held = some (f, taken) →
    taken <+: p.log ∧ f.surface ∈ (Holdings.ofLog taken).surfaces
  commits : ∀ c ∈ p.commits, c.taken <+: c.made ∧ c.surface ∈ (Holdings.ofLog c.taken).surfaces

theorem Sound.take {p : Pipeline η κ} (h : p.Sound) : p.take.Sound := by
  by_cases hheld : p.held = none
  · rcases hf : p.decode.stage.mailbox.pending with _ | f
    · rw [take_eq_self (.inr hf)]
      exact h
    · obtain ⟨slot, hslot, hsurface⟩ := h.run.pending f hf
      have hbound : f.surface ∈ (Holdings.ofLog p.log).surfaces :=
        hsurface ▸ h.covered.slots slot hslot
      rw [take_eq_of_pending hheld hf]
      refine ⟨h.run.of_imp rfl fun g hg => (by cases hg), ⟨h.covered.slots, h.covered.built⟩, ?_,
        h.commits⟩
      rintro _ _ ⟨⟩
      exact ⟨List.prefix_refl _, hbound⟩
  · rw [take_eq_self (.inl hheld)]
    exact h

theorem Sound.commit [DisplaySink κ] {p : Pipeline η κ} (h : p.Sound) (now : Instant) :
    (p.commit now).Sound := by
  unfold Pipeline.commit
  split
  · next f taken hheld =>
    refine ⟨h.run, h.covered, fun _ _ hnone => (by cases hnone), ?_⟩
    exact List.forall_mem_append.2
      ⟨h.commits, List.forall_mem_singleton.2 (h.held f taken hheld)⟩
  · exact h

variable [SurfaceAllocator η] [VideoDecoder η] [DisplaySink κ]

theorem Sound.act {p : Pipeline η κ} (h : p.Sound) (a : PipelineAction) : (p.act a).Sound := by
  cases a with
  | decode a =>
    obtain ⟨hlog, hcovered⟩ := h.covered.act h.run a
    refine ⟨h.run.act a, hcovered, fun f taken hheld => ?_, h.commits⟩
    obtain ⟨htaken, hbound⟩ := h.held f taken hheld
    exact ⟨htaken.trans hlog, hbound⟩
  | take => exact h.take
  | commit now => exact h.commit now

theorem Sound.foldl_act {p : Pipeline η κ} (h : p.Sound) (actions : List PipelineAction) :
    Sound (actions.foldl Pipeline.act p) := by
  induction actions generalizing p with
  | nil => exact h
  | cons a actions ih => exact ih (h.act a)

theorem sound_after (capacity : Nat) (board : η) (monitor : LinkMonitor) (sink : κ)
    (actions : List PipelineAction) : (after capacity board monitor sink actions).Sound := by
  apply Sound.foldl_act
  refine ⟨StageRun.sound_after capacity _ monitor [], ⟨Recorded.covers_nil _, ?_⟩, ?_, ?_⟩
  · intro c hc
    cases hc
  · intro f taken hheld
    cases hheld
  · intro c hc
    cases hc

/-- **Which commits find their surface bound.** In every run of the two parties, a frame's surface
is bound when the frame is taken, and at the commit it is bound exactly if the decode stage has not
meanwhile unbound it, or has been given the same surface again since. -/
theorem commit_bound_iff (capacity : Nat) (board : η) (monitor : LinkMonitor) (sink : κ)
    (actions : List PipelineAction) (c : Commit)
    (hc : c ∈ (after capacity board monitor sink actions).commits) :
    c.surface ∈ (Holdings.ofLog c.taken).surfaces ∧
      ∃ since, c.made = c.taken ++ since ∧
        (c.surface ∈ (Holdings.ofLog c.made).surfaces ↔
          ∀ before rest, since = before ++ .unbind c.surface :: rest →
            ∃ handle, .bind handle (some c.surface) ∈ rest) := by
  obtain ⟨⟨since, hmade⟩, htaken⟩ :=
    (sound_after capacity board monitor sink actions).commits c hc
  refine ⟨htaken, since, hmade.symm, ?_⟩
  rw [← hmade, Holdings.ofLog_append]
  exact Holdings.mem_surfaces_foldl_iff htaken

/-- A frame that is committed as soon as it has been taken. -/
theorem commit_bound_at_once :
    ∃ calls, (⟨⟨1⟩, calls, calls⟩ : Commit) ∈
        (after 1 ({ events := [.formatChanged (.unpadded 64 48 .nv12), .picture ⟨0x1001⟩ 7] } :
            Bench.Board) {} ({} : Bench.Screen)
          (.decode (.start .drain) :: List.replicate 10 (.decode (.proceed 0)) ++
            [.take, .commit 0])).commits ∧
      (⟨1⟩ : SurfaceId) ∈ (Holdings.ofLog calls).surfaces := by
  have hc : (⟨⟨1⟩, [.allocate 6144 (some (⟨1⟩, ⟨0x1001⟩)), .bind ⟨1⟩ (some ⟨1⟩),
        .register [⟨0, ⟨0x1001⟩, 6144⟩] false],
      [.allocate 6144 (some (⟨1⟩, ⟨0x1001⟩)), .bind ⟨1⟩ (some ⟨1⟩),
        .register [⟨0, ⟨0x1001⟩, 6144⟩] false]⟩ : Commit) ∈
      (after 1 ({ events := [.formatChanged (.unpadded 64 48 .nv12), .picture ⟨0x1001⟩ 7] } :
          Bench.Board) {} ({} : Bench.Screen)
        (.decode (.start .drain) :: List.replicate 10 (.decode (.proceed 0)) ++
          [.take, .commit 0])).commits := by decide +kernel
  exact ⟨_, hc, (commit_bound_iff 1 _ {} _ _ _ hc).1⟩

/-- The stage is torn down after a frame has been taken, and the surface is unbound before the frame
is committed. -/
theorem commit_unbound_after_teardown :
    ∃ c ∈ (after 1 ({ events := [.formatChanged (.unpadded 64 48 .nv12), .picture ⟨0x1001⟩ 7] } :
          Bench.Board) {} ({} : Bench.Screen)
        (.decode (.start .drain) :: List.replicate 11 (.decode (.proceed 0)) ++
          [.take, .decode (.start .teardown)] ++ List.replicate 6 (.decode (.proceed 0)) ++
          [.commit 0])).commits,
      c.surface ∉ (Holdings.ofLog c.made).surfaces := by
  decide +kernel

end Pipeline

end VideoReceiver
