import VideoReceiver.Proofs.Link.Deferral
import VideoReceiver.Proofs.Repair.Clock

/-!
# States that differ by the generations of their flags

Generations are compared with each other and with nothing else. So a state whose generations are
ahead of those of another by a fixed number, and the sequences that belong to it, do the same as the
other and its sequences.

## Main definitions

- `PendingSlot.Alike`, `HealthState.Alike`: flags and states whose generations are ahead
- `RepeatSequence.Alike`, `RepeatTask.Alike`: their sequences
- `RepeatRun.Alike`, `Requester.Alike`: runs on the clock and requesters

## Main statements

- `RepeatSequence.Alike.resume`, `RepeatRun.Alike.untilLimit`: the sequences send at the same times
- `Requester.Alike.request`, `Requester.Alike.observe`, `Requester.Alike.runLimited`: what is done
  to both requesters keeps them alike
-/

namespace VideoReceiver

/-! ## Flags -/

/-- The generations of the first flag are ahead of those of the second one by `shift`, and none of
them is beyond `bound`. What the second flag has never reached counts as confirmed. -/
structure PendingSlot.Alike (shift bound : Nat) (p p' : PendingSlot) : Prop where
  raised_eq : p.raised = p'.raised
  generation_eq : p.generation = p'.generation + shift
  confirmed_eq : max p.confirmed shift = p'.confirmed + shift
  confirmed_le : p'.confirmed ≤ p'.generation
  generation_le : p.generation ≤ bound

namespace PendingSlot.Alike

variable {shift bound : Nat} {p p' : PendingSlot}

theorem mono (h : Alike shift bound p p') {bound' : Nat} (hle : bound ≤ bound') :
    Alike shift bound' p p' :=
  ⟨h.raised_eq, h.generation_eq, h.confirmed_eq, h.confirmed_le, h.generation_le.trans hle⟩

theorem raise (h : Alike shift bound p p') (hbound : bound + 1 < 2 ^ 63) :
    p.raise.1 = p'.raise.1 + shift ∧ 0 < p'.raise.1 ∧
      Alike shift (bound + 1) p.raise.2 p'.raise.2 := by
  obtain ⟨-, hgeneration, hconfirmed, hle, hlast⟩ := h
  have hnext : p.raise.1 = p.generation + 1 := Nat.mod_eq_of_lt (by omega)
  have hnext' : p'.raise.1 = p'.generation + 1 := Nat.mod_eq_of_lt (by omega)
  refine ⟨by omega, by omega, rfl, ?_, hconfirmed, ?_, ?_⟩
  · show p.raise.1 = p'.raise.1 + shift
    omega
  · show p'.confirmed ≤ p'.raise.1
    omega
  · show p.raise.1 ≤ bound + 1
    omega

/-- A generation that the second flag has reached is awaited in both. -/
theorem isAwaiting (h : Alike shift bound p p') {generation : Nat} (hpos : 0 < generation) :
    p.isAwaiting (generation + shift) = p'.isAwaiting generation := by
  have hconfirmed := h.confirmed_eq
  have hlt : p.confirmed < generation + shift ↔ p'.confirmed < generation := by omega
  rw [PendingSlot.isAwaiting, PendingSlot.isAwaiting, h.raised_eq, decide_eq_decide.2 hlt]

theorem confirm (h : Alike shift bound p p') :
    p.confirm.1 = p'.confirm.1 ∧ Alike shift bound p.confirm.2 p'.confirm.2 := by
  obtain ⟨hraised, hgeneration, hconfirmed, hle, hlast⟩ := h
  unfold PendingSlot.confirm
  rw [hraised]
  split
  · refine ⟨rfl, rfl, hgeneration, ?_, ?_, hlast⟩
    · show max (max p.confirmed p.generation) shift = max p'.confirmed p'.generation + shift
      omega
    · show max p'.confirmed p'.generation ≤ p'.generation
      omega
  · exact ⟨rfl, hraised, hgeneration, hconfirmed, hle, hlast⟩

theorem withdraw (h : Alike shift bound p p') (generation : Nat) :
    Alike shift bound (p.withdraw (generation + shift)) (p'.withdraw generation) := by
  have hown : (p.generation == generation + shift) = (p'.generation == generation) := by
    have hgeneration := h.generation_eq
    rw [Bool.eq_iff_iff, beq_iff_eq, beq_iff_eq]
    omega
  unfold PendingSlot.withdraw
  rw [hown, h.raised_eq]
  split
  · exact ⟨rfl, h.generation_eq, h.confirmed_eq, h.confirmed_le, h.generation_le⟩
  · exact h

theorem clear (h : Alike shift bound p p') : Alike shift bound p.clear p'.clear :=
  ⟨rfl, h.generation_eq, h.confirmed_eq, h.confirmed_le, h.generation_le⟩

/-- A flag that has been lowered is like one that has never been raised. -/
theorem renew (h : Alike shift bound p p') :
    Alike p.generation bound p.clear {} := by
  obtain ⟨-, hgeneration, hconfirmed, hle, hlast⟩ := h
  refine ⟨rfl, (Nat.zero_add _).symm, ?_, Nat.le_refl 0, hlast⟩
  show max p.confirmed p.generation = 0 + p.generation
  omega

end PendingSlot.Alike

/-! ## Health states -/

/-- The states differ by the generations of their flags and by nothing else. -/
structure HealthState.Alike (shift : PendingFlag → Nat) (bound : Nat) (s s' : HealthState) :
    Prop where
  known_eq : s.withoutFlags = s'.withoutFlags
  recordDeferred_eq : s.recordDeferred = s'.recordDeferred
  slot : ∀ flag, (s.pendingSlot flag).Alike (shift flag) bound (s'.pendingSlot flag)

namespace HealthState.Alike

variable {shift : PendingFlag → Nat} {bound : Nat} {s s' t t' : HealthState}

theorem mono (h : Alike shift bound s s') {bound' : Nat} (hle : bound ≤ bound') :
    Alike shift bound' s s' :=
  ⟨h.known_eq, h.recordDeferred_eq, fun flag => (h.slot flag).mono hle⟩

/-- What does not touch the flags does not matter, if it is done to both. -/
theorem of_slots (h : Alike shift bound s s') (hknown : t.withoutFlags = t'.withoutFlags)
    (hdeferred : t.recordDeferred = t'.recordDeferred) (hslot : t.pendingSlot = s.pendingSlot)
    (hslot' : t'.pendingSlot = s'.pendingSlot) : Alike shift bound t t' := by
  refine ⟨hknown, hdeferred, fun flag => ?_⟩
  rw [hslot, hslot']
  exact h.slot flag

theorem stamp_eq (h : Alike shift bound s s') (now : Instant) : s.stamp now = s'.stamp now :=
  stamp_eq_of_origin_eq (congrArg (·.origin) h.known_eq) now

theorem sender_eq (h : Alike shift bound s s') : s.sender = s'.sender :=
  congrArg (·.sender) h.known_eq

theorem isPending_eq (h : Alike shift bound s s') (flag : PendingFlag) :
    s.isPending flag = s'.isPending flag := (h.slot flag).raised_eq

theorem setPendingSlot (h : Alike shift bound s s') (flag : PendingFlag) {slot slot' : PendingSlot}
    (hslot : slot.Alike (shift flag) bound slot') :
    Alike shift bound (s.setPendingSlot flag slot) (s'.setPendingSlot flag slot') := by
  refine ⟨?_, ?_, fun f => ?_⟩
  · rw [withoutFlags_setPendingSlot, withoutFlags_setPendingSlot]
    exact h.known_eq
  · cases flag <;> exact h.recordDeferred_eq
  · by_cases hf : flag = f
    · subst hf
      rw [pendingSlot_setPendingSlot_self, pendingSlot_setPendingSlot_self]
      exact hslot
    · rw [pendingSlot_setPendingSlot_of_ne _ hf, pendingSlot_setPendingSlot_of_ne _ hf]
      exact h.slot f

theorem confirm (h : Alike shift bound s s') (flag : PendingFlag) :
    (s.confirm flag).1 = (s'.confirm flag).1 ∧
      Alike shift bound (s.confirm flag).2 (s'.confirm flag).2 := by
  obtain ⟨hup, hslot⟩ := (h.slot flag).confirm
  exact ⟨hup, h.setPendingSlot flag hslot⟩

end HealthState.Alike

/-! ## Sequences -/

/-- The sequences differ by their numbers, by their letters, and by the generations that they have
raised. -/
structure RepeatSequence.Alike (shift : PendingFlag → Nat) (s s' : RepeatSequence) : Prop where
  reason_eq : s.reason = s'.reason
  tracking_eq : s.tracking =
    s'.tracking.map fun (flag, generation) => (flag, generation + shift flag)
  tracking_pos : ∀ flag generation, s'.tracking = some (flag, generation) → 0 < generation
  target_eq : s.target = s'.target
  timing_eq : s.timing = s'.timing
  burstsLeft_eq : s.burstsLeft = s'.burstsLeft
  datagramsLeft_eq : s.datagramsLeft = s'.datagramsLeft

/-- What two sequences do at the same time: they send to the same places and pause equally long. -/
structure RepeatSequence.Progress.Alike (shift : PendingFlag → Nat) (bound : Nat)
    (p p' : Progress) : Prop where
  targets_eq : p.sent.map Datagram.target = p'.sent.map Datagram.target
  health : p.health.Alike shift bound p'.health
  next : Option.Rel (fun x x' => x.1 = x'.1 ∧ x.2.Alike shift x'.2) p.next p'.next

namespace RepeatSequence.Progress.Alike

variable {shift : PendingFlag → Nat} {bound : Nat} {p p' : Progress} {pause : Duration}

theorem exists_next (h : p.Alike shift bound p') {s : RepeatSequence}
    (hnext : p.next = some (pause, s)) : ∃ s', p'.next = some (pause, s') ∧ s.Alike shift s' := by
  have hrel := h.next
  rw [hnext] at hrel
  generalize p'.next = next' at hrel ⊢
  cases hrel with
  | some hboth =>
    obtain ⟨rfl, hs⟩ := hboth
    exact ⟨_, rfl, hs⟩

theorem exists_next' (h : p.Alike shift bound p') {s' : RepeatSequence}
    (hnext' : p'.next = some (pause, s')) : ∃ s, p.next = some (pause, s) ∧ s.Alike shift s' := by
  have hrel := h.next
  rw [hnext'] at hrel
  generalize p.next = next at hrel ⊢
  cases hrel with
  | some hboth =>
    obtain ⟨rfl, hs⟩ := hboth
    exact ⟨_, rfl, hs⟩

end RepeatSequence.Progress.Alike

namespace RepeatSequence.Alike

variable {shift : PendingFlag → Nat} {bound : Nat} {s s' : RepeatSequence}
  {health health' : HealthState}

theorem pause_eq (h : s.Alike shift s') : s.pause = s'.pause := by
  rw [pause, pause, gap, gap, h.reason_eq, h.timing_eq, h.burstsLeft_eq, h.datagramsLeft_eq]

theorem isAnswered_eq (h : s.Alike shift s') (hhealth : health.Alike shift bound health') :
    s.isAnswered health = s'.isAnswered health' := by
  have htracking := h.tracking_eq
  cases ht : s'.tracking with
  | none =>
    rw [ht, Option.map_none] at htracking
    simp only [isAnswered, ht, htracking]
  | some claim =>
    obtain ⟨flag, generation⟩ := claim
    rw [ht, Option.map_some] at htracking
    have hwaits := (hhealth.slot flag).isAwaiting (h.tracking_pos flag generation ht)
    simp only [isAnswered, ht, htracking, HealthState.isAwaiting, hwaits]

theorem giveUp (h : s.Alike shift s') (hhealth : health.Alike shift bound health') :
    (s.giveUp health).Alike shift bound (s'.giveUp health') := by
  have htracking := h.tracking_eq
  cases ht : s'.tracking with
  | none =>
    rw [ht, Option.map_none] at htracking
    simp only [RepeatSequence.giveUp, ht, htracking]
    exact hhealth
  | some claim =>
    obtain ⟨flag, generation⟩ := claim
    rw [ht, Option.map_some] at htracking
    simp only [RepeatSequence.giveUp, ht, htracking]
    exact hhealth.setPendingSlot flag ((hhealth.slot flag).withdraw generation)

theorem step (h : s.Alike shift s') (hhealth : health.Alike shift bound health')
    (tokens tokens' : Nat → Token) (drawn drawn' : Nat) :
    (s.step tokens drawn health).Alike shift bound (s'.step tokens' drawn' health') := by
  have hanswered := h.isAnswered_eq hhealth
  have hgiveUp := h.giveUp hhealth
  have hleft := h.datagramsLeft_eq
  have hbursts := h.burstsLeft_eq
  cases hd : s'.datagramsLeft with
  | succ d =>
    rw [hd] at hleft
    simp only [RepeatSequence.step, hd, hleft]
    have hnext : Alike shift { s with datagramsLeft := d } { s' with datagramsLeft := d } :=
      ⟨h.reason_eq, h.tracking_eq, h.tracking_pos, h.target_eq, h.timing_eq, h.burstsLeft_eq, rfl⟩
    exact ⟨congrArg ([·]) h.target_eq, hhealth, .some ⟨hnext.pause_eq, hnext⟩⟩
  | zero =>
    rw [hd] at hleft
    cases hb : s'.burstsLeft with
    | zero =>
      rw [hb] at hbursts
      simp only [RepeatSequence.step, hd, hleft, hb, hbursts]
      exact ⟨rfl, hgiveUp, .none⟩
    | succ b =>
      rw [hb] at hbursts
      simp only [RepeatSequence.step, hd, hleft, hb, hbursts, hanswered, h.timing_eq]
      split
      · exact ⟨rfl, hhealth, .none⟩
      · have hnext : Alike shift
            { s with
              timing := s'.timing, burstsLeft := b, datagramsLeft := s'.timing.datagramsPerBurst
              token := tokens drawn }
            { s' with
              burstsLeft := b, datagramsLeft := s'.timing.datagramsPerBurst
              token := tokens' drawn' } :=
          ⟨h.reason_eq, h.tracking_eq, h.tracking_pos, h.target_eq, rfl, rfl, rfl⟩
        exact ⟨rfl, hhealth, .some ⟨by rw [hnext.pause_eq], hnext⟩⟩

/-- Both take the same steps, since both pause equally long after each. -/
theorem resume (h : s.Alike shift s') (hhealth : health.Alike shift bound health')
    (tokens tokens' : Nat → Token) (drawn drawn' : Nat) :
    (s.resume tokens drawn health).Alike shift bound (s'.resume tokens' drawn' health') := by
  fun_induction RepeatSequence.resume tokens drawn health s generalizing s' drawn' health' with
  | case1 drawn health s next hnext o =>
    rename_i _ ih
    have hstep := h.step hhealth tokens tokens' drawn drawn'
    obtain ⟨next', hnext', hnexts⟩ := hstep.exists_next hnext
    have hlater := ih hnexts hstep.health (s'.step tokens' drawn' health').drawn
    rw [RepeatSequence.resume_of_next hnext']
    refine ⟨?_, hlater.health, hlater.next⟩
    rw [List.map_append, List.map_append, hlater.targets_eq]
    exact congrArg (· ++ _) hstep.targets_eq
  | case2 drawn health s hnext =>
    have hstep := h.step hhealth tokens tokens' drawn drawn'
    have hpause : ∀ next', (s'.step tokens' drawn' health').next ≠ some (0, next') := by
      intro next' hnext'
      obtain ⟨next, hs, -⟩ := hstep.exists_next' hnext'
      exact hnext next hs
    rw [RepeatSequence.resume_of_pause hpause]
    exact hstep

end RepeatSequence.Alike

/-! ## Sequences on the clock -/

/-- The sequences are alike and go on at the same time. -/
structure RepeatTask.Alike (shift : PendingFlag → Nat) (t t' : RepeatTask) : Prop where
  sequence : t.sequence.Alike shift t'.sequence
  due_eq : t.due = t'.due

namespace RepeatTask

variable {shift : PendingFlag → Nat} {tasks tasks' : List RepeatTask}

theorem alike_start (h : List.Forall₂ (Alike shift) tasks tasks') (now : Instant) :
    List.Forall₂ (Alike shift) (tasks.map (start now)) (tasks'.map (start now)) := by
  rw [List.forall₂_map_left_iff, List.forall₂_map_right_iff]
  refine h.imp fun t t' ht => ⟨ht.sequence, ?_⟩
  show some (t.due.getD now) = some (t'.due.getD now)
  rw [ht.due_eq]

/-- What is taken out of two lists: like tasks at the same time, and what is left is alike. -/
def TakenAlike (shift : PendingFlag → Nat) (x x' : Instant × RepeatTask × List RepeatTask) : Prop :=
  x.1 = x'.1 ∧ x.2.1.Alike shift x'.2.1 ∧ List.Forall₂ (Alike shift) x.2.2 x'.2.2

theorem alike_takeFirst (h : List.Forall₂ (Alike shift) tasks tasks') :
    Option.Rel (TakenAlike shift) (takeFirst tasks) (takeFirst tasks') := by
  induction h with
  | nil => exact .none
  | @cons t t' rest rest' ht hrest ih =>
    simp only [takeFirst, ht.due_eq]
    generalize takeFirst rest = later at ih ⊢
    generalize takeFirst rest' = later' at ih ⊢
    cases ih with
    | none =>
      cases t'.due with
      | none => exact .none
      | some due => exact .some ⟨rfl, ht, hrest⟩
    | @some x x' hx =>
      obtain ⟨time, u, us⟩ := x
      obtain ⟨time', u', us'⟩ := x'
      obtain ⟨htime, hu, hus⟩ := hx
      obtain rfl : time = time' := htime
      cases t'.due with
      | none => exact .some ⟨rfl, hu, .cons ht hus⟩
      | some due =>
        dsimp only
        split
        · exact .some ⟨rfl, ht, hrest⟩
        · exact .some ⟨rfl, hu, .cons ht hus⟩

theorem alike_takeDue (h : List.Forall₂ (Alike shift) tasks tasks') (limit : Option Instant) :
    Option.Rel (TakenAlike shift) (takeDue limit tasks) (takeDue limit tasks') := by
  have hfirst := alike_takeFirst h
  unfold takeDue
  generalize takeFirst tasks = first at hfirst ⊢
  generalize takeFirst tasks' = first' at hfirst ⊢
  cases hfirst with
  | none => exact .none
  | @some x x' hx =>
    obtain ⟨time, u, us⟩ := x
    obtain ⟨time', u', us'⟩ := x'
    obtain rfl : time = time' := hx.1
    dsimp only
    split
    · exact .some hx
    · exact .none

end RepeatTask

/-- When and where an attempt sends. -/
def Attempt.place (a : Attempt) : Option Instant × Net.Endpoint := (some a.time, a.datagram.target)

/-- The runs have sent at the same times to the same places, and their sequences are alike. -/
structure RepeatRun.Alike (shift : PendingFlag → Nat) (bound : Nat) (run run' : RepeatRun) :
    Prop where
  now_eq : run.now = run'.now
  health : run.health.Alike shift bound run'.health
  tasks : List.Forall₂ (RepeatTask.Alike shift) run.tasks run'.tasks
  places_eq : run.attempts.map Attempt.place = run'.attempts.map Attempt.place

namespace RepeatRun.Alike

variable {shift : PendingFlag → Nat} {bound : Nat} {run run' : RepeatRun}

theorem resume (h : run.Alike shift bound run') {t t' : RepeatTask} {rest rest' : List RepeatTask}
    (ht : t.Alike shift t') (hrest : List.Forall₂ (RepeatTask.Alike shift) rest rest')
    (tokens tokens' : Nat → Token) (time : Instant) :
    (run.resume tokens time t rest).Alike shift bound (run'.resume tokens' time t' rest') := by
  have hresume := ht.sequence.resume h.health tokens tokens' run.drawn run'.drawn
  refine ⟨rfl, hresume.health, ?_, ?_⟩
  · rw [tasks_resume, tasks_resume]
    refine List.rel_append hrest ?_
    have hnext := hresume.next
    generalize (t.sequence.resume tokens run.drawn run.health).next = next at hnext ⊢
    generalize (t'.sequence.resume tokens' run'.drawn run'.health).next = next' at hnext ⊢
    cases hnext with
    | none => exact .nil
    | @some x x' hx => exact .cons ⟨hx.2, congrArg (fun pause => some (time + pause)) hx.1⟩ .nil
  · have hplaces : ∀ sent : List Datagram, (sent.map (Attempt.mk time)).map Attempt.place =
        (sent.map Datagram.target).map (some time, ·) := by
      intro sent
      rw [List.map_map, List.map_map]
      rfl
    show List.map _ (_ ++ _) = List.map _ (_ ++ _)
    rw [List.map_append, List.map_append, h.places_eq, hplaces, hplaces, hresume.targets_eq]

theorem untilLimit (h : run.Alike shift bound run') (tokens tokens' : Nat → Token)
    (limit : Option Instant) :
    (run.untilLimit tokens limit).Alike shift bound (run'.untilLimit tokens' limit) := by
  fun_induction RepeatRun.untilLimit tokens limit run generalizing run' with
  | case1 run time t rest hdue ih =>
    have htaken := RepeatTask.alike_takeDue h.tasks limit
    rw [hdue] at htaken
    cases hdue' : RepeatTask.takeDue limit run'.tasks with
    | none =>
      rw [hdue'] at htaken
      cases htaken
    | some taken =>
      obtain ⟨time', t', rest'⟩ := taken
      rw [hdue'] at htaken
      cases htaken with
      | some htaken =>
        obtain ⟨htime, ht, hrest⟩ := htaken
        obtain rfl : time = time' := htime
        rw [untilLimit_of_takeDue tokens' hdue']
        exact ih (h.resume ht hrest tokens tokens' time)
  | case2 run hdue =>
    have htaken := RepeatTask.alike_takeDue h.tasks limit
    rw [hdue] at htaken
    have hdue' : RepeatTask.takeDue limit run'.tasks = none := by
      generalize RepeatTask.takeDue limit run'.tasks = taken at htaken
      cases htaken
      rfl
    rw [untilLimit_of_takeDue_eq_none tokens' hdue']
    exact h

end RepeatRun.Alike

/-! ## Requesters -/

/-- The requesters have the same settings, and their flags and sequences are alike. -/
structure Requester.Alike (shift : PendingFlag → Nat) (bound : Nat) (r r' : Requester) : Prop where
  codec_eq : r.codec = r'.codec
  port_eq : r.port = r'.port
  timing_eq : r.timing = r'.timing
  enabled_eq : r.enabled = r'.enabled
  health : r.health.Alike shift bound r'.health
  tasks : List.Forall₂ (RepeatTask.Alike shift) r.tasks r'.tasks

/-- How many flags a request raises. -/
def Requester.raiseCount (r : Requester) (reason : RepairReason) : Nat :=
  if r.enabled && reason.tracking.isSome then 1 else 0

/-- How many flags a deferred request raises when it is made again. -/
def Requester.retryCount (r : Requester) : Nat :=
  if r.health.recordDeferred then r.raiseCount .recordStartDeferred else 0

/-- When and where the next step of a sequence sends. The step is taken when the sequence is due. -/
def Requester.stepPlaces (r : Requester) (tokens : Nat → Token) (index : Nat) :
    List (Option Instant × Net.Endpoint) :=
  match r.tasks[index]? with
  | some t => (t.sequence.step tokens r.drawn r.health).sent.map fun d => (t.due, d.target)
  | none => []

theorem HealthState.Alike.raise {shift : PendingFlag → Nat} {bound : Nat} {s s' : HealthState}
    (h : s.Alike shift bound s') (flag : PendingFlag) (hbound : bound + 1 < 2 ^ 63) :
    (s.raise flag).1 = (s'.raise flag).1 + shift flag ∧ 0 < (s'.raise flag).1 ∧
      (s.raise flag).2.Alike shift (bound + 1) (s'.raise flag).2 := by
  obtain ⟨hgeneration, hpos, hslot⟩ := (h.slot flag).raise hbound
  exact ⟨hgeneration, hpos, (h.mono (Nat.le_succ bound)).setPendingSlot flag hslot⟩

namespace Requester.Alike

variable {shift : PendingFlag → Nat} {bound : Nat} {r r' : Requester}

theorem of_health (h : r.Alike shift bound r') {bound' : Nat} {health health' : HealthState}
    (hhealth : health.Alike shift bound' health') :
    Alike shift bound' { r with health } { r' with health := health' } :=
  ⟨h.codec_eq, h.port_eq, h.timing_eq, h.enabled_eq, hhealth, h.tasks⟩

/-- A request raises its flag in both, if it has one; the generations stay apart. -/
theorem raiseFor (h : r.Alike shift bound r') (he : r.enabled = true) (reason : RepairReason)
    (hbound : bound + r.raiseCount reason < 2 ^ 63) :
    ((r.health.raiseFor reason).1 = (r'.health.raiseFor reason).1.map
        fun (flag, generation) => (flag, generation + shift flag)) ∧
      (∀ flag generation, (r'.health.raiseFor reason).1 = some (flag, generation) →
        0 < generation) ∧
      (r.health.raiseFor reason).2.Alike shift (bound + r.raiseCount reason)
        (r'.health.raiseFor reason).2 := by
  cases ht : reason.tracking with
  | none =>
    simp only [HealthState.raiseFor, raiseCount, ht, Option.isSome_none, Bool.and_false]
    exact ⟨rfl, by simp, h.health⟩
  | some flag =>
    have hcount : r.raiseCount reason = 1 := by rw [raiseCount, he, ht]; rfl
    rw [hcount] at hbound ⊢
    obtain ⟨hgeneration, hpos, hhealth⟩ := h.health.raise flag hbound
    simp only [HealthState.raiseFor, ht, Option.map_some, hgeneration]
    refine ⟨trivial, fun f generation hf => ?_, hhealth⟩
    cases hf
    exact hpos

theorem request (h : r.Alike shift bound r') (reason : RepairReason) (repeats : Nat)
    (allowDeferred : Bool) (hbound : bound + r.raiseCount reason < 2 ^ 63) :
    (r.request reason repeats allowDeferred).1 = (r'.request reason repeats allowDeferred).1 ∧
      (r.request reason repeats allowDeferred).2.Alike shift (bound + r.raiseCount reason)
        (r'.request reason repeats allowDeferred).2 := by
  by_cases he : r.enabled = true
  swap
  · have hoff : r.enabled = false := Bool.eq_false_iff.2 he
    have hcount : r.raiseCount reason = 0 := by rw [raiseCount, hoff]; rfl
    rw [hcount, request_of_disabled hoff, request_of_disabled (h.enabled_eq.symm.trans hoff)]
    exact ⟨rfl, h⟩
  have he' : r'.enabled = true := h.enabled_eq.symm.trans he
  obtain ⟨htracking, hpos, hhealth⟩ := h.raiseFor he reason hbound
  have hsender := hhealth.sender_eq
  cases hs : (r.health.raiseFor reason).2.sender with
  | none =>
    rw [request_of_no_sender he hs, request_of_no_sender he' (hsender.symm.trans hs)]
    cases allowDeferred with
    | false => exact ⟨rfl, h.of_health hhealth⟩
    | true =>
      have hdeferred : HealthState.Alike shift (bound + r.raiseCount reason)
          { (r.health.raiseFor reason).2 with recordDeferred := true }
          { (r'.health.raiseFor reason).2 with recordDeferred := true } :=
        hhealth.of_slots hhealth.known_eq rfl rfl rfl
      exact ⟨rfl, h.of_health hdeferred⟩
  | some sender =>
    rw [request_of_sender he hs, request_of_sender he' (hsender.symm.trans hs)]
    refine ⟨rfl, h.codec_eq, h.port_eq, h.timing_eq, h.enabled_eq, hhealth,
      List.rel_append h.tasks (.cons ⟨⟨rfl, htracking, hpos, ?_, h.timing_eq, rfl, rfl⟩, rfl⟩ .nil)⟩
    show sender.withPort r.port = sender.withPort r'.port
    rw [h.port_eq]

theorem retryDeferred (h : r.Alike shift bound r') (repeats : Nat)
    (hbound : bound + r.retryCount < 2 ^ 63) :
    (r.retryDeferred repeats).1 = (r'.retryDeferred repeats).1 ∧
      (r.retryDeferred repeats).2.Alike shift (bound + r.retryCount)
        (r'.retryDeferred repeats).2 := by
  have hsame : (r.enabled && r.health.recordDeferred) =
      (r'.enabled && r'.health.recordDeferred) := by
    rw [h.enabled_eq, h.health.recordDeferred_eq]
  unfold Requester.retryDeferred
  by_cases hretry : (r.enabled && r.health.recordDeferred) = true
  · rw [if_pos hretry, if_pos (hsame.symm.trans hretry)]
    rw [Bool.and_eq_true] at hretry
    have hcount : r.retryCount = r.raiseCount .recordStartDeferred := if_pos hretry.2
    rw [hcount] at hbound ⊢
    have hcleared : Alike shift bound
        { r with health := { r.health with recordDeferred := false } }
        { r' with health := { r'.health with recordDeferred := false } } :=
      h.of_health (h.health.of_slots h.health.known_eq rfl rfl rfl)
    obtain ⟨houtcome, halike⟩ := hcleared.request .recordStartDeferred repeats false hbound
    exact ⟨congrArg some houtcome, halike⟩
  · rw [if_neg hretry, if_neg (hsame ▸ hretry)]
    exact ⟨rfl, h.of_health (h.health.mono (Nat.le_add_right bound _))⟩

theorem observe (h : r.Alike shift bound r') (data : Bytes) :
    (r.observe data).1 = (r'.observe data).1 ∧
      (r.observe data).2.Alike shift bound (r'.observe data).2 := by
  have hsame : (r.enabled && (r.health.isPending .stream || r.health.isPending .record)) =
      (r'.enabled && (r'.health.isPending .stream || r'.health.isPending .record)) := by
    rw [h.enabled_eq, h.health.isPending_eq, h.health.isPending_eq]
  have hfound : AnnexB.findKeyframe r.codec data = AnnexB.findKeyframe r'.codec data := by
    rw [h.codec_eq]
  obtain ⟨-, hstream⟩ := h.health.confirm .stream
  obtain ⟨hrecorded, hboth⟩ := hstream.confirm .record
  unfold Requester.observe
  by_cases hpending : (r.enabled &&
      (r.health.isPending .stream || r.health.isPending .record)) = true
  · rw [if_pos hpending, if_pos (hsame.symm.trans hpending), hfound]
    cases AnnexB.findKeyframe r'.codec data with
    | none => exact ⟨rfl, h⟩
    | some nalType =>
      dsimp only
      rw [hrecorded]
      refine ⟨rfl, h.of_health ?_⟩
      split
      · exact hboth.of_slots hboth.known_eq rfl rfl rfl
      · exact hboth
  · rw [if_neg hpending, if_neg (hsame ▸ hpending)]
    exact ⟨rfl, h⟩

theorem runLimited (h : r.Alike shift bound r') (tokens tokens' : Nat → Token)
    (limit : Option Instant) (now : Instant) :
    (r.runLimited tokens limit now).1.map Attempt.place =
        (r'.runLimited tokens' limit now).1.map Attempt.place ∧
      (r.runLimited tokens limit now).2.1 = (r'.runLimited tokens' limit now).2.1 ∧
      (r.runLimited tokens limit now).2.2.Alike shift bound
        (r'.runLimited tokens' limit now).2.2 := by
  have hclocked : RepeatRun.Alike shift bound
      ⟨now, r.health, r.drawn, r.tasks.map (.start now), []⟩
      ⟨now, r'.health, r'.drawn, r'.tasks.map (.start now), []⟩ :=
    ⟨rfl, h.health, RepeatTask.alike_start h.tasks now, rfl⟩
  have hrun := hclocked.untilLimit tokens tokens' limit
  exact ⟨hrun.places_eq, hrun.now_eq, h.codec_eq, h.port_eq, h.timing_eq, h.enabled_eq, hrun.health,
    hrun.tasks⟩

/-- A step of a sequence under way, or of none if there is none at that place. -/
theorem proceed (h : r.Alike shift bound r') (tokens tokens' : Nat → Token) (index : Nat)
    (due : Option Instant) :
    r.stepPlaces tokens index = r'.stepPlaces tokens' index ∧
      (RepairRun.proceed tokens ⟨r, []⟩ index due).requester.Alike shift bound
        (RepairRun.proceed tokens' ⟨r', []⟩ index due).requester := by
  have hlength := h.tasks.length_eq
  by_cases hlt : index < r.tasks.length
  · have ht := h.tasks.get hlt (hlength ▸ hlt)
    have hget : r.tasks[index]? = some (r.tasks.get ⟨index, hlt⟩) := List.getElem?_eq_getElem hlt
    have hget' : r'.tasks[index]? = some (r'.tasks.get ⟨index, hlength ▸ hlt⟩) :=
      List.getElem?_eq_getElem (hlength ▸ hlt)
    generalize r.tasks.get ⟨index, hlt⟩ = t at ht hget
    generalize r'.tasks.get ⟨index, hlength ▸ hlt⟩ = t' at ht hget'
    have hstep := ht.sequence.step h.health tokens tokens' r.drawn r'.drawn
    have hothers : List.Forall₂ (RepeatTask.Alike shift) (r.tasks.eraseIdx index)
        (r'.tasks.eraseIdx index) := by
      rw [List.eraseIdx_eq_take_drop_succ, List.eraseIdx_eq_take_drop_succ]
      exact List.rel_append (List.forall₂_take index h.tasks)
        (List.forall₂_drop (index + 1) h.tasks)
    constructor
    · have hplaces : ∀ sent : List Datagram, sent.map (fun d => (t.due, d.target)) =
          (sent.map Datagram.target).map (t.due, ·) := fun sent => List.map_map.symm
      simp only [stepPlaces, hget, hget', ← ht.due_eq]
      rw [hplaces, hplaces, hstep.targets_eq]
    · rw [RepairRun.proceed_of_getElem? (r := ⟨r, []⟩) hget,
        RepairRun.proceed_of_getElem? (r := ⟨r', []⟩) hget']
      refine ⟨h.codec_eq, h.port_eq, h.timing_eq, h.enabled_eq, hstep.health,
        List.rel_append hothers ?_⟩
      have hnext := hstep.next
      dsimp only
      generalize (t.sequence.step tokens r.drawn r.health).next = next at hnext ⊢
      generalize (t'.sequence.step tokens' r'.drawn r'.health).next = next' at hnext ⊢
      cases hnext with
      | none => exact .nil
      | @some x x' hx => exact .cons ⟨hx.2, rfl⟩ .nil
  · have hget : r.tasks[index]? = none := List.getElem?_eq_none (Nat.le_of_not_lt hlt)
    have hget' : r'.tasks[index]? = none :=
      List.getElem?_eq_none (Nat.le_of_not_lt (hlength ▸ hlt))
    simp only [stepPlaces, RepairRun.proceed, hget, hget']
    exact ⟨trivial, h⟩

end Requester.Alike

end VideoReceiver
