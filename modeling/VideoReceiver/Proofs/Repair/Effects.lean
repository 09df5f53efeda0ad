import VideoReceiver.Proofs.Repair.Ownership

/-!
# What an action does to a run

Whatever happens to a requester has one of a few effects on its flags, on the sequences under way
and on the history. What every run keeps is shown once for each effect.

## Main definitions

- `RepeatSequence.isBurstDue`, `RepeatSequence.attemptsLeft`: how far a sequence has got
- `RepairRun.Effect`: the effects, each with what the sequences are seen to do

## Main statements

- `RepeatSequence.stepped`: what a step of a sequence can be
- `RepairRun.effect_act`: every action has one of the effects
-/

namespace VideoReceiver

namespace RepeatSequence

/-- The last burst has been sent to its end, and there is another one. -/
def isBurstDue (s : RepeatSequence) : Bool := s.datagramsLeft == 0 && s.burstsLeft != 0

/-- How many attempts the sequence makes before it gives up, if it is not answered. -/
def attemptsLeft (s : RepeatSequence) : Nat :=
  s.burstsLeft * s.timing.datagramsPerBurst + s.datagramsLeft

/-- The number, the flag and the timing of a sequence stay as it goes on. -/
structure GoesOn (s s' : RepeatSequence) : Prop where
  claim_eq : s'.claim = s.claim
  timing_eq : s'.timing = s.timing

/-- What a step of a sequence is seen to do, the health state that it leaves, and the sequence if
it goes on. -/
inductive Stepped (health : HealthState) (s : RepeatSequence) :
    List SequenceEvent → HealthState → Option RepeatSequence → Prop where
  | sent (datagram : Datagram) (s' : RepeatSequence) (hmid : s.datagramsLeft ≠ 0)
      (hgoes : GoesOn s s') (hleft : s.attemptsLeft = s'.attemptsLeft + 1) :
      Stepped health s [SequenceEvent.sent s datagram] health (some s')
  | began (s' : RepeatSequence) (hdue : s.isBurstDue = true)
      (hwaiting : s.isAnswered health = false) (hgoes : GoesOn s s')
      (hleft : s.attemptsLeft = s'.attemptsLeft) :
      Stepped health s [SequenceEvent.began s] health (some s')
  /-- The sequence has found before a burst that its request no longer waits. -/
  | answered (hdue : s.isBurstDue = true) (hanswered : s.isAnswered health = true) :
      Stepped health s [SequenceEvent.ended s] health none
  | exhausted (hend : s.isExhausted = true) :
      Stepped health s [SequenceEvent.ended s] (s.giveUp health) none

theorem stepped (tokens : Nat → Token) (drawn : Nat) (health : HealthState)
    (s : RepeatSequence) :
    s.Stepped health (s.stepLog tokens drawn health) (s.step tokens drawn health).health
      ((s.step tokens drawn health).next.map Prod.snd) := by
  rcases hd : s.datagramsLeft with _ | d
  · rcases hb : s.burstsLeft with _ | b
    · have hlog : s.stepLog tokens drawn health = [.ended s] := by simp [stepLog, step, hd, hb]
      have hstep : s.step tokens drawn health =
          { sent := [], health := s.giveUp health, drawn, next := none } := by simp [step, hd, hb]
      rw [hlog, hstep]
      exact .exhausted (by simp [isExhausted, hd, hb])
    · have hdue : s.isBurstDue = true := by simp [isBurstDue, hd, hb]
      rcases ha : s.isAnswered health with _ | _
      · have hlog : s.stepLog tokens drawn health = [.began s] := by
          simp [stepLog, step, hd, hb, ha]
        rw [hlog]
        simp only [step, hd, hb, ha]
        refine .began _ hdue ha ⟨rfl, rfl⟩ ?_
        simp [attemptsLeft, hd, hb, Nat.succ_mul]
      · have hlog : s.stepLog tokens drawn health = [.ended s] := by
          simp [stepLog, step, hd, hb, ha]
        have hstep : s.step tokens drawn health = { sent := [], health, drawn, next := none } := by
          simp [step, hd, hb, ha]
        rw [hlog, hstep]
        exact .answered hdue ha
  · have hlog : s.stepLog tokens drawn health = [.sent s ⟨s.target, s.token.payload⟩] := by
      simp [stepLog, step, hd]
    rw [hlog]
    simp only [step, hd]
    refine .sent _ _ (by simp [hd]) ⟨rfl, rfl⟩ ?_
    simp [attemptsLeft, hd, Nat.add_assoc]

/-- A step begins a burst if one is due and the request still waits. -/
theorem began_mem_stepLog_iff (tokens : Nat → Token) (drawn : Nat) (health : HealthState)
    (s : RepeatSequence) :
    .began s ∈ s.stepLog tokens drawn health ↔
      s.isBurstDue = true ∧ s.isAnswered health = false := by
  have hstep := s.stepped tokens drawn health
  generalize s.stepLog tokens drawn health = log at hstep ⊢
  generalize (s.step tokens drawn health).health = health' at hstep
  generalize (s.step tokens drawn health).next.map Prod.snd = next at hstep
  cases hstep with
  | sent datagram s' hmid => simp [isBurstDue, hmid]
  | began s' hdue hwaiting => simp [hdue, hwaiting]
  | answered hdue hanswered => simp [hanswered]
  | exhausted hend =>
    simp only [isExhausted, Bool.and_eq_true, beq_iff_eq] at hend
    simp [isBurstDue, hend.2]

/-- A sequence before a burst that is due ends if its request no longer waits. -/
theorem ended_mem_stepLog_iff (tokens : Nat → Token) (drawn : Nat) (health : HealthState)
    {s : RepeatSequence} (hdue : s.isBurstDue = true) :
    .ended s ∈ s.stepLog tokens drawn health ↔ s.isAnswered health = true := by
  have hstep := s.stepped tokens drawn health
  generalize s.stepLog tokens drawn health = log at hstep ⊢
  generalize (s.step tokens drawn health).health = health' at hstep
  generalize (s.step tokens drawn health).next.map Prod.snd = next at hstep
  cases hstep with
  | sent datagram s' hmid => simp [isBurstDue, hmid] at hdue
  | began s' _ hwaiting => simp [hwaiting]
  | answered _ hanswered => simp [hanswered]
  | exhausted hend =>
    simp only [isExhausted, Bool.and_eq_true, beq_iff_eq] at hend
    simp [isBurstDue, hend.2] at hdue

theorem isExhausted_of_isBurstDue (s : RepeatSequence) (h : s.isBurstDue = true) :
    s.isExhausted = false := by
  simp only [isBurstDue, Bool.and_eq_true, bne_iff_ne] at h
  simp [isExhausted, h.2]

theorem isAnswered_of_tracking {s : RepeatSequence} {flag : PendingFlag} {generation : Nat}
    (h : s.tracking = some (flag, generation)) (health : HealthState) :
    s.isAnswered health = !(health.pendingSlot flag).isAwaiting generation := by
  simp only [isAnswered, h, HealthState.isAwaiting]

/-- Only a sequence that tracks a flag is ever answered. -/
theorem of_isAnswered (s : RepeatSequence) {health : HealthState}
    (h : s.isAnswered health = true) : ∃ flag generation, s.tracking = some (flag, generation) ∧
      (health.pendingSlot flag).isAwaiting generation = false := by
  rcases htracking : s.tracking with _ | ⟨flag, generation⟩
  · simp [isAnswered, htracking] at h
  · rw [isAnswered_of_tracking htracking, Bool.not_eq_true'] at h
    exact ⟨flag, generation, rfl, h⟩

end RepeatSequence

/-- A request starts one sequence if a sender is known, and none otherwise. -/
theorem Requester.request_tasks {r : Requester} (he : r.enabled = true) (reason : RepairReason)
    (repeats : Nat) (allowDeferred : Bool) :
    (((r.request reason repeats allowDeferred).1 = .deferred ∨
          (r.request reason repeats allowDeferred).1 = .noSender) ∧
        (r.request reason repeats allowDeferred).2.dispatched = r.dispatched ∧
        (r.request reason repeats allowDeferred).2.tasks = r.tasks) ∨
      (r.request reason repeats allowDeferred).1 = .dispatched ∧
        (r.request reason repeats allowDeferred).2.dispatched = r.dispatched + 1 ∧
        ∃ s, (r.request reason repeats allowDeferred).2.tasks = r.tasks ++ [⟨s, none⟩] ∧
          s.claim = (r.dispatched + 1, (r.health.raiseFor reason).1) ∧ s.datagramsLeft = 0 := by
  rcases hs : (r.health.raiseFor reason).2.sender with _ | sender
  · rw [request_of_no_sender he hs]
    cases allowDeferred with
    | false => exact .inl ⟨.inr rfl, rfl, rfl⟩
    | true => exact .inl ⟨.inl rfl, rfl, rfl⟩
  · rw [request_of_sender he hs]
    exact .inr ⟨rfl, rfl, _, rfl, rfl, rfl⟩

theorem Requester.tasks_observe (r : Requester) (data : Bytes) :
    (r.observe data).2.tasks = r.tasks := by
  unfold observe
  split
  · split <;> rfl
  · rfl

namespace RepairRun

def slot (r : RepairRun) (flag : PendingFlag) : PendingSlot := r.requester.health.pendingSlot flag

def sequences (r : RepairRun) : List RepeatSequence := r.requester.tasks.map (·.sequence)

theorem claims_eq_map (r : RepairRun) :
    r.requester.claims = r.sequences.map RepeatSequence.claim := by
  simp [Requester.claims, sequences]

theorem claims_of_sequences_eq {r r' : RepairRun} (h : r'.sequences = r.sequences) :
    r'.requester.claims = r.requester.claims := by
  rw [claims_eq_map, claims_eq_map, h]

theorem claims_of_sequences_append {r r' : RepairRun} {s : RepeatSequence}
    (h : r'.sequences = r.sequences ++ [s]) :
    r'.requester.claims = r.requester.claims ++ [s.claim] := by
  rw [claims_eq_map, claims_eq_map, h, List.map_append, List.map_singleton]

theorem claims_perm_of_goesOn {r r' : RepairRun} {s s' : RepeatSequence}
    {others : List RepeatSequence} (hperm : (s :: others).Perm r.sequences)
    (h : r'.sequences = others ++ [s']) (hgoes : s.GoesOn s') :
    r'.requester.claims.Perm r.requester.claims := by
  rw [claims_eq_map, claims_eq_map, h, List.map_append, List.map_singleton, hgoes.claim_eq]
  exact (List.perm_append_singleton _ _).trans (hperm.map RepeatSequence.claim)

theorem claims_perm_of_ends {r r' : RepairRun} {s : RepeatSequence} {others : List RepeatSequence}
    (hperm : (s :: others).Perm r.sequences) (h : r'.sequences = others) :
    (s.claim :: r'.requester.claims).Perm r.requester.claims := by
  rw [claims_eq_map, claims_eq_map, h]
  exact hperm.map RepeatSequence.claim

/-- No flag has changed, and nothing has happened that a history keeps. -/
structure SameFlags (r r' : RepairRun) : Prop where
  slot_eq : ∀ flag, r'.slot flag = r.slot flag
  dispatched_eq : r'.requester.dispatched = r.requester.dispatched
  history_eq : r'.history = r.history

/-- The flag that a request raises gets the next generation. -/
structure Raises (flag : PendingFlag) (outcome : RequestOutcome) (r r' : RepairRun) : Prop where
  slot_self : r'.slot flag = (r.slot flag).raise.2
  slot_other : ∀ f, f ≠ flag → r'.slot f = r.slot f
  history_eq : r'.history = r.history ++ [.raised flag outcome r'.requester.dispatched]

/-- What an action does to a run, and what the sequences are seen to do meanwhile. -/
inductive Effect (r r' : RepairRun) : List SequenceEvent → Prop where
  | quiet (hsame : SameFlags r r') (hsequences : r'.sequences = r.sequences) : Effect r r' []
  /-- A request has raised its flag and has started no sequence. -/
  | unsent (flag : PendingFlag) (outcome : RequestOutcome) (houtcome : outcome ≠ .dispatched)
      (hraises : Raises flag outcome r r')
      (hdispatched : r'.requester.dispatched = r.requester.dispatched)
      (hsequences : r'.sequences = r.sequences) : Effect r r' []
  /-- A request that raises no flag has started a sequence. -/
  | untracked (s : RepeatSequence) (hclaim : s.claim = (r.requester.dispatched + 1, none))
      (hfresh : s.datagramsLeft = 0) (hslots : ∀ flag, r'.slot flag = r.slot flag)
      (hdispatched : r'.requester.dispatched = r.requester.dispatched + 1)
      (hhistory : r'.history = r.history)
      (hsequences : r'.sequences = r.sequences ++ [s]) : Effect r r' [SequenceEvent.dispatched s]
  /-- A request has raised its flag and has started a sequence. -/
  | tracked (flag : PendingFlag) (s : RepeatSequence)
      (hclaim : s.claim = (r.requester.dispatched + 1, some (flag, (r.slot flag).raise.1)))
      (hfresh : s.datagramsLeft = 0) (hraises : Raises flag .dispatched r r')
      (hdispatched : r'.requester.dispatched = r.requester.dispatched + 1)
      (hsequences : r'.sequences = r.sequences ++ [s]) : Effect r r' [SequenceEvent.dispatched s]
  | keyframe (hslots : ∀ flag, r'.slot flag = (r.slot flag).confirm.2)
      (hdispatched : r'.requester.dispatched = r.requester.dispatched)
      (hhistory : r'.history = r.history ++ [.keyframe])
      (hsequences : r'.sequences = r.sequences) : Effect r r' []
  | reset (hslots : ∀ flag, r'.slot flag = (r.slot flag).clear)
      (hdispatched : r'.requester.dispatched = r.requester.dispatched)
      (hhistory : r'.history = r.history ++ [.reset])
      (hsequences : r'.sequences = r.sequences) : Effect r r' []
  /-- A sequence has begun a burst, since its request still waits. -/
  | began (s s' : RepeatSequence) (others : List RepeatSequence) (hsame : SameFlags r r')
      (hperm : (s :: others).Perm r.sequences) (hsequences : r'.sequences = others ++ [s'])
      (hgoes : s.GoesOn s') (hdue : s.isBurstDue = true)
      (hwaiting : ∀ flag generation, s.tracking = some (flag, generation) →
        (r.slot flag).isAwaiting generation = true)
      (hleft : s.attemptsLeft = s'.attemptsLeft) : Effect r r' [SequenceEvent.began s]
  | sent (s s' : RepeatSequence) (others : List RepeatSequence) (datagram : Datagram)
      (hsame : SameFlags r r')
      (hperm : (s :: others).Perm r.sequences) (hsequences : r'.sequences = others ++ [s'])
      (hgoes : s.GoesOn s') (hleft : s.attemptsLeft = s'.attemptsLeft + 1) :
      Effect r r' [SequenceEvent.sent s datagram]
  /-- A sequence has found before a burst that its request no longer waits. -/
  | answered (s : RepeatSequence) (others : List RepeatSequence) (hsame : SameFlags r r')
      (hperm : (s :: others).Perm r.sequences) (hsequences : r'.sequences = others)
      (hdue : s.isBurstDue = true) (flag : PendingFlag) (generation : Nat)
      (htracking : s.tracking = some (flag, generation))
      (hanswered : (r.slot flag).isAwaiting generation = false) :
      Effect r r' [SequenceEvent.ended s]
  /-- A sequence has given up after its last burst. -/
  | finished (s : RepeatSequence) (others : List RepeatSequence)
      (hslots : ∀ flag, GivesUp flag s.claim (r.slot flag) (r'.slot flag))
      (hdispatched : r'.requester.dispatched = r.requester.dispatched)
      (hhistory : r'.history = r.history ++ [.finished s.id])
      (hperm : (s :: others).Perm r.sequences) (hsequences : r'.sequences = others)
      (hend : s.isExhausted = true) : Effect r r' [SequenceEvent.ended s]

/-! ## Requests -/

theorem Raises.of_raise {r r' : RepairRun} {health : HealthState} {flag : PendingFlag}
    {outcome : RequestOutcome} (hslots : ∀ f, health.pendingSlot f = r.slot f)
    (hslots' : ∀ f, r'.slot f = (health.raise flag).2.pendingSlot f)
    (hhistory : r'.history = r.history ++ [.raised flag outcome r'.requester.dispatched]) :
    Raises flag outcome r r' where
  slot_self := by
    rw [hslots', ← hslots]
    exact health.pendingSlot_setPendingSlot_self flag _
  slot_other f hf := by
    rw [hslots', ← hslots]
    exact health.pendingSlot_setPendingSlot_of_ne (Ne.symm hf) _
  history_eq := hhistory

theorem Raises.confirmed_eq {flag : PendingFlag} {outcome : RequestOutcome} {r r' : RepairRun}
    (h : Raises flag outcome r r') (f : PendingFlag) :
    (r'.slot f).confirmed = (r.slot f).confirmed := by
  by_cases hf : f = flag
  · subst hf
    rw [h.slot_self]
    rfl
  · rw [h.slot_other f hf]

/-- A request has one of the effects. The requester may differ from that of the run in what does not
matter to them. -/
theorem effect_request {r : RepairRun} {q : Requester}
    (hslots : ∀ flag, q.health.pendingSlot flag = r.slot flag)
    (hdispatched : q.dispatched = r.requester.dispatched) (htasks : q.tasks = r.requester.tasks)
    (reason : RepairReason) (repeats : Nat) (allowDeferred : Bool) :
    Effect r
      ⟨(q.request reason repeats allowDeferred).2,
        r.history ++ raiseEvents reason (q.request reason repeats allowDeferred).1
          (q.request reason repeats allowDeferred).2.dispatched⟩
      (((q.request reason repeats allowDeferred).2.tasks.drop r.requester.tasks.length).map
        (SequenceEvent.dispatched ·.sequence)) := by
  rcases he : q.enabled with _ | _
  · -- nothing happens while the requester is disabled
    rw [Requester.request_of_disabled he, htasks, List.drop_length]
    refine .quiet ⟨hslots, hdispatched, ?_⟩ (by simp only [sequences, htasks])
    rcases ht : reason.tracking with _ | flag <;> simp [raiseEvents, ht]
  obtain ⟨hpending, -⟩ := Requester.request_spec he reason repeats allowDeferred
  have hanswer := Requester.request_tasks he reason repeats allowDeferred
  rw [hdispatched, htasks] at hanswer
  generalize q.request reason repeats allowDeferred = answer at hpending hanswer ⊢
  obtain ⟨outcome, requester⟩ := answer
  obtain ⟨houtcome, hcount, hsame⟩ | ⟨houtcome, hcount, s, hmore, hclaim, hfresh⟩ := hanswer
  · have hsequences : requester.tasks.map (·.sequence) = r.sequences := congrArg _ hsame
    have hlog : requester.tasks.drop r.requester.tasks.length = [] := by
      rw [hsame, List.drop_length]
    simp only [hlog, List.map_nil]
    rcases ht : reason.tracking with _ | flag
    · simp only [HealthState.raiseFor, ht] at hpending
      refine .quiet ⟨fun flag => ?_, hcount, by simp [raiseEvents, ht]⟩ hsequences
      exact (congrFun hpending flag).trans (hslots flag)
    · simp only [HealthState.raiseFor, ht] at hpending
      have hevents : raiseEvents reason outcome requester.dispatched =
          [.raised flag outcome requester.dispatched] := by
        rcases houtcome with rfl | rfl <;> simp [raiseEvents, ht]
      rw [hevents]
      refine .unsent flag outcome ?_ (.of_raise hslots (congrFun hpending) rfl) hcount hsequences
      rcases houtcome with rfl | rfl <;> simp
  · have hsequences : requester.tasks.map (·.sequence) = r.sequences ++ [s] := by
      rw [hmore, List.map_append]
      rfl
    have hlog : requester.tasks.drop r.requester.tasks.length = [⟨s, none⟩] := by
      rw [hmore, List.drop_left]
    subst houtcome
    simp only [hlog, List.map_singleton]
    rcases ht : reason.tracking with _ | flag
    · simp only [HealthState.raiseFor, ht] at hpending hclaim
      refine .untracked s hclaim hfresh (fun flag => ?_) hcount (by simp [raiseEvents, ht])
        hsequences
      exact (congrFun hpending flag).trans (hslots flag)
    · simp only [HealthState.raiseFor, ht] at hpending hclaim
      have hgeneration : (q.health.raise flag).1 = (r.slot flag).raise.1 := by
        rw [← hslots]
        rfl
      rw [hgeneration] at hclaim
      exact .tracked flag s hclaim hfresh
        (.of_raise hslots (congrFun hpending) (by simp [raiseEvents, ht])) hcount hsequences

/-! ## All actions -/

theorem effect_proceed (tokens : Nat → Token) (r : RepairRun) (index : Nat)
    (due : Option Instant) :
    Effect r (r.proceed tokens index due) (r.actLog tokens (.proceed index due)) := by
  rcases ht : r.requester.tasks[index]? with _ | t
  · simp only [proceed, actLog, ht]
    exact .quiet ⟨fun _ => rfl, rfl, rfl⟩ rfl
  have hperm : (t.sequence :: (r.requester.tasks.eraseIdx index).map (·.sequence)).Perm
      r.sequences := by
    obtain ⟨hlt, rfl⟩ := List.getElem?_eq_some_iff.1 ht
    exact (List.getElem_cons_eraseIdx_perm hlt).map (·.sequence)
  have hsequences : (r.proceed tokens index due).sequences =
      (r.requester.tasks.eraseIdx index).map (·.sequence) ++
        ((t.sequence.step tokens r.requester.drawn r.requester.health).next.map
          Prod.snd).toList := by
    simp only [sequences, proceed, ht, List.map_append]
    rcases (t.sequence.step tokens r.requester.drawn r.requester.health).next with _ | ⟨pause, s⟩
    · rfl
    · rfl
  have hhealth : (r.proceed tokens index due).requester.health =
      (t.sequence.step tokens r.requester.drawn r.requester.health).health := by
    simp only [proceed, ht]
  have hdispatched : (r.proceed tokens index due).requester.dispatched =
      r.requester.dispatched := by
    simp only [proceed, ht]
  have hhistory : (r.proceed tokens index due).history =
      r.history ++ if t.sequence.isExhausted then [.finished t.sequence.id] else [] := by
    simp only [proceed, ht]
  have hlog : r.actLog tokens (.proceed index due) =
      t.sequence.stepLog tokens r.requester.drawn r.requester.health := by
    simp only [actLog, ht]
  rw [hlog]
  -- from here on a step is known by what `stepped` says of it
  generalize r.proceed tokens index due = r' at hsequences hhealth hdispatched hhistory ⊢
  have hstep := t.sequence.stepped tokens r.requester.drawn r.requester.health
  generalize t.sequence.stepLog tokens r.requester.drawn r.requester.health = log at hstep ⊢
  generalize (t.sequence.step tokens r.requester.drawn r.requester.health).health = health'
    at hstep hhealth
  generalize (t.sequence.step tokens r.requester.drawn r.requester.health).next.map Prod.snd = next
    at hstep hsequences
  have hsame : health' = r.requester.health → t.sequence.isExhausted = false → SameFlags r r' := by
    rintro rfl hmore
    refine ⟨fun flag => ?_, hdispatched, ?_⟩
    · rw [slot, slot, hhealth]
    · rw [hhistory, hmore]
      exact List.append_nil r.history
  cases hstep with
  | sent datagram s' hmid hgoes hleft =>
    exact .sent t.sequence s' _ datagram (hsame rfl (by simp [RepeatSequence.isExhausted, hmid]))
      hperm hsequences hgoes hleft
  | began s' hdue hwaiting hgoes hleft =>
    refine .began t.sequence s' _ (hsame rfl (t.sequence.isExhausted_of_isBurstDue hdue)) hperm
      hsequences hgoes hdue (fun flag generation htracking => ?_) hleft
    rwa [RepeatSequence.isAnswered_of_tracking htracking, Bool.not_eq_false'] at hwaiting
  | answered hdue hanswered =>
    obtain ⟨flag, generation, htracking, hnot⟩ := t.sequence.of_isAnswered hanswered
    exact .answered t.sequence _ (hsame rfl (t.sequence.isExhausted_of_isBurstDue hdue)) hperm
      (by simpa using hsequences) hdue flag generation htracking hnot
  | exhausted hend =>
    refine .finished t.sequence _ (fun flag => ?_) hdispatched (by rw [hhistory, hend]; rfl) hperm
      (by simpa using hsequences) hend
    rw [slot, slot, hhealth]
    exact givesUp_giveUp t.sequence r.requester.health flag

/-- Whatever is done to a requester has one of the effects. -/
theorem effect_act (tokens : Nat → Token) (r : RepairRun) (a : RepairAction) :
    Effect r (r.act tokens a) (r.actLog tokens a) := by
  cases a with
  | request reason repeats allowDeferred =>
    exact effect_request (fun _ => rfl) rfl rfl reason repeats allowDeferred
  | retryDeferred repeats =>
    simp only [actLog]
    by_cases hdeferred : (r.requester.enabled && r.requester.health.recordDeferred) = true
    · -- the request is made by a requester that is deferred no more
      have heffect := effect_request (r := r)
        (q := { r.requester with health := { r.requester.health with recordDeferred := false } })
        (fun flag => by cases flag <;> rfl) rfl rfl .recordStartDeferred repeats false
      simpa only [act, Requester.retryDeferred, hdeferred, if_true] using heffect
    · have hact : r.act tokens (.retryDeferred repeats) = r := by
        simp [act, Requester.retryDeferred, hdeferred]
      rw [hact, List.drop_length]
      exact .quiet ⟨fun _ => rfl, rfl, rfl⟩ rfl
  | observe data =>
    have hspec := r.requester.observe_spec data
    have htasks := r.requester.tasks_observe data
    simp only [actLog, act]
    generalize r.requester.observe data = answer at hspec htasks ⊢
    obtain ⟨_ | nalType, requester⟩ := answer
    · obtain ⟨-, hsame⟩ | ⟨hsome, -⟩ := hspec
      · cases hsame
        exact .quiet ⟨fun _ => rfl, rfl, rfl⟩ rfl
      · cases hsome
    · obtain ⟨hnone, -⟩ | ⟨-, hslots, -, hdispatched⟩ := hspec
      · cases hnone
      · exact .keyframe hslots hdispatched rfl (congrArg (List.map RepeatTask.sequence) htasks)
  | setEnabled enabled => exact .quiet ⟨fun _ => rfl, rfl, rfl⟩ rfl
  | setSender sender => exact .quiet ⟨fun flag => by cases flag <;> rfl, rfl, rfl⟩ rfl
  | reset => exact .reset (fun flag => by cases flag <;> rfl) rfl rfl rfl
  | startClock now =>
    refine .quiet ⟨fun _ => rfl, rfl, rfl⟩ ?_
    simp only [sequences, act, List.map_map]
    rfl
  | proceed index due => exact effect_proceed tokens r index due

end RepairRun

end VideoReceiver
