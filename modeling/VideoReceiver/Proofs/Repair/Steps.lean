import VideoReceiver.Repair.Requester

/-!
# The requester step by step

Requests, keyframes and the steps of any number of repeat sequences happen in any order. A run of
the requester keeps a history of what matters to its flags.

## Main definitions

- `RepairEvent`: what happens to a flag
- `RepairAction`, `RepairRun.act`: what happens to a requester
- `RepairRun`: a requester with its history
- `SequenceEvent`, `RepairRun.log`: what the sequences are seen to do

## Main statements

- `RepairRun.runLimited_sends`: letting time pass is taking steps of the sequences, which send the
  datagrams that are attempted on the clock
- `Requester.tasks_runOut`: no sequence is under way once all have been run out
-/

namespace VideoReceiver

/-- A new requester. -/
def Requester.fresh (codec : Codec) (port : UInt16) (timing : RepairTiming) (enabled : Bool)
    (origin : Instant) : Requester where
  health := { origin }
  codec
  port
  timing
  enabled

/-- Something that raises a flag, or may lower one. -/
inductive RepairEvent where
  /-- A request has raised the flag. It was answered with `outcome`, and then `dispatched` sequences
  had been dispatched; this is the number of its own sequence if it has one. -/
  | raised (flag : PendingFlag) (outcome : RequestOutcome) (dispatched : Nat)
  /-- A keyframe has been found. -/
  | keyframe
  /-- The health state has been reset. -/
  | reset
  /-- A sequence has finished all its bursts. -/
  | finished (id : Nat)
  deriving DecidableEq, Repr

/-- What happens to a requester. -/
inductive RepairAction where
  | request (reason : RepairReason) (repeats : Nat) (allowDeferred : Bool)
  | retryDeferred (repeats : Nat)
  | observe (data : Bytes)
  | setEnabled (enabled : Bool)
  | setSender (sender : Net.Endpoint)
  | reset
  /-- The clock starts for the sequences that have not been started. -/
  | startClock (now : Instant)
  /-- A sequence takes its next step; if it goes on, it does so at `due` and behind the others. -/
  | proceed (index : Nat) (due : Option Instant)
  deriving DecidableEq, Repr

namespace RepairAction

/-- Whether an action may raise a flag. -/
def isRequest : RepairAction → Bool
  | request .. | retryDeferred .. => true
  | _ => false

/-- Whether an action only lets the sequences go on. -/
def isStep : RepairAction → Bool
  | startClock _ | proceed .. => true
  | _ => false

theorem isRequest_of_isStep {a : RepairAction} (h : a.isStep = true) : a.isRequest = false := by
  cases a <;> first | rfl | cases h

end RepairAction

/-- What a repeat sequence is seen to do; the sequence is given as it was before. -/
inductive SequenceEvent where
  /-- A request has dispatched it. -/
  | dispatched (s : RepeatSequence)
  /-- It has begun a burst. -/
  | began (s : RepeatSequence)
  /-- It has made an attempt to send a datagram. -/
  | sent (s : RepeatSequence) (datagram : Datagram)
  /-- It has ended. -/
  | ended (s : RepeatSequence)
  deriving DecidableEq, Repr

/-- The datagram of an attempt to send one. -/
def SequenceEvent.datagram? : SequenceEvent → Option Datagram
  | sent _ datagram => some datagram
  | _ => none

namespace RepeatSequence

/-- All bursts have been sent, so that the next step is to give up. -/
def isExhausted (s : RepeatSequence) : Bool := s.datagramsLeft == 0 && s.burstsLeft == 0

/-- What a sequence may lower: its number and the flag with the generation that it has raised. -/
def claim (s : RepeatSequence) : Nat × Option (PendingFlag × Nat) := (s.id, s.tracking)

/-- What one step does: the sequence goes on as it was, or ends because it has been answered, or
gives up. -/
theorem step_cases (tokens : Nat → Token) (drawn : Nat) (health : HealthState)
    (s : RepeatSequence) :
    (s.isExhausted = false ∧ (s.step tokens drawn health).health = health ∧
        ∃ pause s', (s.step tokens drawn health).next = some (pause, s') ∧ s'.claim = s.claim) ∨
      (s.isExhausted = false ∧ s.isAnswered health = true ∧
        (s.step tokens drawn health).health = health ∧
        (s.step tokens drawn health).next = none) ∨
      (s.isExhausted = true ∧ (s.step tokens drawn health).health = s.giveUp health ∧
        (s.step tokens drawn health).next = none) := by
  rcases hd : s.datagramsLeft with _ | d
  · rcases hb : s.burstsLeft with _ | b
    · exact .inr (.inr (by simp [isExhausted, step, hd, hb]))
    · by_cases ha : s.isAnswered health
      · exact .inr (.inl (by simp [isExhausted, step, hd, hb, ha]))
      · refine .inl ⟨by simp [isExhausted, hb], by simp [step, hd, hb, ha], ?_⟩
        simp only [step, hd, hb, ha]
        exact ⟨_, _, rfl, rfl⟩
  · refine .inl ⟨by simp [isExhausted, hd], by simp [step, hd], ?_⟩
    simp only [step, hd]
    exact ⟨_, _, rfl, rfl⟩

/-- What one step is seen to do. A burst has begun if a token has been drawn for it. -/
def stepLog (tokens : Nat → Token) (drawn : Nat) (health : HealthState) (s : RepeatSequence) :
    List SequenceEvent :=
  let p := s.step tokens drawn health
  (if p.drawn = drawn then [] else [.began s]) ++ p.sent.map (.sent s) ++
    if p.next.isNone then [.ended s] else []

/-- The log of a step tells which datagrams it has sent. -/
theorem datagrams_stepLog (tokens : Nat → Token) (drawn : Nat) (health : HealthState)
    (s : RepeatSequence) :
    (s.stepLog tokens drawn health).filterMap SequenceEvent.datagram? =
      (s.step tokens drawn health).sent := by
  have hbegan : (if (s.step tokens drawn health).drawn = drawn then [] else
      [SequenceEvent.began s]).filterMap SequenceEvent.datagram? = [] := by
    split <;> rfl
  have hended : (if (s.step tokens drawn health).next.isNone then [SequenceEvent.ended s] else
      []).filterMap SequenceEvent.datagram? = [] := by
    split <;> rfl
  have hsent : SequenceEvent.datagram? ∘ SequenceEvent.sent s = some := rfl
  rw [stepLog, List.filterMap_append, List.filterMap_append, hbegan, hended, List.filterMap_map,
    hsent, List.filterMap_some, List.nil_append, List.append_nil]

/-- A pause of no length is none. -/
theorem resume_of_next {tokens : Nat → Token} {drawn : Nat} {health : HealthState}
    {s s' : RepeatSequence} (h : (s.step tokens drawn health).next = some (0, s')) :
    s.resume tokens drawn health =
      { s'.resume tokens (s.step tokens drawn health).drawn (s.step tokens drawn health).health with
        sent := (s.step tokens drawn health).sent ++
          (s'.resume tokens (s.step tokens drawn health).drawn
            (s.step tokens drawn health).health).sent } := by
  rw [resume]
  split
  · next s'' h' =>
    rw [h] at h'
    cases h'
    rfl
  · next hne => exact (hne s' h).elim

theorem resume_of_pause {tokens : Nat → Token} {drawn : Nat} {health : HealthState}
    {s : RepeatSequence} (h : ∀ s', (s.step tokens drawn health).next ≠ some (0, s')) :
    s.resume tokens drawn health = s.step tokens drawn health := by
  rw [resume]
  split
  · next s' h' => exact (h s' h').elim
  · rfl

end RepeatSequence

namespace RepeatTask

/-- The task that goes on next is one of the tasks, and the others stay in order. -/
theorem getElem?_of_takeFirst {tasks rest : List RepeatTask} {time : Instant} {t : RepeatTask}
    (h : takeFirst tasks = some (time, t, rest)) :
    ∃ index : Nat, tasks[index]? = some t ∧ tasks.eraseIdx index = rest := by
  induction tasks generalizing time t rest with
  | nil => cases h
  | cons u us ih =>
    simp only [takeFirst] at h
    split at h
    · cases h
    · next at' t' rest' hdue hfirst =>
      cases h
      obtain ⟨index, ht, hrest⟩ := ih hfirst
      exact ⟨index + 1, ht, by rw [List.eraseIdx_cons_succ, hrest]⟩
    · cases h
      exact ⟨0, rfl, rfl⟩
    · next due at' t' rest' hdue hfirst =>
      split at h
      · cases h
        exact ⟨0, rfl, rfl⟩
      · cases h
        obtain ⟨index, ht, hrest⟩ := ih hfirst
        exact ⟨index + 1, ht, by rw [List.eraseIdx_cons_succ, hrest]⟩

/-- Where no task goes on, none has been started. -/
theorem due_of_takeFirst_eq_none {tasks : List RepeatTask} (h : takeFirst tasks = none)
    {t : RepeatTask} (ht : t ∈ tasks) : t.due = none := by
  induction tasks with
  | nil => cases ht
  | cons u us ih =>
    simp only [takeFirst] at h
    split at h
    · next hdue hfirst =>
      rcases List.mem_cons.1 ht with rfl | hmem
      · exact hdue
      · exact ih hfirst hmem
    · cases h
    · cases h
    · split at h <;> cases h

theorem takeFirst_of_takeDue {limit : Option Instant} {tasks rest : List RepeatTask}
    {time : Instant} {t : RepeatTask} (h : takeDue limit tasks = some (time, t, rest)) :
    takeFirst tasks = some (time, t, rest) := by
  unfold takeDue at h
  split at h
  · next time' t' rest' hfirst =>
    split at h
    · rw [hfirst, h]
    · cases h
  · cases h

theorem takeDue_none (tasks : List RepeatTask) : takeDue none tasks = takeFirst tasks := by
  unfold takeDue
  split
  · next time t rest hfirst => simp [hfirst]
  · next hfirst => exact hfirst.symm

end RepeatTask

/-- The events of a request that was answered with `outcome`. -/
def raiseEvents (reason : RepairReason) (outcome : RequestOutcome) (dispatched : Nat) :
    List RepairEvent :=
  match reason.tracking, outcome with
  | none, _ | _, .disabled => []
  | some flag, _ => [.raised flag outcome dispatched]

/-- A requester and what has happened to its flags, in order. -/
structure RepairRun where
  requester : Requester
  history : List RepairEvent := []

namespace RepairRun

variable (tokens : Nat → Token)

/-- The task with the given index takes its next step. -/
def proceed (r : RepairRun) (index : Nat) (due : Option Instant) : RepairRun :=
  match r.requester.tasks[index]? with
  | none => r
  | some t =>
    let p := t.sequence.step tokens r.requester.drawn r.requester.health
    { requester :=
        { r.requester with
          health := p.health
          drawn := p.drawn
          tasks := r.requester.tasks.eraseIdx index ++
            match p.next with
            | some (_, s) => [⟨s, due⟩]
            | none => [] }
      history := r.history ++ if t.sequence.isExhausted then [.finished t.sequence.id] else [] }

/-- Performs an action. -/
def act (r : RepairRun) : RepairAction → RepairRun
  | .request reason repeats allowDeferred =>
    let (outcome, requester) := r.requester.request reason repeats allowDeferred
    ⟨requester, r.history ++ raiseEvents reason outcome requester.dispatched⟩
  | .retryDeferred repeats =>
    match r.requester.retryDeferred repeats with
    | (some outcome, requester) =>
      ⟨requester, r.history ++ raiseEvents .recordStartDeferred outcome requester.dispatched⟩
    | (none, requester) => { r with requester }
  | .observe data =>
    match r.requester.observe data with
    | (some _, requester) => ⟨requester, r.history ++ [.keyframe]⟩
    | (none, requester) => { r with requester }
  | .setEnabled enabled => { r with requester := { r.requester with enabled } }
  | .setSender sender =>
    { r with
      requester :=
        { r.requester with health := { r.requester.health with sender := some sender } } }
  | .reset =>
    ⟨{ r.requester with health := r.requester.health.reset }, r.history ++ [.reset]⟩
  | .startClock now =>
    { r with requester := { r.requester with tasks := r.requester.tasks.map (.start now) } }
  | .proceed index due => r.proceed tokens index due

/-- Performs actions one after the other. -/
def actAll (r : RepairRun) (actions : List RepairAction) : RepairRun := actions.foldl (act tokens) r

theorem actAll_append (r : RepairRun) (actions later : List RepairAction) :
    r.actAll tokens (actions ++ later) = (r.actAll tokens actions).actAll tokens later :=
  List.foldl_append

/-! ## What the sequences are seen to do -/

/-- What the sequences are seen to do in one action. -/
def actLog (r : RepairRun) (a : RepairAction) : List SequenceEvent :=
  match a with
  | .proceed index _ =>
    match r.requester.tasks[index]? with
    | some t => t.sequence.stepLog tokens r.requester.drawn r.requester.health
    | none => []
  | .request .. | .retryDeferred .. =>
    ((r.act tokens a).requester.tasks.drop r.requester.tasks.length).map (.dispatched ·.sequence)
  | _ => []

/-- What the sequences are seen to do in a run. -/
def log (r : RepairRun) : List RepairAction → List SequenceEvent
  | [] => []
  | a :: actions => r.actLog tokens a ++ (r.act tokens a).log actions

theorem log_append (r : RepairRun) (actions later : List RepairAction) :
    r.log tokens (actions ++ later) =
      r.log tokens actions ++ (r.actAll tokens actions).log tokens later := by
  induction actions generalizing r with
  | nil => rfl
  | cons a actions ih => simp only [List.cons_append, log, ih, List.append_assoc, actAll,
      List.foldl_cons]

/-- What is seen in a run is seen in one of its actions. -/
theorem exists_actLog_of_mem_log {r : RepairRun} {actions : List RepairAction} {e : SequenceEvent}
    (h : e ∈ r.log tokens actions) :
    ∃ before a later, actions = before ++ a :: later ∧
      e ∈ (r.actAll tokens before).actLog tokens a := by
  induction actions generalizing r with
  | nil => cases h
  | cons a actions ih =>
    rcases List.mem_append.1 h with hnow | hlater
    · exact ⟨[], a, actions, rfl, hnow⟩
    · obtain ⟨before, b, later, rfl, he⟩ := ih hlater
      exact ⟨a :: before, b, later, rfl, he⟩

/-! ## Letting time pass -/

/-- Steps of the sequences, and nothing else, lead from one run to another. -/
def Reaches (r r' : RepairRun) : Prop :=
  ∃ actions, (∀ a ∈ actions, a.isStep = true) ∧ r.actAll tokens actions = r'

/-- Steps of the sequences lead from one run to another, and they send the given datagrams. -/
def Sends (r : RepairRun) (datagrams : List Datagram) (r' : RepairRun) : Prop :=
  ∃ actions, (∀ a ∈ actions, a.isStep = true) ∧ r.actAll tokens actions = r' ∧
    (r.log tokens actions).filterMap SequenceEvent.datagram? = datagrams

variable {tokens : Nat → Token}

theorem Sends.refl (r : RepairRun) : Sends tokens r [] r := ⟨[], nofun, rfl, rfl⟩

theorem Sends.trans {r₁ r₂ r₃ : RepairRun} {datagrams later : List Datagram}
    (h₁ : Sends tokens r₁ datagrams r₂) (h₂ : Sends tokens r₂ later r₃) :
    Sends tokens r₁ (datagrams ++ later) r₃ := by
  obtain ⟨actions, hactions, rfl, rfl⟩ := h₁
  obtain ⟨more, hmore, rfl, rfl⟩ := h₂
  refine ⟨actions ++ more, List.forall_mem_append.2 ⟨hactions, hmore⟩,
    actAll_append tokens r₁ actions more, ?_⟩
  rw [log_append, List.filterMap_append]

theorem sends_startClock (r : RepairRun) (now : Instant) :
    Sends tokens r [] (r.act tokens (.startClock now)) :=
  ⟨[.startClock now], List.forall_mem_singleton.2 rfl, rfl, rfl⟩

theorem sends_proceed {r : RepairRun} {index : Nat} {t : RepeatTask}
    (ht : r.requester.tasks[index]? = some t) (due : Option Instant) :
    Sends tokens r (t.sequence.step tokens r.requester.drawn r.requester.health).sent
      (r.proceed tokens index due) := by
  refine ⟨[.proceed index due], List.forall_mem_singleton.2 rfl, rfl, ?_⟩
  simp only [log, actLog, ht, List.append_nil]
  exact t.sequence.datagrams_stepLog tokens _ _

theorem Sends.reaches {r r' : RepairRun} {datagrams : List Datagram}
    (h : Sends tokens r datagrams r') : Reaches tokens r r' := by
  obtain ⟨actions, hactions, hr', -⟩ := h
  exact ⟨actions, hactions, hr'⟩

theorem proceed_of_getElem? {r : RepairRun} {index : Nat} {t : RepeatTask}
    (ht : r.requester.tasks[index]? = some t) (due : Option Instant) :
    (r.proceed tokens index due).requester =
      { r.requester with
        health := (t.sequence.step tokens r.requester.drawn r.requester.health).health
        drawn := (t.sequence.step tokens r.requester.drawn r.requester.health).drawn
        tasks := r.requester.tasks.eraseIdx index ++
          match (t.sequence.step tokens r.requester.drawn r.requester.health).next with
          | some (_, s) => [⟨s, due⟩]
          | none => [] } := by
  simp only [proceed, ht]

/-- What a requester is after a task has been resumed. -/
def resumed (tokens : Nat → Token) (r : Requester) (time : Instant) (s : RepeatSequence)
    (rest : List RepeatTask) : Requester :=
  { r with
    health := (s.resume tokens r.drawn r.health).health
    drawn := (s.resume tokens r.drawn r.health).drawn
    tasks := rest ++
      match (s.resume tokens r.drawn r.health).next with
      | some (pause, s) => [⟨s, some (time + pause)⟩]
      | none => [] }

/-- Resuming a task is taking some of its steps. -/
theorem sends_resumed (tokens : Nat → Token) (time : Instant) {r : RepairRun} {index : Nat}
    {t : RepeatTask}
    (ht : r.requester.tasks[index]? = some t) :
    ∃ r', Sends tokens r
        (t.sequence.resume tokens r.requester.drawn r.requester.health).sent r' ∧
      r'.requester =
        resumed tokens r.requester time t.sequence (r.requester.tasks.eraseIdx index) := by
  generalize hd : r.requester.drawn = drawn
  generalize hh : r.requester.health = health
  generalize hs : t.sequence = s
  fun_induction RepeatSequence.resume tokens drawn health s generalizing r index t with
  | case1 drawn health s s' hnext o =>
    rename_i _ ih
    subst hd hh hs
    have hproceed : (r.proceed tokens index none).requester = _ := proceed_of_getElem? ht none
    rw [hnext] at hproceed
    -- the task is now the last one
    have hlast : (r.proceed tokens index none).requester.tasks[
        (r.requester.tasks.eraseIdx index).length]? = some ⟨s', none⟩ := by
      rw [hproceed]
      exact List.getElem?_concat_length
    obtain ⟨r', hsends, hr'⟩ := ih hlast (by rw [hproceed]) (by rw [hproceed]) rfl
    refine ⟨r', (sends_proceed ht none).trans hsends, ?_⟩
    have hrest : (r.proceed tokens index none).requester.tasks.eraseIdx
        (r.requester.tasks.eraseIdx index).length = r.requester.tasks.eraseIdx index := by
      rw [hproceed, List.eraseIdx_append_of_length_le (Nat.le_refl _)]
      simp
    rw [hr', hrest, hproceed]
    simp only [resumed, RepeatSequence.resume_of_next hnext]
  | case2 drawn health s hnext =>
    subst hd hh hs
    refine ⟨_, sends_proceed ht ((t.sequence.step tokens r.requester.drawn
      r.requester.health).next.map (time + ·.1)), ?_⟩
    rw [proceed_of_getElem? ht]
    simp only [resumed, RepeatSequence.resume_of_pause hnext]
    rcases (t.sequence.step tokens r.requester.drawn r.requester.health).next with _ | ⟨pause, s⟩
    · rfl
    · rfl

theorem sends_untilLimit (tokens : Nat → Token) (limit : Option Instant) (run : RepeatRun)
    {r : RepairRun}
    (hhealth : r.requester.health = run.health) (hdrawn : r.requester.drawn = run.drawn)
    (htasks : r.requester.tasks = run.tasks) :
    ∃ datagrams r', Sends tokens r datagrams r' ∧
      r'.requester = r.requester.resumed (run.untilLimit tokens limit) ∧
      (run.untilLimit tokens limit).attempts.map Attempt.datagram =
        run.attempts.map Attempt.datagram ++ datagrams := by
  fun_induction RepeatRun.untilLimit tokens limit run generalizing r with
  | case1 run time t rest hdue ih =>
    rw [← htasks] at hdue
    obtain ⟨index, ht, hrest⟩ :=
      RepeatTask.getElem?_of_takeFirst (RepeatTask.takeFirst_of_takeDue hdue)
    obtain ⟨r₁, hsends, hr₁⟩ := sends_resumed tokens time ht
    rw [hrest] at hr₁
    have hhealth₁ : r₁.requester.health = (run.resume tokens time t rest).health := by
      simp only [hr₁, resumed, RepeatRun.resume, RepeatRun.note, hhealth, hdrawn]
    have hdrawn₁ : r₁.requester.drawn = (run.resume tokens time t rest).drawn := by
      simp only [hr₁, resumed, RepeatRun.resume, RepeatRun.note, hhealth, hdrawn]
    have htasks₁ : r₁.requester.tasks = (run.resume tokens time t rest).tasks := by
      simp only [hr₁, resumed, RepeatRun.resume, RepeatRun.note, hhealth, hdrawn]
      rcases (t.sequence.resume tokens run.drawn run.health).next with _ | ⟨pause, s⟩
      · exact List.append_nil rest
      · rfl
    obtain ⟨datagrams, r₂, hsends', hr₂, hattempts⟩ := ih hhealth₁ hdrawn₁ htasks₁
    refine ⟨_, r₂, hsends.trans hsends', ?_, ?_⟩
    · rw [hr₂, hr₁]
      rfl
    · have hmade : (run.resume tokens time t rest).attempts.map Attempt.datagram =
          run.attempts.map Attempt.datagram ++
            (t.sequence.resume tokens r.requester.drawn r.requester.health).sent := by
        simp [RepeatRun.resume, RepeatRun.note, hhealth, hdrawn, Function.comp_def]
      rw [hattempts, hmade, List.append_assoc]
  | case2 run hdue =>
    refine ⟨[], r, .refl r, ?_, (List.append_nil _).symm⟩
    rw [Requester.resumed, ← hhealth, ← hdrawn, ← htasks]

/-- Letting time pass is taking steps of the sequences, and the attempts that are made on the clock
are those of the steps. -/
theorem runLimited_sends (tokens : Nat → Token) (limit : Option Instant) (now : Instant)
    (r : RepairRun) :
    ∃ r', Sends tokens r
        ((r.requester.runLimited tokens limit now).1.map Attempt.datagram) r' ∧
      r'.requester = (r.requester.runLimited tokens limit now).2.2 := by
  obtain ⟨datagrams, r', hsends, hr', hattempts⟩ := sends_untilLimit tokens limit
    (r.requester.clocked now) (r := r.act tokens (.startClock now)) rfl rfl rfl
  refine ⟨r', ?_, hr'⟩
  have hsent : (r.requester.runLimited tokens limit now).1.map Attempt.datagram = datagrams :=
    hattempts
  rw [hsent]
  exact (sends_startClock r now).trans hsends

theorem runLimited_reached (tokens : Nat → Token) (limit : Option Instant) (now : Instant)
    (r : RepairRun) :
    ∃ r', Reaches tokens r r' ∧ r'.requester = (r.requester.runLimited tokens limit now).2.2 := by
  obtain ⟨r', hsends, hr'⟩ := runLimited_sends tokens limit now r
  exact ⟨r', hsends.reaches, hr'⟩

end RepairRun

/-- Running the sequences to their end leaves only those that have not been started. -/
theorem RepeatRun.tasks_untilLimit_none (tokens : Nat → Token) (run : RepeatRun)
    (hdue : ∀ t ∈ run.tasks, t.due ≠ none) : (run.untilLimit tokens none).tasks = [] := by
  fun_induction RepeatRun.untilLimit tokens none run with
  | case1 run time t rest htake ih =>
    rw [RepeatTask.takeDue_none] at htake
    obtain ⟨index, -, hrest⟩ := RepeatTask.getElem?_of_takeFirst htake
    have hmem : ∀ u ∈ rest, u.due ≠ none := by
      rintro u hu
      rw [← hrest] at hu
      exact hdue u (List.mem_of_mem_eraseIdx hu)
    refine ih fun u hu => ?_
    simp only [resume, note] at hu
    split at hu
    · exact List.forall_mem_append.2
        ⟨hmem, List.forall_mem_singleton.2 (Option.some_ne_none _)⟩ u hu
    · exact hmem u hu
  | case2 run htake =>
    rw [RepeatTask.takeDue_none] at htake
    apply List.eq_nil_iff_forall_not_mem.2
    intro t ht
    exact hdue t ht (RepeatTask.due_of_takeFirst_eq_none htake ht)

/-- No sequence is under way once all have been run out. -/
theorem Requester.tasks_runOut (tokens : Nat → Token) (now : Instant) (r : Requester) :
    (r.runOut tokens now).2.2.tasks = [] := by
  apply RepeatRun.tasks_untilLimit_none
  intro t ht
  obtain ⟨u, -, rfl⟩ := List.mem_map.1 ht
  exact nofun

end VideoReceiver
