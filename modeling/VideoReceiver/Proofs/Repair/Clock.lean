import Mathlib.Data.List.Perm.Subperm
import VideoReceiver.Proofs.Repair.Effects
import VideoReceiver.Repair.Transport

/-!
# Requesters on the clock

A requester is asked for keyframes, shown access units and left to its sequences for a while. Every
attempt is kept with the sequence that has made it, so that what one sequence sends can be told from
what the others send.

## Main definitions

- `OwnedAttempt`, `places`: attempts with their sequences, and when and where they send
- `RepeatRun.made`, `Requester.made`: the attempts made while time passes
- `ClockedAction`, `ClockedRun.perform`: what is done to a requester on the clock

## Main statements

- `Requester.attempts_runLimited`: these are all the attempts, in order
- `Requester.runLimitedOn_eq`: on a network the sequences make the same attempts, and it hears them
- `ClockedRun.attempts_performAll`: every attempt of a run belongs to a sequence
- `ClockedRun.numbered_performAll`: no two sequences under way have the same number
-/

namespace VideoReceiver

/-- An attempt with the number and the flag of the sequence that makes it. -/
structure OwnedAttempt where
  owner : Claim
  attempt : Attempt
  deriving DecidableEq, Repr

/-- When and where an attempt sends. Which letters it carries is up to chance. -/
def OwnedAttempt.place (a : OwnedAttempt) : Instant × Net.Endpoint :=
  (a.attempt.time, a.attempt.datagram.target)

/-- When and where the sequences singled out by `p` send. -/
def places (p : Claim → Bool) (made : List OwnedAttempt) : List (Instant × Net.Endpoint) :=
  (made.filter (p ·.owner)).map OwnedAttempt.place

@[simp] theorem places_append (p : Claim → Bool) (made later : List OwnedAttempt) :
    places p (made ++ later) = places p made ++ places p later := by
  rw [places, List.filter_append, List.map_append]
  rfl

namespace RepeatSequence

variable {tokens : Nat → Token} {drawn : Nat} {health : HealthState} {s s' : RepeatSequence}
  {pause : Duration}

theorem claim_of_step (h : (s.step tokens drawn health).next = some (pause, s')) :
    s'.claim = s.claim := by
  obtain ⟨-, -, _, _, hnext, hclaim⟩ | ⟨-, -, -, hnext⟩ | ⟨-, -, hnext⟩ :=
    s.step_cases tokens drawn health
  · rw [h] at hnext
    cases hnext
    exact hclaim
  · rw [h] at hnext
    cases hnext
  · rw [h] at hnext
    cases hnext

theorem claim_of_resume (h : (s.resume tokens drawn health).next = some (pause, s')) :
    s'.claim = s.claim := by
  fun_induction resume tokens drawn health s with
  | case1 drawn health s s'' hnext o r ih => exact (ih h).trans (claim_of_step hnext)
  | case2 drawn health s hnext => exact claim_of_step h

end RepeatSequence

namespace RepeatRun

variable {tokens : Nat → Token} {limit : Option Instant} {run : RepeatRun} {time : Instant}
  {t : RepeatTask} {rest : List RepeatTask}

/-- The attempts of a task that is resumed. -/
def madeBy (tokens : Nat → Token) (run : RepeatRun) (time : Instant) (t : RepeatTask) :
    List OwnedAttempt :=
  (t.sequence.resume tokens run.drawn run.health).sent.map
    fun datagram => ⟨t.sequence.claim, ⟨time, datagram⟩⟩

theorem attempts_madeBy (tokens : Nat → Token) (run : RepeatRun) (time : Instant)
    (t : RepeatTask) :
    (run.madeBy tokens time t).map OwnedAttempt.attempt =
      (t.sequence.resume tokens run.drawn run.health).sent.map (Attempt.mk time) := by
  rw [madeBy, List.map_map]
  rfl

theorem places_madeBy (p : Claim → Bool) (tokens : Nat → Token) (run : RepeatRun) (time : Instant)
    (t : RepeatTask) :
    places p (run.madeBy tokens time t) =
      if p t.sequence.claim then
        ((t.sequence.resume tokens run.drawn run.health).sent.map Datagram.target).map (time, ·)
      else [] := by
  rw [places, madeBy, List.filter_map]
  rcases hp : p t.sequence.claim with _ | _
  · simp [Function.comp_def, hp]
  · simp [Function.comp_def, hp, OwnedAttempt.place]

theorem places_madeBy_self (tokens : Nat → Token) (run : RepeatRun) (time : Instant)
    (t : RepeatTask) :
    places (·.1 == t.sequence.id) (run.madeBy tokens time t) =
      ((t.sequence.resume tokens run.drawn run.health).sent.map Datagram.target).map (time, ·) := by
  have hmine : (t.sequence.claim.1 == t.sequence.id) = true := beq_self_eq_true _
  rw [places_madeBy, if_pos hmine]

theorem places_madeBy_of_ne (tokens : Nat → Token) (run : RepeatRun) (time : Instant)
    {t : RepeatTask} {id : Nat} (h : t.sequence.id ≠ id) :
    places (·.1 == id) (run.madeBy tokens time t) = [] := by
  have hother : ¬ (t.sequence.claim.1 == id) = true := fun hmine => h (beq_iff_eq.1 hmine)
  rw [places_madeBy, if_neg hother]

/-- The attempts made as long as a started task goes on before `limit`. -/
def made (tokens : Nat → Token) (limit : Option Instant) (run : RepeatRun) : List OwnedAttempt :=
  match _h : RepeatTask.takeDue limit run.tasks with
  | some (time, t, rest) =>
    run.madeBy tokens time t ++ made tokens limit (run.resume tokens time t rest)
  | none => []
termination_by RepeatTask.totalWork run.tasks
decreasing_by
  have := RepeatTask.totalWork_of_takeDue _h
  have := totalWork_resume_lt tokens run time t rest
  omega

theorem untilLimit_of_takeDue (tokens : Nat → Token)
    (h : RepeatTask.takeDue limit run.tasks = some (time, t, rest)) :
    run.untilLimit tokens limit = (run.resume tokens time t rest).untilLimit tokens limit := by
  rw [untilLimit]
  split
  · next heq =>
    rw [h] at heq
    cases heq
    rfl
  · next heq =>
    rw [h] at heq
    cases heq

theorem untilLimit_of_takeDue_eq_none (tokens : Nat → Token)
    (h : RepeatTask.takeDue limit run.tasks = none) : run.untilLimit tokens limit = run := by
  rw [untilLimit]
  split
  · next heq =>
    rw [h] at heq
    cases heq
  · rfl

theorem made_of_takeDue (tokens : Nat → Token)
    (h : RepeatTask.takeDue limit run.tasks = some (time, t, rest)) :
    run.made tokens limit =
      run.madeBy tokens time t ++ (run.resume tokens time t rest).made tokens limit := by
  rw [made]
  split
  · next heq =>
    rw [h] at heq
    cases heq
    rfl
  · next heq =>
    rw [h] at heq
    cases heq

theorem made_of_takeDue_eq_none (tokens : Nat → Token)
    (h : RepeatTask.takeDue limit run.tasks = none) : run.made tokens limit = [] := by
  rw [made]
  split
  · next heq =>
    rw [h] at heq
    cases heq
  · rfl

theorem attempts_untilLimit (tokens : Nat → Token) (limit : Option Instant) (run : RepeatRun) :
    (run.untilLimit tokens limit).attempts =
      run.attempts ++ (run.made tokens limit).map OwnedAttempt.attempt := by
  fun_induction untilLimit tokens limit run with
  | case1 run time t rest hdue ih =>
    rw [ih, made_of_takeDue tokens hdue, List.map_append, attempts_madeBy, ← List.append_assoc]
    rfl
  | case2 run hdue => rw [made_of_takeDue_eq_none tokens hdue, List.map_nil, List.append_nil]

/-- On a network the tasks do what they do without one, and the network is asked to send what they
attempt. -/
theorem untilLimitOn_eq {τ : Type} [RepairTransport τ] (tokens : Nat → Token)
    (limit : Option Instant) (network : τ) (run : RepeatRun) :
    run.untilLimitOn tokens limit network =
      (run.untilLimit tokens limit,
        RepairTransport.sendAll network ((run.made tokens limit).map OwnedAttempt.attempt)) := by
  fun_induction untilLimitOn tokens limit network run with
  | case1 network run time t rest hdue o ih =>
    simp only [o, resumeOn_eq] at ih ⊢
    rw [ih, untilLimit_of_takeDue tokens hdue, made_of_takeDue tokens hdue, List.map_append,
      attempts_madeBy, RepairTransport.sendAll_append]
  | case2 network run hdue =>
    rw [untilLimit_of_takeDue_eq_none tokens hdue, made_of_takeDue_eq_none tokens hdue]
    rfl

/-- The task that goes on next, and the others. -/
theorem perm_of_takeDue (h : RepeatTask.takeDue limit run.tasks = some (time, t, rest)) :
    (t :: rest).Perm run.tasks := by
  obtain ⟨index, ht, hrest⟩ :=
    RepeatTask.getElem?_of_takeFirst (RepeatTask.takeFirst_of_takeDue h)
  obtain ⟨hlt, rfl⟩ := List.getElem?_eq_some_iff.1 ht
  rw [← hrest]
  exact List.getElem_cons_eraseIdx_perm hlt

/-- A sequence that is resumed goes on behind the others under its own number, or ends. -/
theorem tasks_resume (tokens : Nat → Token) (run : RepeatRun) (time : Instant) (t : RepeatTask)
    (rest : List RepeatTask) :
    (run.resume tokens time t rest).tasks = rest ++
      ((t.sequence.resume tokens run.drawn run.health).next.map
        fun (pause, s) => (⟨s, some (time + pause)⟩ : RepeatTask)).toList := by
  simp only [resume, note]
  rcases (t.sequence.resume tokens run.drawn run.health).next with _ | ⟨pause, s⟩
  · exact (List.append_nil rest).symm
  · rfl

theorem claims_resume (tokens : Nat → Token)
    (h : RepeatTask.takeDue limit run.tasks = some (time, t, rest)) :
    ((run.resume tokens time t rest).tasks.map (·.sequence.claim)).Subperm
      (run.tasks.map (·.sequence.claim)) := by
  have hperm := (perm_of_takeDue h).map (·.sequence.claim)
  refine List.Subperm.trans ?_ hperm.subperm
  rw [tasks_resume, List.map_append]
  rcases hnext : (t.sequence.resume tokens run.drawn run.health).next with _ | ⟨pause, s⟩
  · simpa using (List.sublist_cons_self _ _).subperm
  · simp only [Option.map_some, Option.toList_some, List.map_cons, List.map_nil,
      RepeatSequence.claim_of_resume hnext]
    exact (List.perm_append_singleton _ _).subperm

theorem claims_untilLimit (tokens : Nat → Token) (limit : Option Instant) (run : RepeatRun) :
    ((run.untilLimit tokens limit).tasks.map (·.sequence.claim)).Subperm
      (run.tasks.map (·.sequence.claim)) := by
  fun_induction untilLimit tokens limit run with
  | case1 run time t rest hdue ih => exact ih.trans (claims_resume tokens hdue)
  | case2 run hdue => exact List.Subperm.refl _

end RepeatRun

namespace Requester

/-- The attempts made while the sequences run on the clock. -/
def made (tokens : Nat → Token) (limit : Option Instant) (now : Instant) (r : Requester) :
    List OwnedAttempt := (r.clocked now).made tokens limit

/-- Every attempt that is made while time passes belongs to a sequence. -/
theorem attempts_runLimited (tokens : Nat → Token) (limit : Option Instant) (now : Instant)
    (r : Requester) :
    (r.runLimited tokens limit now).1 =
      (r.made tokens limit now).map OwnedAttempt.attempt :=
  (r.clocked now).attempts_untilLimit tokens limit

/-- On a network the sequences do what they do without one, and the network is asked to send what
they attempt. -/
theorem runLimitedOn_eq {τ : Type} [RepairTransport τ] (tokens : Nat → Token)
    (limit : Option Instant) (now : Instant) (network : τ) (r : Requester) :
    r.runLimitedOn tokens limit now network =
      (RepairTransport.sendAll network (r.runLimited tokens limit now).1,
        (r.runLimited tokens limit now).2) := by
  rw [runLimitedOn, RepeatRun.untilLimitOn_eq, attempts_runLimited]
  rfl

/-- Each sequence under way has a number of its own, and so will the next one. -/
structure Numbered (r : Requester) : Prop where
  distinct : (r.claims.map Prod.fst).Nodup
  le_dispatched : ∀ c ∈ r.claims, c.1 ≤ r.dispatched

namespace Numbered

variable {r r' : Requester}

theorem of_subperm (h : r.Numbered) (hclaims : r'.claims.Subperm r.claims)
    (hdispatched : r'.dispatched = r.dispatched) : r'.Numbered := by
  refine ⟨?_, fun c hc => ?_⟩
  · obtain ⟨claims, hperm, hsublist⟩ := hclaims
    exact (hperm.map Prod.fst).nodup_iff.1 (h.distinct.sublist (hsublist.map Prod.fst))
  · rw [hdispatched]
    exact h.le_dispatched c (hclaims.subset hc)

theorem of_claims (h : r.Numbered) (hclaims : r'.claims = r.claims)
    (hdispatched : r'.dispatched = r.dispatched) : r'.Numbered :=
  h.of_subperm (by rw [hclaims]) hdispatched

theorem dispatch (h : r.Numbered) {tracking : Option (PendingFlag × Nat)}
    (hclaims : r'.claims = r.claims ++ [(r.dispatched + 1, tracking)])
    (hdispatched : r'.dispatched = r.dispatched + 1) : r'.Numbered := by
  refine ⟨?_, ?_⟩
  · rw [hclaims, List.map_append, List.map_singleton, ← List.concat_eq_append]
    refine h.distinct.concat fun hmem => ?_
    obtain ⟨c, hc, hid⟩ := List.mem_map.1 hmem
    have hle := h.le_dispatched c hc
    omega
  · rw [hclaims, hdispatched]
    refine List.forall_mem_append.2 ⟨fun c hc => ?_, List.forall_mem_singleton.2 (Nat.le_refl _)⟩
    exact Nat.le_succ_of_le (h.le_dispatched c hc)

theorem request (h : r.Numbered) (reason : RepairReason) (repeats : Nat) (allowDeferred : Bool) :
    (r.request reason repeats allowDeferred).2.Numbered := by
  by_cases he : r.enabled = true
  · obtain ⟨-, ⟨-, hclaims, hdispatched⟩ | ⟨-, hclaims, hdispatched⟩⟩ :=
      request_spec he reason repeats allowDeferred
    · exact h.of_claims hclaims hdispatched
    · exact h.dispatch hclaims hdispatched
  · rw [request_of_disabled (Bool.eq_false_iff.2 he)]
    exact h

theorem retryDeferred (h : r.Numbered) (repeats : Nat) : (r.retryDeferred repeats).2.Numbered := by
  unfold Requester.retryDeferred
  split
  · have hsame : Numbered { r with health := { r.health with recordDeferred := false } } :=
      h.of_claims rfl rfl
    exact hsame.request .recordStartDeferred repeats false
  · exact h

theorem observe (h : r.Numbered) (data : Bytes) : (r.observe data).2.Numbered := by
  obtain ⟨-, hsame⟩ | ⟨-, -, hclaims, hdispatched⟩ := r.observe_spec data
  · rw [hsame]
    exact h
  · exact h.of_claims hclaims hdispatched

theorem runLimited (h : r.Numbered) (tokens : Nat → Token) (limit : Option Instant)
    (now : Instant) : (r.runLimited tokens limit now).2.2.Numbered := by
  refine h.of_subperm ?_ rfl
  have hclaims := RepeatRun.claims_untilLimit tokens limit (r.clocked now)
  rw [clocked, List.map_map] at hclaims
  exact hclaims

end Numbered

end Requester

/-- What is done to a requester on the clock. -/
inductive ClockedAction where
  | request (reason : RepairReason) (repeats : Nat) (allowDeferred : Bool)
  | retryDeferred (repeats : Nat)
  | observe (data : Bytes)
  | setEnabled (enabled : Bool)
  | setSender (sender : Net.Endpoint)
  | reset
  /-- The sequences run as long as one goes on before `limit`; new ones start at `now`. -/
  | elapse (limit : Option Instant) (now : Instant)
  deriving DecidableEq, Repr

namespace ClockedAction

/-- Whether an action may dispatch a sequence. -/
def isRequest : ClockedAction → Bool
  | request .. | retryDeferred .. => true
  | _ => false

def isObserve : ClockedAction → Bool
  | observe _ => true
  | _ => false

end ClockedAction

/-- A requester, and the attempts that its sequences have made. -/
structure ClockedRun where
  requester : Requester
  attempts : List Attempt := []
  /-- The same attempts, each with the sequence that has made it. -/
  made : List OwnedAttempt := []

namespace ClockedRun

/-- Performs an action. -/
def perform (tokens : Nat → Token) (r : ClockedRun) : ClockedAction → ClockedRun
  | .request reason repeats allowDeferred =>
    { r with requester := (r.requester.request reason repeats allowDeferred).2 }
  | .retryDeferred repeats => { r with requester := (r.requester.retryDeferred repeats).2 }
  | .observe data => { r with requester := (r.requester.observe data).2 }
  | .setEnabled enabled => { r with requester := { r.requester with enabled } }
  | .setSender sender =>
    { r with
      requester :=
        { r.requester with health := { r.requester.health with sender := some sender } } }
  | .reset =>
    { r with requester := { r.requester with health := r.requester.health.reset } }
  | .elapse limit now =>
    { requester := (r.requester.runLimited tokens limit now).2.2
      attempts := r.attempts ++ (r.requester.runLimited tokens limit now).1
      made := r.made ++ r.requester.made tokens limit now }

/-- Performs actions one after the other. -/
def performAll (tokens : Nat → Token) (r : ClockedRun) (actions : List ClockedAction) :
    ClockedRun := actions.foldl (perform tokens) r

/-- What has become of a fresh requester. -/
def after (tokens : Nat → Token) (codec : Codec) (port : UInt16) (timing : RepairTiming)
    (enabled : Bool) (origin : Instant) (actions : List ClockedAction) : ClockedRun :=
  performAll tokens { requester := .fresh codec port timing enabled origin } actions

/-- When and where the sequence with the given number has sent. -/
def sentBy (r : ClockedRun) (id : Nat) : List (Instant × Net.Endpoint) :=
  places (·.1 == id) r.made

/-- When and where the sequences have sent whose requests raise no flag. -/
def sentUntracked (r : ClockedRun) : List (Instant × Net.Endpoint) := places (·.2.isNone) r.made

variable (tokens : Nat → Token)

theorem performAll_append (r : ClockedRun) (actions later : List ClockedAction) :
    r.performAll tokens (actions ++ later) =
      (r.performAll tokens actions).performAll tokens later := List.foldl_append

/-- Every attempt belongs to a sequence. -/
theorem attempts_performAll {r : ClockedRun} (h : r.made.map OwnedAttempt.attempt = r.attempts)
    (actions : List ClockedAction) :
    (r.performAll tokens actions).made.map OwnedAttempt.attempt =
      (r.performAll tokens actions).attempts := by
  induction actions generalizing r with
  | nil => exact h
  | cons a actions ih =>
    apply ih
    cases a with
    | elapse limit now =>
      simp only [perform, List.map_append, h, r.requester.attempts_runLimited]
    | _ => exact h

theorem numbered_perform {r : ClockedRun} (h : r.requester.Numbered) (a : ClockedAction) :
    (r.perform tokens a).requester.Numbered := by
  cases a with
  | request reason repeats allowDeferred => exact h.request reason repeats allowDeferred
  | retryDeferred repeats => exact h.retryDeferred repeats
  | observe data => exact h.observe data
  | setEnabled enabled => exact h.of_claims rfl rfl
  | setSender sender => exact h.of_claims rfl rfl
  | reset => exact h.of_claims rfl rfl
  | elapse limit now => exact h.runLimited tokens limit now

theorem numbered_performAll {r : ClockedRun} (h : r.requester.Numbered)
    (actions : List ClockedAction) : (r.performAll tokens actions).requester.Numbered := by
  induction actions generalizing r with
  | nil => exact h
  | cons a actions ih => exact ih (numbered_perform tokens h a)

theorem numbered_after (codec : Codec) (port : UInt16) (timing : RepairTiming) (enabled : Bool)
    (origin : Instant) (actions : List ClockedAction) :
    (after tokens codec port timing enabled origin actions).requester.Numbered := by
  apply numbered_performAll
  exact ⟨List.nodup_nil, fun _ hc => (List.not_mem_nil hc).elim⟩

end ClockedRun

end VideoReceiver
