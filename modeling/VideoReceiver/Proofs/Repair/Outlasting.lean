import VideoReceiver.Proofs.Repair.Clock

/-!
# Runs in which less is answered

Of two runs with the same sequences, one may find keyframes that the other one does not find. Each
flag is then as in the other run, or it is down. A sequence does the same in both runs until it ends
where it has been answered; in the other run it may go on.

## Main definitions

- `HealthState.OutlastedBy`: the flags of a run and of one in which less has been answered
- `RepeatSequence.Progress.OutlastedBy`: what one sequence does in the two runs
- `RepeatTask.OutlastedBy`, `RepeatTask.NextOutlastedBy`: the sequences of the two runs
- `Standing.OutlastedBy`: the flags, the sequences and the attempts of the two runs

## Main statements

- `RepeatSequence.outlastedBy_resume`: a sequence that both runs resume
- `RepeatTask.OutlastedBy.takeFirst`: what goes on next in the two runs
- `RepeatRun.outlastedBy_untilLimit`: letting time pass in both runs
-/

namespace VideoReceiver

/-! ## Flags -/

/-- Each flag is as in the other run, or it is down. -/
def HealthState.OutlastedBy (health health' : HealthState) : Prop :=
  ∀ flag, health.pendingSlot flag = health'.pendingSlot flag ∨ health.isPending flag = false

namespace RepeatSequence

/-- The sequence tracks a flag, and that flag is down. -/
def FlagDown (health : HealthState) (s : RepeatSequence) : Prop :=
  ∃ flag generation, s.tracking = some (flag, generation) ∧ health.isPending flag = false

theorem FlagDown.of_claim {health : HealthState} {s s' : RepeatSequence} (h : s.FlagDown health)
    (hclaim : s'.claim = s.claim) : s'.FlagDown health := by
  obtain ⟨flag, generation, htracking, hdown⟩ := h
  have hsame : s'.tracking = s.tracking := congrArg Prod.snd hclaim
  exact ⟨flag, generation, hsame.trans htracking, hdown⟩

/-- The sequence with another token for its burst. -/
def withToken (s : RepeatSequence) (token : Token) : RepeatSequence := { s with token }

@[simp] theorem claim_withToken (s : RepeatSequence) (token : Token) :
    (s.withToken token).claim = s.claim := rfl

end RepeatSequence

namespace HealthState

variable {health health' health'' : HealthState}

theorem OutlastedBy.refl (health : HealthState) : health.OutlastedBy health := fun _ => .inl rfl

theorem isPending_giveUp (s : RepeatSequence) (health : HealthState) (flag : PendingFlag)
    (h : (s.giveUp health).isPending flag = true) : health.isPending flag = true := by
  obtain ⟨generation, -, hslot⟩ | ⟨-, hslot⟩ := RepairRun.givesUp_giveUp s health flag
  · rw [isPending, hslot, PendingSlot.raised_withdraw] at h
    exact h.1
  · rwa [isPending, hslot] at h

/-- A sequence that gives up in both runs. -/
theorem OutlastedBy.giveUp (h : health.OutlastedBy health') (s : RepeatSequence) :
    (s.giveUp health).OutlastedBy (s.giveUp health') := by
  intro flag
  obtain hsame | hdown := h flag
  · left
    obtain ⟨generation, hclaim, hslot⟩ | ⟨hother, hslot⟩ :=
      RepairRun.givesUp_giveUp s health flag
    · obtain ⟨generation', hclaim', hslot'⟩ | ⟨hother', -⟩ :=
        RepairRun.givesUp_giveUp s health' flag
      · rw [hclaim] at hclaim'
        cases hclaim'
        rw [hslot, hslot', hsame]
      · exact (hother' generation hclaim).elim
    · obtain ⟨generation', hclaim', -⟩ | ⟨-, hslot'⟩ := RepairRun.givesUp_giveUp s health' flag
      · exact (hother generation' hclaim').elim
      · rw [hslot, hslot', hsame]
  · right
    rw [← Bool.not_eq_true] at hdown ⊢
    exact fun hup => hdown (isPending_giveUp s health flag hup)

/-- What the other run does to a flag that is down here does not matter. -/
theorem OutlastedBy.of_flagDown {s : RepeatSequence} (h : health.OutlastedBy health')
    (hdown : s.FlagDown health)
    (hframe : ∀ flag, (∀ generation, s.tracking ≠ some (flag, generation)) →
      health''.pendingSlot flag = health'.pendingSlot flag) : health.OutlastedBy health'' := by
  obtain ⟨flag, generation, htracking, hflag⟩ := hdown
  intro f
  by_cases hf : f = flag
  · subst hf
    exact .inr hflag
  · rw [hframe f ?_]
    · exact h f
    · intro g hg
      rw [htracking] at hg
      cases hg
      exact hf rfl

end HealthState

/-! ## One sequence -/

namespace RepeatSequence

variable {tokens : Nat → Token} {drawn drawn' : Nat} {health health' : HealthState}
  {s : RepeatSequence} {token : Token}

/-- What is answered in the other run is answered in this one. -/
theorem isAnswered_of_outlastedBy (h : health.OutlastedBy health')
    (hanswered : s.isAnswered health' = true) : s.isAnswered health = true := by
  obtain ⟨flag, generation, htracking, hnot⟩ := s.of_isAnswered hanswered
  rw [isAnswered_of_tracking htracking, Bool.not_eq_true']
  obtain hsame | hdown := h flag
  · rw [hsame]
    exact hnot
  · rw [HealthState.isPending] at hdown
    simp [PendingSlot.isAwaiting, hdown]

/-- What is answered in this run only tracks a flag that is down. -/
theorem flagDown_of_isAnswered (h : health.OutlastedBy health')
    (hanswered : s.isAnswered health = true) (hwaiting : s.isAnswered health' = false) :
    s.FlagDown health := by
  obtain ⟨flag, generation, htracking, hnot⟩ := s.of_isAnswered hanswered
  refine ⟨flag, generation, htracking, (h flag).resolve_left fun hsame => ?_⟩
  rw [isAnswered_of_tracking htracking, ← hsame, hnot] at hwaiting
  cases hwaiting

theorem pendingSlot_step (tokens : Nat → Token) (drawn : Nat) (health : HealthState)
    {s : RepeatSequence} {flag : PendingFlag}
    (h : ∀ generation, s.tracking ≠ some (flag, generation)) :
    (s.step tokens drawn health).health.pendingSlot flag = health.pendingSlot flag := by
  obtain ⟨-, hhealth, -⟩ | ⟨-, -, hhealth, -⟩ | ⟨-, hhealth, -⟩ := s.step_cases tokens drawn health
  · rw [hhealth]
  · rw [hhealth]
  · rw [hhealth]
    obtain ⟨generation, hclaim, -⟩ | ⟨-, hslot⟩ := RepairRun.givesUp_giveUp s health flag
    · exact (h generation hclaim).elim
    · exact hslot

/-- A sequence that is resumed does nothing to the flags that it does not track. -/
theorem pendingSlot_resume (tokens : Nat → Token) (drawn : Nat) (health : HealthState)
    (s : RepeatSequence) {flag : PendingFlag}
    (h : ∀ generation, s.tracking ≠ some (flag, generation)) :
    (s.resume tokens drawn health).health.pendingSlot flag = health.pendingSlot flag := by
  fun_induction resume tokens drawn health s with
  | case1 drawn health s s' hnext o r ih =>
    have hclaim : s'.claim = s.claim := claim_of_step hnext
    have htracking : s'.tracking = s.tracking := congrArg Prod.snd hclaim
    exact (ih fun generation => htracking ▸ h generation).trans
      (pendingSlot_step tokens drawn health h)
  | case2 drawn health s hnext => exact pendingSlot_step tokens drawn health h

theorem isPending_step (tokens : Nat → Token) (drawn : Nat) (health : HealthState)
    (s : RepeatSequence) {flag : PendingFlag}
    (h : (s.step tokens drawn health).health.isPending flag = true) :
    health.isPending flag = true := by
  obtain ⟨-, hhealth, -⟩ | ⟨-, -, hhealth, -⟩ | ⟨-, hhealth, -⟩ := s.step_cases tokens drawn health
  · rwa [hhealth] at h
  · rwa [hhealth] at h
  · rw [hhealth] at h
    exact HealthState.isPending_giveUp s health flag h

/-- A sequence that is resumed raises no flag. -/
theorem isPending_resume (tokens : Nat → Token) (drawn : Nat) (health : HealthState)
    (s : RepeatSequence) (flag : PendingFlag)
    (h : (s.resume tokens drawn health).health.isPending flag = true) :
    health.isPending flag = true := by
  fun_induction resume tokens drawn health s with
  | case1 drawn health s s' hnext o r ih => exact isPending_step tokens drawn health s (ih h)
  | case2 drawn health s hnext => exact isPending_step tokens drawn health s h

/-- What the sequence `s` does in this run and in the other one, up to the tokens: it does the same,
or it ends here since its flag is down, having sent less. -/
structure Progress.OutlastedBy (s : RepeatSequence) (p q : Progress) : Prop where
  health : p.health.OutlastedBy q.health
  sent : p.sent.map Datagram.target <+: q.sent.map Datagram.target
  goesOn : ∀ pause s', p.next = some (pause, s') →
    p.sent.map Datagram.target = q.sent.map Datagram.target ∧
      ∃ token, q.next = some (pause, s'.withToken token)
  ends : p.next = none →
    p.sent.map Datagram.target = q.sent.map Datagram.target ∧ q.next = none ∨
      s.FlagDown p.health

theorem Progress.OutlastedBy.of_goesOn (token : Token) {p q : Progress}
    (hhealth : p.health.OutlastedBy q.health)
    (hsent : p.sent.map Datagram.target = q.sent.map Datagram.target) {pause : Duration}
    {s' : RepeatSequence} (hp : p.next = some (pause, s'))
    (hq : q.next = some (pause, s'.withToken token)) : Progress.OutlastedBy s p q where
  health := hhealth
  sent := hsent ▸ List.prefix_refl _
  goesOn := by
    intro pause₂ u hnext
    rw [hp] at hnext
    cases hnext
    exact ⟨hsent, token, hq⟩
  ends := by
    intro hnext
    rw [hp] at hnext
    cases hnext

theorem Progress.OutlastedBy.of_ends {p q : Progress} (hhealth : p.health.OutlastedBy q.health)
    (hsent : p.sent.map Datagram.target = q.sent.map Datagram.target) (hp : p.next = none)
    (hq : q.next = none ∨ s.FlagDown p.health) : Progress.OutlastedBy s p q where
  health := hhealth
  sent := hsent ▸ List.prefix_refl _
  goesOn := by
    intro pause u hnext
    rw [hp] at hnext
    cases hnext
  ends _ := hq.imp_left fun hnone => ⟨hsent, hnone⟩

theorem outlastedBy_step (tokens : Nat → Token) (drawn drawn' : Nat) (s : RepeatSequence)
    (token : Token) (h : health.OutlastedBy health') :
    Progress.OutlastedBy s (s.step tokens drawn health)
      ((s.withToken token).step tokens drawn' health') := by
  have hsame : (s.withToken token).isAnswered health' = s.isAnswered health' := rfl
  cases hd : s.datagramsLeft with
  | succ d =>
    have hd' : (s.withToken token).datagramsLeft = d + 1 := hd
    simp only [step, hd, hd']
    exact .of_goesOn token h rfl rfl rfl
  | zero =>
    have hd' : (s.withToken token).datagramsLeft = 0 := hd
    cases hb : s.burstsLeft with
    | zero =>
      have hb' : (s.withToken token).burstsLeft = 0 := hb
      have hgivesUp : (s.withToken token).giveUp health' = s.giveUp health' := rfl
      simp only [step, hd, hd', hb, hb', hgivesUp]
      exact .of_ends (h.giveUp s) rfl rfl (.inl rfl)
    | succ b =>
      have hb' : (s.withToken token).burstsLeft = b + 1 := hb
      simp only [step, hd, hd', hb, hb', hsame]
      by_cases hanswered : s.isAnswered health = true
      · simp only [hanswered, if_true]
        by_cases hanswered' : s.isAnswered health' = true
        · simp only [hanswered', if_true]
          exact .of_ends h rfl rfl (.inl rfl)
        · simp only [hanswered']
          rw [Bool.not_eq_true] at hanswered'
          exact .of_ends h rfl rfl (.inr (flagDown_of_isAnswered h hanswered hanswered'))
      · have hanswered' : ¬ s.isAnswered health' = true :=
          fun hlater => hanswered (isAnswered_of_outlastedBy h hlater)
        simp only [hanswered, hanswered']
        exact .of_goesOn (tokens drawn') h rfl rfl rfl

/-- A sequence that tracks no flag sends the same in both runs. -/
theorem Progress.OutlastedBy.sent_eq {p q : Progress} (h : Progress.OutlastedBy s p q)
    (hs : s.tracking = none) : p.sent.map Datagram.target = q.sent.map Datagram.target := by
  cases hnext : p.next with
  | none =>
    obtain ⟨hsame, -⟩ | ⟨flag, generation, htracking, -⟩ := h.ends hnext
    · exact hsame
    · rw [hs] at htracking
      cases htracking
  | some next => exact (h.goesOn next.1 next.2 hnext).1

/-- A sequence that has ended here may go on in the other run. -/
theorem Progress.OutlastedBy.of_ended {p q : Progress} (h : Progress.OutlastedBy s p q)
    {s' : RepeatSequence} (hend : p.next = none) (hnext : q.next = some (0, s'))
    (hclaim : s'.claim = s.claim) :
    Progress.OutlastedBy s p
      { s'.resume tokens q.drawn q.health with
        sent := q.sent ++ (s'.resume tokens q.drawn q.health).sent } := by
  obtain ⟨-, hnone⟩ | hdown := h.ends hend
  · rw [hnone] at hnext
    cases hnext
  have hdown' : s'.FlagDown p.health := hdown.of_claim hclaim
  refine ⟨?_, ?_, fun pause u hgoes => ?_, fun _ => .inr hdown⟩
  · exact h.health.of_flagDown hdown' fun flag hother => pendingSlot_resume _ _ _ _ hother
  · rw [List.map_append]
    exact h.sent.trans (List.prefix_append _ _)
  · rw [hend] at hgoes
    cases hgoes

/-- A sequence that both runs resume does the same in both, or ends here. -/
theorem outlastedBy_resume (tokens : Nat → Token) (drawn drawn' : Nat) (s : RepeatSequence)
    (token : Token) (h : health.OutlastedBy health') :
    Progress.OutlastedBy s (s.resume tokens drawn health)
      ((s.withToken token).resume tokens drawn' health') := by
  fun_induction resume tokens drawn health s generalizing drawn' health' token with
  | case1 drawn health s s' hnext o =>
    rename_i r ih
    have hstep := outlastedBy_step tokens drawn drawn' s token h
    obtain ⟨hsent, token', hnext'⟩ := hstep.goesOn 0 s' hnext
    have hrest := ih ((s.withToken token).step tokens drawn' health').drawn token' hstep.health
    have hclaim : s'.claim = s.claim := claim_of_step hnext
    rw [resume_of_next hnext']
    refine ⟨hrest.health, ?_, fun pause u hgoes => ?_, fun hend => ?_⟩
    · rw [List.map_append, List.map_append, hsent, List.prefix_append_right_inj]
      exact hrest.sent
    · obtain ⟨hsame, hgoes'⟩ := hrest.goesOn pause u hgoes
      refine ⟨?_, hgoes'⟩
      rw [List.map_append, List.map_append, hsent, hsame]
    · obtain ⟨hsame, hend'⟩ | hdown := hrest.ends hend
      · left
        refine ⟨?_, hend'⟩
        rw [List.map_append, List.map_append, hsent, hsame]
      · exact .inr (hdown.of_claim hclaim.symm)
  | case2 drawn health s hnext =>
    have hstep := outlastedBy_step tokens drawn drawn' s token h
    by_cases hgoes : ∃ u, ((s.withToken token).step tokens drawn' health').next = some (0, u)
    · obtain ⟨u, hnext'⟩ := hgoes
      rw [resume_of_next hnext']
      cases hend : (s.step tokens drawn health).next with
      | none =>
        apply hstep.of_ended hend hnext'
        rw [claim_of_step hnext', claim_withToken]
      | some next =>
        obtain ⟨pause, s'⟩ := next
        obtain ⟨-, token', hsame⟩ := hstep.goesOn pause s' hend
        rw [hnext'] at hsame
        cases hsame
        -- here the pause would have no length either
        exact (hnext s' hend).elim
    · rw [resume_of_pause fun u hnext' => hgoes ⟨u, hnext'⟩]
      exact hstep

end RepeatSequence

/-! ## All sequences -/

namespace RepeatTask

variable {health health' : HealthState} {tasks tasks' more more' : List RepeatTask}

/-- The sequences of the other run are those of this one, up to the tokens of their bursts, and some
whose flags are down here. -/
inductive OutlastedBy (health : HealthState) : List RepeatTask → List RepeatTask → Prop where
  | nil : OutlastedBy health [] []
  | both (t : RepeatTask) (token : Token) {tasks tasks' : List RepeatTask}
      (hrest : OutlastedBy health tasks tasks') :
      OutlastedBy health (t :: tasks) (⟨t.sequence.withToken token, t.due⟩ :: tasks')
  | alone (t : RepeatTask) (hdown : t.sequence.FlagDown health) {tasks tasks' : List RepeatTask}
      (hrest : OutlastedBy health tasks tasks') : OutlastedBy health tasks (t :: tasks')

namespace OutlastedBy

theorem refl (health : HealthState) (tasks : List RepeatTask) :
    OutlastedBy health tasks tasks := by
  induction tasks with
  | nil => exact nil
  | cons t tasks ih => exact both t t.sequence.token ih

/-- More flags may be down here. -/
theorem of_isPending (h : OutlastedBy health tasks tasks')
    (hflags : ∀ flag, health'.isPending flag = true → health.isPending flag = true) :
    OutlastedBy health' tasks tasks' := by
  induction h with
  | nil => exact nil
  | both t token _ ih => exact both t token ih
  | alone t hdown _ ih =>
    refine alone t ?_ ih
    obtain ⟨flag, generation, htracking, hflag⟩ := hdown
    refine ⟨flag, generation, htracking, ?_⟩
    rw [← Bool.not_eq_true] at hflag ⊢
    exact fun hup => hflag (hflags flag hup)

theorem append (h : OutlastedBy health tasks tasks') (hmore : OutlastedBy health more more') :
    OutlastedBy health (tasks ++ more) (tasks' ++ more') := by
  induction h with
  | nil => exact hmore
  | both t token _ ih => exact both t token ih
  | alone t hdown _ ih => exact alone t hdown ih

theorem start (h : OutlastedBy health tasks tasks') (now : Instant) :
    OutlastedBy health (tasks.map (.start now)) (tasks'.map (.start now)) := by
  induction h with
  | nil => exact nil
  | both t token _ ih => exact both (t.start now) token ih
  | alone t hdown _ ih => exact alone (t.start now) hdown ih

theorem claims (h : OutlastedBy health tasks tasks') :
    (tasks.map (·.sequence.claim)).Sublist (tasks'.map (·.sequence.claim)) := by
  induction h with
  | nil => exact List.Sublist.slnil
  | both t token _ ih => exact ih.cons_cons _
  | alone t hdown _ ih => exact ih.cons _

end OutlastedBy

/-! ### What goes on next -/

section TakeFirst

variable {t u : RepeatTask} {rest : List RepeatTask} {time due : Instant}

theorem takeFirst_cons_of_le (hdue : t.due = some due)
    (hle : ∀ n ∈ takeFirst tasks, due ≤ n.1) :
    takeFirst (t :: tasks) = some (due, t, tasks) := by
  rw [takeFirst, hdue]
  cases hfirst : takeFirst tasks with
  | none => rfl
  | some n => exact if_pos (hle n hfirst)

theorem takeFirst_cons_of_lt (hfirst : takeFirst tasks = some (time, u, rest))
    (hlt : ∀ due, t.due = some due → time < due) :
    takeFirst (t :: tasks) = some (time, u, t :: rest) := by
  rw [takeFirst, hfirst]
  cases hdue : t.due with
  | none => rfl
  | some due => exact if_neg (Nat.not_le_of_lt (hlt due hdue))

theorem takeFirst_cons_of_none (hdue : t.due = none) (hnone : takeFirst tasks = none) :
    takeFirst (t :: tasks) = none := by
  rw [takeFirst, hdue, hnone]

/-- The first of the tasks goes on next, or it waits for another one, or none has been started. -/
theorem takeFirst_cons_cases (t : RepeatTask) (tasks : List RepeatTask) :
    (∃ due, t.due = some due ∧ ∀ n ∈ takeFirst tasks, due ≤ n.1) ∨
      (∃ time u rest, takeFirst tasks = some (time, u, rest) ∧
        ∀ due, t.due = some due → time < due) ∨
      (t.due = none ∧ takeFirst tasks = none) := by
  cases hdue : t.due with
  | none =>
    cases takeFirst tasks with
    | none => exact .inr (.inr ⟨rfl, rfl⟩)
    | some n => exact .inr (.inl ⟨n.1, n.2.1, n.2.2, rfl, nofun⟩)
  | some due =>
    by_cases hle : ∀ n ∈ takeFirst tasks, due ≤ n.1
    · exact .inl ⟨due, rfl, hle⟩
    · right
      left
      simp only [not_forall, Nat.not_le] at hle
      obtain ⟨n, hn, hlt⟩ := hle
      refine ⟨n.1, n.2.1, n.2.2, hn, fun due' hdue' => ?_⟩
      cases hdue'
      exact hlt

/-- Nothing goes on before an instant that every task waits for. -/
theorem le_takeFirst_cons (hdue : ∀ due, t.due = some due → time ≤ due)
    (hle : ∀ n ∈ takeFirst tasks, time ≤ n.1) : ∀ n ∈ takeFirst (t :: tasks), time ≤ n.1 := by
  obtain ⟨due, htime, hfirst⟩ | ⟨time₂, u, rest, hfirst, hlt⟩ | ⟨htime, hnone⟩ :=
    takeFirst_cons_cases t tasks
  · rw [takeFirst_cons_of_le htime hfirst]
    rintro n ⟨⟩
    exact hdue due htime
  · rw [takeFirst_cons_of_lt hfirst hlt]
    rintro n ⟨⟩
    exact hle (time₂, u, rest) hfirst
  · rw [takeFirst_cons_of_none htime hnone]
    exact nofun

end TakeFirst

/-- What goes on next in the other run goes on next here; or its flag is down here, and nothing goes
on here before it. -/
inductive NextOutlastedBy (health : HealthState) (tasks : List RepeatTask) :
    Option (Instant × RepeatTask × List RepeatTask) →
      Option (Instant × RepeatTask × List RepeatTask) → Prop where
  | none : NextOutlastedBy health tasks none none
  | both (time : Instant) (t : RepeatTask) (token : Token) {rest rest' : List RepeatTask}
      (hrest : OutlastedBy health rest rest') :
      NextOutlastedBy health tasks (some (time, t, rest))
        (some (time, ⟨t.sequence.withToken token, t.due⟩, rest'))
  | alone (time : Instant) (t : RepeatTask) (hdown : t.sequence.FlagDown health)
      {rest : List RepeatTask} (hrest : OutlastedBy health tasks rest)
      {next : Option (Instant × RepeatTask × List RepeatTask)}
      (hnext : ∀ n ∈ next, time ≤ n.1) :
      NextOutlastedBy health tasks next (some (time, t, rest))

theorem NextOutlastedBy.le {next next' : Option (Instant × RepeatTask × List RepeatTask)}
    (h : NextOutlastedBy health tasks next next') {time : Instant}
    (hle : ∀ n ∈ next', time ≤ n.1) : ∀ n ∈ next, time ≤ n.1 := by
  cases h with
  | none => exact hle
  | both time₂ t token hrest =>
    have hle₂ := hle _ rfl
    rintro n ⟨⟩
    exact hle₂
  | alone time₂ t hdown hrest hnext =>
    intro n hn
    exact Nat.le_trans (hle _ rfl) (hnext n hn)

theorem OutlastedBy.takeFirst (h : OutlastedBy health tasks tasks') :
    NextOutlastedBy health tasks (takeFirst tasks) (takeFirst tasks') := by
  induction h with
  | nil => exact .none
  | @both t token tasks tasks' hrest ih =>
    obtain ⟨due, hdue, hle⟩ | ⟨time, u, rest', hfirst, hlt⟩ | ⟨hdue, hnone⟩ :=
      takeFirst_cons_cases ⟨t.sequence.withToken token, t.due⟩ tasks'
    · have hmine : t.due = some due := hdue
      rw [takeFirst_cons_of_le hdue hle, takeFirst_cons_of_le hmine (ih.le hle)]
      exact .both due t token hrest
    · have hmine : ∀ due, t.due = some due → time < due := hlt
      rw [takeFirst_cons_of_lt hfirst hlt]
      rw [hfirst] at ih
      generalize hnext : RepeatTask.takeFirst tasks = next at ih
      cases ih with
      | both time u token' hrest' =>
        rw [takeFirst_cons_of_lt hnext hmine]
        exact .both time u token' (.both t token hrest')
      | alone time u hdown hrest' hlater =>
        apply NextOutlastedBy.alone time u hdown (.both t token hrest')
        apply le_takeFirst_cons
        · exact fun due hdue => Nat.le_of_lt (hmine due hdue)
        · rw [hnext]
          exact hlater
    · have hmine : t.due = none := hdue
      rw [takeFirst_cons_of_none hdue hnone]
      rw [hnone] at ih
      generalize hnext : RepeatTask.takeFirst tasks = next at ih
      cases ih
      rw [takeFirst_cons_of_none hmine hnext]
      exact .none
  | @alone t hdown tasks tasks' hrest ih =>
    obtain ⟨due, hdue, hle⟩ | ⟨time, u, rest', hfirst, hlt⟩ | ⟨hdue, hnone⟩ :=
      takeFirst_cons_cases t tasks'
    · rw [takeFirst_cons_of_le hdue hle]
      exact .alone due t hdown hrest (ih.le hle)
    · rw [takeFirst_cons_of_lt hfirst hlt]
      rw [hfirst] at ih
      generalize RepeatTask.takeFirst tasks = next at ih ⊢
      cases ih with
      | both time u token' hrest' => exact .both time u token' (.alone t hdown hrest')
      | alone time u hdown' hrest' hnext => exact .alone time u hdown' (.alone t hdown hrest') hnext
    · rw [takeFirst_cons_of_none hdue hnone]
      rw [hnone] at ih
      generalize RepeatTask.takeFirst tasks = next at ih ⊢
      cases ih
      exact .none

theorem all_lt_of_le {limit : Option Instant} {time time₂ : Instant} (hle : time ≤ time₂)
    (h : limit.all (time₂ < ·) = true) : limit.all (time < ·) = true := by
  cases limit with
  | none => rfl
  | some l =>
    have hlt : time₂ < l := of_decide_eq_true h
    exact decide_eq_true (Nat.lt_of_le_of_lt hle hlt)

/-- The same with a limit. -/
theorem OutlastedBy.takeDue (h : OutlastedBy health tasks tasks') (limit : Option Instant) :
    NextOutlastedBy health tasks (takeDue limit tasks) (takeDue limit tasks') := by
  have hnext := h.takeFirst
  unfold RepeatTask.takeDue
  generalize RepeatTask.takeFirst tasks = next at hnext ⊢
  generalize RepeatTask.takeFirst tasks' = next' at hnext ⊢
  cases hnext with
  | none => exact .none
  | both time t token hrest =>
    dsimp only
    by_cases hlimit : limit.all (time < ·) = true
    · rw [if_pos hlimit, if_pos hlimit]
      exact .both time t token hrest
    · rw [if_neg hlimit, if_neg hlimit]
      exact .none
  | alone time t hdown hrest hnext =>
    dsimp only
    by_cases hlimit : limit.all (time < ·) = true
    · rw [if_pos hlimit]
      apply NextOutlastedBy.alone time t hdown hrest
      intro n hn
      cases next with
      | none => cases hn
      | some next =>
        dsimp only at hn
        split at hn
        · cases hn
          exact hnext next rfl
        · cases hn
    · rw [if_neg hlimit]
      cases next with
      | none => exact .none
      | some next =>
        have hlater : ¬ limit.all (next.1 < ·) = true :=
          fun hbefore => hlimit (all_lt_of_le (hnext next rfl) hbefore)
        dsimp only
        rw [if_neg hlater]
        exact .none

end RepeatTask

/-! ## Both runs -/

/-- What has come of a run: its flags, the sequences under way, and the attempts so far. -/
structure Standing where
  health : HealthState
  tasks : List RepeatTask
  made : List OwnedAttempt

/-- In the other run less has been answered. Each sequence has sent there what it has sent here, and
more only if it has ended here. -/
structure Standing.OutlastedBy (r r' : Standing) : Prop where
  health : r.health.OutlastedBy r'.health
  tasks : RepeatTask.OutlastedBy r.health r.tasks r'.tasks
  distinct : (r'.tasks.map (·.sequence.id)).Nodup
  sent : ∀ id, places (·.1 == id) r.made <+: places (·.1 == id) r'.made
  underway : ∀ t ∈ r.tasks,
    places (·.1 == t.sequence.id) r.made = places (·.1 == t.sequence.id) r'.made
  untracked : places (·.2.isNone) r.made = places (·.2.isNone) r'.made

theorem Standing.OutlastedBy.distinct_here {r r' : Standing} (h : r.OutlastedBy r') :
    (r.tasks.map (·.sequence.id)).Nodup := by
  have hclaims := h.tasks.claims.map Prod.fst
  rw [List.map_map, List.map_map] at hclaims
  exact h.distinct.sublist hclaims

/-- What has come of a run on the clock that has begun after the given attempts. -/
def RepeatRun.standing (run : RepeatRun) (made : List OwnedAttempt) : Standing :=
  ⟨run.health, run.tasks, made⟩

namespace RepeatRun

variable {tokens : Nat → Token} {run run' : RepeatRun} {time : Instant} {t : RepeatTask}
  {rest rest' : List RepeatTask} {made made' : List OwnedAttempt}

/-- The number of a task that is resumed is not that of another task. -/
theorem id_ne_of_mem (hperm : (t :: rest).Perm run.tasks)
    (hdistinct : (run.tasks.map (·.sequence.id)).Nodup) {u : RepeatTask} (hu : u ∈ rest) :
    t.sequence.id ≠ u.sequence.id := by
  have hnodup := (hperm.map (·.sequence.id)).nodup_iff.2 hdistinct
  rw [List.map_cons, List.nodup_cons] at hnodup
  intro hid
  apply hnodup.1
  rw [hid]
  exact List.mem_map_of_mem hu

theorem distinct_resume {limit : Option Instant}
    (h : RepeatTask.takeDue limit run.tasks = some (time, t, rest))
    (hdistinct : (run.tasks.map (·.sequence.id)).Nodup) :
    ((run.resume tokens time t rest).tasks.map (·.sequence.id)).Nodup := by
  obtain ⟨claims, hperm, hsublist⟩ := claims_resume tokens h
  have hids := (hperm.map Prod.fst).nodup_iff.1 ((hsublist.map Prod.fst).nodup ?_)
  · rwa [List.map_map] at hids
  · rwa [List.map_map]

/-- A sequence that has ended here goes on in the other run. -/
theorem outlastedBy_resume_alone {limit : Option Instant}
    (h : (run.standing made).OutlastedBy (run'.standing made'))
    (hdue : RepeatTask.takeDue limit run'.tasks = some (time, t, rest'))
    (hdown : t.sequence.FlagDown run.health)
    (hrest : RepeatTask.OutlastedBy run.health run.tasks rest') :
    (run.standing made).OutlastedBy
      ((run'.resume tokens time t rest').standing (made' ++ run'.madeBy tokens time t)) where
  health := h.health.of_flagDown hdown fun flag hother =>
    t.sequence.pendingSlot_resume tokens run'.drawn run'.health hother
  tasks := by
    show RepeatTask.OutlastedBy run.health run.tasks (run'.resume tokens time t rest').tasks
    rw [tasks_resume, ← List.append_nil run.tasks]
    apply hrest.append
    cases hnext : (t.sequence.resume tokens run'.drawn run'.health).next with
    | none => exact .nil
    | some next => exact .alone _ (hdown.of_claim (RepeatSequence.claim_of_resume hnext)) .nil
  distinct := distinct_resume hdue h.distinct
  sent id := by
    apply (h.sent id).trans
    show _ <+: places _ (made' ++ run'.madeBy tokens time t)
    rw [places_append]
    exact List.prefix_append _ _
  underway u hu := by
    have hmem : u.sequence.claim ∈ rest'.map (·.sequence.claim) :=
      hrest.claims.subset (List.mem_map_of_mem hu)
    obtain ⟨v, hv, hclaim⟩ := List.mem_map.1 hmem
    have hid : v.sequence.id = u.sequence.id := congrArg Prod.fst hclaim
    have hne : t.sequence.id ≠ u.sequence.id := by
      rw [← hid]
      exact id_ne_of_mem (perm_of_takeDue hdue) h.distinct hv
    show _ = places _ (made' ++ run'.madeBy tokens time t)
    rw [places_append, places_madeBy_of_ne tokens run' time hne, List.append_nil]
    exact h.underway u hu
  untracked := by
    obtain ⟨flag, generation, htracking, -⟩ := hdown
    show _ = places _ (made' ++ run'.madeBy tokens time t)
    rw [places_append, places_madeBy, if_neg, List.append_nil]
    · exact h.untracked
    · simp [RepeatSequence.claim, htracking]

/-- Of a sequence that both runs resume the rest goes behind the others in both, or in the other run
only. -/
theorem tasks_resume_both {t' : RepeatTask}
    (hprogress : RepeatSequence.Progress.OutlastedBy t.sequence
      (t.sequence.resume tokens run.drawn run.health)
      (t'.sequence.resume tokens run'.drawn run'.health))
    (hclaim : t'.sequence.claim = t.sequence.claim)
    (hrest : RepeatTask.OutlastedBy run.health rest rest') :
    RepeatTask.OutlastedBy (run.resume tokens time t rest).health
      (run.resume tokens time t rest).tasks (run'.resume tokens time t' rest').tasks := by
  rw [tasks_resume, tasks_resume]
  apply (hrest.of_isPending (t.sequence.isPending_resume tokens run.drawn run.health)).append
  cases hnext : (t.sequence.resume tokens run.drawn run.health).next with
  | some next =>
    obtain ⟨-, token', hnext'⟩ := hprogress.goesOn next.1 next.2 hnext
    rw [hnext']
    exact .both ⟨next.2, some (time + next.1)⟩ token' .nil
  | none =>
    cases hnext' : (t'.sequence.resume tokens run'.drawn run'.health).next with
    | none => exact .nil
    | some next =>
      obtain ⟨-, hnone⟩ | hdown := hprogress.ends hnext
      · rw [hnext'] at hnone
        cases hnone
      · have hnew : next.2.claim = t.sequence.claim :=
          (RepeatSequence.claim_of_resume hnext').trans hclaim
        exact .alone _ (hdown.of_claim hnew) .nil

/-- A sequence that is under way in both runs goes on in both, or ends here. -/
theorem outlastedBy_resume_both {limit : Option Instant} {t' : RepeatTask} {token : Token}
    (h : (run.standing made).OutlastedBy (run'.standing made'))
    (hdue : RepeatTask.takeDue limit run.tasks = some (time, t, rest))
    (hdue' : RepeatTask.takeDue limit run'.tasks = some (time, t', rest'))
    (hsequence : t'.sequence = t.sequence.withToken token)
    (hrest : RepeatTask.OutlastedBy run.health rest rest') :
    ((run.resume tokens time t rest).standing (made ++ run.madeBy tokens time t)).OutlastedBy
      ((run'.resume tokens time t' rest').standing (made' ++ run'.madeBy tokens time t')) := by
  have hprogress : RepeatSequence.Progress.OutlastedBy t.sequence
      (t.sequence.resume tokens run.drawn run.health)
      (t'.sequence.resume tokens run'.drawn run'.health) := by
    rw [hsequence]
    exact RepeatSequence.outlastedBy_resume tokens run.drawn run'.drawn t.sequence token h.health
  have hclaim : t'.sequence.claim = t.sequence.claim := by
    rw [hsequence, RepeatSequence.claim_withToken]
  have hid : t'.sequence.id = t.sequence.id := congrArg Prod.fst hclaim
  have ht : t ∈ run.tasks := (perm_of_takeDue hdue).mem_iff.1 List.mem_cons_self
  have hunderway : ∀ u ∈ run.tasks,
      places (·.1 == u.sequence.id) made = places (·.1 == u.sequence.id) made' := h.underway
  refine ⟨hprogress.health, tasks_resume_both hprogress hclaim hrest,
    distinct_resume hdue' h.distinct, fun id => ?_, fun u hu => ?_, ?_⟩
  · show places _ (made ++ run.madeBy tokens time t) <+:
      places _ (made' ++ run'.madeBy tokens time t')
    rw [places_append, places_append]
    by_cases hmine : t.sequence.id = id
    · subst hmine
      rw [hunderway t ht, List.prefix_append_right_inj, places_madeBy_self, ← hid,
        places_madeBy_self]
      exact hprogress.sent.map _
    · rw [places_madeBy_of_ne tokens run time hmine,
        places_madeBy_of_ne tokens run' time (hid ▸ hmine), List.append_nil, List.append_nil]
      exact h.sent id
  · show places _ (made ++ run.madeBy tokens time t) =
      places _ (made' ++ run'.madeBy tokens time t')
    rw [places_append, places_append]
    have hmem : u ∈ (run.resume tokens time t rest).tasks := hu
    rw [tasks_resume, List.mem_append] at hmem
    obtain hold | hnew := hmem
    · have hne := id_ne_of_mem (perm_of_takeDue hdue) h.distinct_here hold
      rw [places_madeBy_of_ne tokens run time hne,
        places_madeBy_of_ne tokens run' time (hid ▸ hne), List.append_nil, List.append_nil]
      exact hunderway u ((perm_of_takeDue hdue).mem_iff.1 (List.mem_cons_of_mem t hold))
    · cases hnext : (t.sequence.resume tokens run.drawn run.health).next with
      | none =>
        rw [hnext] at hnew
        cases hnew
      | some next =>
        rw [hnext] at hnew
        have hsame : u.sequence.id = t.sequence.id := by
          rw [List.mem_singleton.1 hnew]
          exact congrArg Prod.fst (RepeatSequence.claim_of_resume hnext)
        rw [hsame, hunderway t ht, places_madeBy_self, ← hid, places_madeBy_self,
          (hprogress.goesOn next.1 next.2 hnext).1]
  · show places _ (made ++ run.madeBy tokens time t) =
      places _ (made' ++ run'.madeBy tokens time t')
    have huntracked : places (·.2.isNone) made = places (·.2.isNone) made' := h.untracked
    rw [places_append, places_append, places_madeBy, places_madeBy, hclaim, huntracked]
    cases htracking : t.sequence.tracking with
    | none => rw [hprogress.sent_eq htracking]
    | some tracking => simp [RepeatSequence.claim, htracking]

/-- Letting time pass in both runs. -/
theorem outlastedBy_untilLimit (tokens : Nat → Token) (limit : Option Instant)
    (h : (run.standing made).OutlastedBy (run'.standing made')) :
    ((run.untilLimit tokens limit).standing (made ++ run.made tokens limit)).OutlastedBy
      ((run'.untilLimit tokens limit).standing (made' ++ run'.made tokens limit)) := by
  fun_induction untilLimit tokens limit run' generalizing run made made' with
  | case1 run' time t' rest' hdue' ih =>
    have hnext : RepeatTask.NextOutlastedBy run.health run.tasks
        (RepeatTask.takeDue limit run.tasks) (RepeatTask.takeDue limit run'.tasks) :=
      h.tasks.takeDue limit
    rw [hdue'] at hnext
    rw [made_of_takeDue tokens hdue', ← List.append_assoc]
    generalize hdue : RepeatTask.takeDue limit run.tasks = next at hnext
    cases hnext with
    | both time t token hrest =>
      rw [untilLimit_of_takeDue tokens hdue, made_of_takeDue tokens hdue, ← List.append_assoc]
      exact ih (outlastedBy_resume_both h hdue hdue' rfl hrest)
    | alone time t hdown hrest => exact ih (outlastedBy_resume_alone h hdue' hdown hrest)
  | case2 run' hdue' =>
    have hnext : RepeatTask.NextOutlastedBy run.health run.tasks
        (RepeatTask.takeDue limit run.tasks) (RepeatTask.takeDue limit run'.tasks) :=
      h.tasks.takeDue limit
    rw [hdue'] at hnext
    generalize hdue : RepeatTask.takeDue limit run.tasks = next at hnext
    cases hnext
    rw [untilLimit_of_takeDue_eq_none tokens hdue, made_of_takeDue_eq_none tokens hdue,
      made_of_takeDue_eq_none tokens hdue', List.append_nil, List.append_nil]
    exact h

end RepeatRun

end VideoReceiver
