import VideoReceiver.Proofs.Repair.Answers

/-!
# How many attempts a sequence makes

A sequence that runs to its end makes all its attempts: as many as its request asked for bursts,
times the datagrams of a burst. Besides a keyframe and a reset there is one thing that cuts it
short: another request has raised the same flag since, and the sequence of that request has given
up. It lowers the flag for both, and the earlier sequence ends before its next burst.

## Main definitions

- `attempts`: how many attempts a sequence has made
- `GivenUp`: the latest request for a flag has given up
- `RepairRun.Counted`: the attempts made and those that are left add up

## Main statements

- `RepairRun.Counted.effect`: every action keeps the count
- `RepairRun.attempts_of_ended`: how many attempts a sequence that has ended has made
-/

namespace VideoReceiver

/-- How many attempts the sequence with the given number has made. -/
def attempts (id : Nat) (log : List SequenceEvent) : Nat :=
  log.countP fun
    | .sent s _ => s.id == id
    | _ => false

@[simp] theorem attempts_append (id : Nat) (log later : List SequenceEvent) :
    attempts id (log ++ later) = attempts id log + attempts id later :=
  List.countP_append

/-- Only a sequence that is under way makes attempts. -/
theorem attempts_singleton_of_ne {id : Nat} {e : SequenceEvent}
    (h : ∀ s datagram, e = .sent s datagram → s.id ≠ id) : attempts id [e] = 0 := by
  cases e with
  | sent s datagram =>
    have hne : (s.id == id) = false := beq_eq_false_iff_ne.2 (h s datagram rfl)
    simp [attempts, hne]
  | _ => rfl

/-- The sequence of the latest request that has raised the flag has given up. -/
def GivenUp (history : List RepairEvent) (flag : PendingFlag) : Prop :=
  ∃ id since, LatestRaise history flag .dispatched id since ∧ .finished id ∈ since

/-- Without a keyframe and a reset, a flag that has been raised is awaited unless the latest request
has given up. -/
theorem awaited_iff_not_givenUp {history : List RepairEvent} {flag : PendingFlag}
    (hkeyframe : .keyframe ∉ history) (hreset : .reset ∉ history) {o : RequestOutcome} {i : Nat}
    (hraised : .raised flag o i ∈ history) : Awaited history flag ↔ ¬ GivenUp history flag := by
  obtain ⟨outcome, id, since, hlatest⟩ := exists_latestRaise hraised
  have hsince : ∀ e ∈ since, e ∈ history := by
    obtain ⟨before, rfl⟩ := hlatest.split
    exact fun e he => List.mem_append_right _ (List.mem_cons_of_mem _ he)
  -- of the things that lower a flag only giving up is left
  constructor
  · rintro ⟨outcome', id', since', hlatest', -, -, hunfinished⟩ ⟨j, s, hl, hfinished⟩
    obtain ⟨rfl, rfl, rfl⟩ := hlatest'.unique hl
    exact hunfinished rfl hfinished
  · intro hnot
    refine ⟨outcome, id, since, hlatest, fun h => hkeyframe (hsince _ h),
      fun h => hreset (hsince _ h), fun houtcome hfinished => hnot ?_⟩
    subst houtcome
    exact ⟨id, since, hlatest, hfinished⟩

namespace RepeatSequence

theorem GoesOn.refl (s : RepeatSequence) : s.GoesOn s := ⟨rfl, rfl⟩

theorem GoesOn.trans {s₁ s₂ s₃ : RepeatSequence} (h₁ : s₁.GoesOn s₂) (h₂ : s₂.GoesOn s₃) :
    s₁.GoesOn s₃ :=
  ⟨h₂.claim_eq.trans h₁.claim_eq, h₂.timing_eq.trans h₁.timing_eq⟩

theorem GoesOn.id_eq {s s' : RepeatSequence} (h : s.GoesOn s') : s'.id = s.id :=
  congrArg Prod.fst h.claim_eq

theorem GoesOn.tracking_eq {s s' : RepeatSequence} (h : s.GoesOn s') : s'.tracking = s.tracking :=
  congrArg Prod.snd h.claim_eq

end RepeatSequence

/-- The attempts that a sequence has made and those that are left to it are those that it had when
it was dispatched. -/
def AddsUp (log : List SequenceEvent) (s : RepeatSequence) : Prop :=
  ∃ s₀, .dispatched s₀ ∈ log ∧ s₀.GoesOn s ∧ attempts s.id log + s.attemptsLeft = s₀.attemptsLeft

theorem AddsUp.append {log : List SequenceEvent} {s : RepeatSequence} (h : AddsUp log s)
    {e : SequenceEvent} (he : ∀ s' datagram, e = .sent s' datagram → s'.id ≠ s.id) :
    AddsUp (log ++ [e]) s := by
  obtain ⟨s₀, hdispatched, hgoes, hcount⟩ := h
  refine ⟨s₀, List.mem_append_left _ hdispatched, hgoes, ?_⟩
  rw [attempts_append, attempts_singleton_of_ne he]
  exact hcount

namespace RepairRun

variable {tokens : Nat → Token}

/-- What the log of a run tells about the sequences that have been dispatched in it. -/
structure Counted (r : RepairRun) (log : List SequenceEvent) : Prop where
  fresh : ∀ s, .dispatched s ∈ log → s.datagramsLeft = 0
  id_le : ∀ s, .dispatched s ∈ log → s.id ≤ r.requester.dispatched
  unique : ∀ s s', .dispatched s ∈ log → .dispatched s' ∈ log → s.id = s'.id → s = s'
  attempts_eq_zero : ∀ id, r.requester.dispatched < id → attempts id log = 0
  running : ∀ s ∈ r.sequences, AddsUp log s
  ended : ∀ s, .ended s ∈ log →
    s.datagramsLeft = 0 ∧ (∀ s' ∈ r.sequences, s'.id ≠ s.id) ∧ AddsUp log s

/-- A step of a sequence that is under way keeps the count if it adds up for what is under way
afterwards and for what has ended. -/
theorem Counted.of_step {r r' : RepairRun} {log : List SequenceEvent} (h : Counted r log)
    (hdispatched : r'.requester.dispatched = r.requester.dispatched) {e : SequenceEvent}
    (he : ∀ s, e ≠ .dispatched s)
    (hsent : ∀ s datagram, e = .sent s datagram → s.id ≤ r.requester.dispatched)
    (hrunning : ∀ s ∈ r'.sequences, AddsUp (log ++ [e]) s)
    (hended : ∀ s, .ended s ∈ log ++ [e] →
      s.datagramsLeft = 0 ∧ (∀ s' ∈ r'.sequences, s'.id ≠ s.id) ∧ AddsUp (log ++ [e]) s) :
    Counted r' (log ++ [e]) := by
  have hold : ∀ s, .dispatched s ∈ log ++ [e] → .dispatched s ∈ log := fun s hmem =>
    (List.mem_append.1 hmem).resolve_right fun hnew => he s (List.mem_singleton.1 hnew).symm
  refine ⟨fun s hs => h.fresh s (hold s hs), fun s hs => ?_,
    fun s s' hs hs' => h.unique s s' (hold s hs) (hold s' hs'), fun id hid => ?_, hrunning, hended⟩
  · rw [hdispatched]
    exact h.id_le s (hold s hs)
  · rw [hdispatched] at hid
    rw [attempts_append, h.attempts_eq_zero id hid, attempts_singleton_of_ne]
    intro s datagram heq hs
    have := hsent s datagram heq
    omega

theorem Counted.dispatch {r r' : RepairRun} {log : List SequenceEvent} (h : Counted r log)
    {s : RepeatSequence} (hid : s.id = r.requester.dispatched + 1) (hfresh : s.datagramsLeft = 0)
    (hdispatched : r'.requester.dispatched = r.requester.dispatched + 1)
    (hsequences : r'.sequences = r.sequences ++ [s]) : Counted r' (log ++ [.dispatched s]) := by
  have hmem : ∀ s', .dispatched s' ∈ log ++ [.dispatched s] → .dispatched s' ∈ log ∨ s' = s := by
    intro s' hs'
    simpa using hs'
  have hkeep : ∀ s', AddsUp log s' → AddsUp (log ++ [.dispatched s]) s' := fun s' hs' =>
    hs'.append (by simp)
  refine ⟨fun s' hs' => ?_, fun s' hs' => ?_, fun s₁ s₂ h₁ h₂ hsame => ?_, fun id hlt => ?_,
    fun s' hs' => ?_, fun s' hs' => ?_⟩
  · rcases hmem s' hs' with hold | rfl
    · exact h.fresh s' hold
    · exact hfresh
  · rcases hmem s' hs' with hold | rfl
    · have := h.id_le s' hold
      omega
    · omega
  · rcases hmem s₁ h₁ with hold₁ | rfl <;> rcases hmem s₂ h₂ with hold₂ | rfl
    · exact h.unique s₁ s₂ hold₁ hold₂ hsame
    · have := h.id_le s₁ hold₁
      omega
    · have := h.id_le s₂ hold₂
      omega
    · rfl
  · rw [attempts_append, h.attempts_eq_zero id (by omega)]
    rfl
  · rw [hsequences] at hs'
    rcases List.mem_append.1 hs' with hold | hnew
    · exact hkeep s' (h.running s' hold)
    · rw [List.mem_singleton.1 hnew]
      refine ⟨s, by simp, .refl s, ?_⟩
      rw [attempts_append, h.attempts_eq_zero s.id (by omega)]
      exact Nat.zero_add _
  · have hold : .ended s' ∈ log := by simpa using hs'
    obtain ⟨hzero, hothers, hcount⟩ := h.ended s' hold
    refine ⟨hzero, fun t ht => ?_, hkeep s' hcount⟩
    rw [hsequences] at ht
    rcases List.mem_append.1 ht with holdt | hnew
    · exact hothers t holdt
    · -- the number of the new sequence is above all others
      obtain ⟨s₀, hs₀, hgoes, -⟩ := hcount
      have := h.id_le s₀ hs₀
      rw [List.mem_singleton.1 hnew, hgoes.id_eq]
      omega

theorem Counted.id_le_of_mem {r : RepairRun} {log : List SequenceEvent} (h : Counted r log)
    {s : RepeatSequence} (hs : s ∈ r.sequences) : s.id ≤ r.requester.dispatched := by
  obtain ⟨s₀, hs₀, hgoes, -⟩ := h.running s hs
  rw [hgoes.id_eq]
  exact h.id_le s₀ hs₀

theorem Owned.id_ne_of_perm {r : RepairRun} (ho : r.Owned) {s : RepeatSequence}
    {others : List RepeatSequence} (hperm : (s :: others).Perm r.sequences) :
    ∀ t ∈ others, t.id ≠ s.id := by
  have hids := ho.ids
  rw [claims_eq_map, List.map_map] at hids
  have hnodup := ((hperm.map (Prod.fst ∘ RepeatSequence.claim)).nodup_iff).2 hids
  rw [List.map_cons, List.nodup_cons] at hnodup
  intro t ht heq
  exact hnodup.1 (List.mem_map.2 ⟨t, ht, heq⟩)

/-- A sequence that goes on keeps the count if its own attempts add up. -/
theorem Counted.goesOn {r r' : RepairRun} {log : List SequenceEvent} (h : Counted r log)
    (ho : r.Owned) {s s' : RepeatSequence} {others : List RepeatSequence} (hsame : SameFlags r r')
    (hperm : (s :: others).Perm r.sequences) (hsequences : r'.sequences = others ++ [s'])
    (hgoes : s.GoesOn s') {e : SequenceEvent} (he : e = .began s ∨ ∃ datagram, e = .sent s datagram)
    (hleft : s.attemptsLeft = attempts s.id [e] + s'.attemptsLeft) : Counted r' (log ++ [e]) := by
  have hmem : s ∈ r.sequences := hperm.mem_iff.1 List.mem_cons_self
  have hsent : ∀ t datagram, e = .sent t datagram → t = s := by
    rintro t datagram rfl
    rcases he with heq | ⟨d, heq⟩
    · cases heq
    · exact (SequenceEvent.sent.inj heq).1
  have hothers : ∀ t, t.id ≠ s.id → AddsUp log t → AddsUp (log ++ [e]) t := fun t hne ht =>
    ht.append fun s₁ datagram heq => by
      rw [hsent s₁ datagram heq]
      exact Ne.symm hne
  refine h.of_step hsame.dispatched_eq ?_ ?_ (fun t ht => ?_) fun t ht => ?_
  · rintro t rfl
    rcases he with heq | ⟨d, heq⟩ <;> cases heq
  · intro t datagram heq
    rw [hsent t datagram heq]
    exact h.id_le_of_mem hmem
  · rw [hsequences] at ht
    rcases List.mem_append.1 ht with hother | hnew
    · exact hothers t (ho.id_ne_of_perm hperm t hother)
        (h.running t (hperm.mem_iff.1 (List.mem_cons_of_mem _ hother)))
    · rw [List.mem_singleton.1 hnew]
      obtain ⟨s₀, hs₀, hgoes₀, hcount⟩ := h.running s hmem
      refine ⟨s₀, List.mem_append_left _ hs₀, hgoes₀.trans hgoes, ?_⟩
      rw [attempts_append, hgoes.id_eq]
      omega
  · have hold : .ended t ∈ log := by
      refine (List.mem_append.1 ht).resolve_right fun hnew => ?_
      rcases he with rfl | ⟨d, rfl⟩ <;> cases List.mem_singleton.1 hnew
    obtain ⟨hzero, hne, hcount⟩ := h.ended t hold
    refine ⟨hzero, fun u hu => ?_, hothers t (Ne.symm (hne s hmem)) hcount⟩
    rw [hsequences] at hu
    rcases List.mem_append.1 hu with hother | hnew
    · exact hne u (hperm.mem_iff.1 (List.mem_cons_of_mem _ hother))
    · rw [List.mem_singleton.1 hnew, hgoes.id_eq]
      exact hne s hmem

/-- A sequence that ends between two bursts has made the attempts that are not left to it. -/
theorem Counted.ends {r r' : RepairRun} {log : List SequenceEvent} (h : Counted r log)
    (ho : r.Owned) {s : RepeatSequence} {others : List RepeatSequence}
    (hdispatched : r'.requester.dispatched = r.requester.dispatched)
    (hperm : (s :: others).Perm r.sequences) (hsequences : r'.sequences = others)
    (hzero : s.datagramsLeft = 0) : Counted r' (log ++ [.ended s]) := by
  have hkeep : ∀ t, AddsUp log t → AddsUp (log ++ [.ended s]) t := fun t ht =>
    ht.append (by simp)
  have hsub : ∀ t ∈ r'.sequences, t ∈ r.sequences := fun t ht =>
    hperm.mem_iff.1 (List.mem_cons_of_mem _ (hsequences ▸ ht))
  refine h.of_step hdispatched (fun _ => nofun) (fun _ _ => nofun)
    (fun t ht => hkeep t (h.running t (hsub t ht))) fun t ht => ?_
  rcases List.mem_append.1 ht with hold | hnew
  · obtain ⟨htzero, hne, hcount⟩ := h.ended t hold
    exact ⟨htzero, fun u hu => hne u (hsub u hu), hkeep t hcount⟩
  · cases List.mem_singleton.1 hnew
    refine ⟨hzero, fun u hu => ho.id_ne_of_perm hperm u (hsequences ▸ hu), hkeep s ?_⟩
    exact h.running s (hperm.mem_iff.1 List.mem_cons_self)

theorem Counted.effect {r r' : RepairRun} {log more : List SequenceEvent} (h : Counted r log)
    (ho : r.Owned) (heffect : Effect r r' more) : Counted r' (log ++ more) := by
  have hquiet : r'.requester.dispatched = r.requester.dispatched → r'.sequences = r.sequences →
      Counted r' (log ++ []) := by
    intro hdispatched hsequences
    rw [List.append_nil]
    refine ⟨h.fresh, ?_, h.unique, ?_, ?_, ?_⟩
    · rw [hdispatched]
      exact h.id_le
    · rw [hdispatched]
      exact h.attempts_eq_zero
    · rw [hsequences]
      exact h.running
    · rw [hsequences]
      exact h.ended
  cases heffect with
  | quiet hsame hsequences => exact hquiet hsame.dispatched_eq hsequences
  | unsent flag outcome houtcome hraises hdispatched hsequences =>
    exact hquiet hdispatched hsequences
  | untracked s hclaim hfresh hslots hdispatched hhistory hsequences =>
    exact h.dispatch (congrArg Prod.fst hclaim) hfresh hdispatched hsequences
  | tracked flag s hclaim hfresh hraises hdispatched hsequences =>
    exact h.dispatch (congrArg Prod.fst hclaim) hfresh hdispatched hsequences
  | keyframe hslots hdispatched hhistory hsequences => exact hquiet hdispatched hsequences
  | reset hslots hdispatched hhistory hsequences => exact hquiet hdispatched hsequences
  | began s s' others hsame hperm hsequences hgoes hdue hwaiting hleft =>
    refine h.goesOn ho hsame hperm hsequences hgoes (.inl rfl) ?_
    rw [hleft]
    exact (Nat.zero_add _).symm
  | sent s s' others datagram hsame hperm hsequences hgoes hleft =>
    refine h.goesOn ho hsame hperm hsequences hgoes (.inr ⟨datagram, rfl⟩) ?_
    have hone : attempts s.id [.sent s datagram] = 1 := by simp [attempts]
    omega
  | answered s others hsame hperm hsequences hdue =>
    refine h.ends ho hsame.dispatched_eq hperm hsequences ?_
    simp only [RepeatSequence.isBurstDue, Bool.and_eq_true, beq_iff_eq] at hdue
    exact hdue.1
  | finished s others hslots hdispatched hhistory hperm hsequences hend =>
    refine h.ends ho hdispatched hperm hsequences ?_
    simp only [RepeatSequence.isExhausted, Bool.and_eq_true, beq_iff_eq] at hend
    exact hend.1

/-! ## Runs of a fresh requester -/

section After

variable (tokens) (codec : Codec) (port : UInt16) (timing : RepairTiming) (enabled : Bool)
  (origin : Instant)

theorem counted_after {actions : List RepairAction}
    (hfew : actions.countP (·.isRequest) < 2 ^ 63) :
    Counted (after tokens codec port timing enabled origin actions)
      ((after tokens codec port timing enabled origin []).log tokens actions) := by
  induction actions using List.reverseRecOn with
  | nil =>
    exact ⟨fun _ => nofun, fun _ => nofun, fun _ _ => nofun, fun _ _ => rfl, fun _ => nofun,
      fun _ => nofun⟩
  | append_singleton actions a ih =>
    have hbefore : actions.countP (·.isRequest) < 2 ^ 63 := by
      rw [List.countP_append] at hfew
      omega
    -- the log of the run is that of the actions before and of this one
    have ho := owned_after tokens codec port timing enabled origin hbefore
    have hstep := (ih hbefore).effect ho (effect_act tokens _ a)
    rw [after_append, log_append, log, log, List.append_nil]
    exact hstep

/-- In a run without keyframes and resets, a sequence that ends before its last burst has been cut
short by a later request that has given up. -/
theorem givenUp_of_ended {actions : List RepairAction}
    (hfew : actions.countP (·.isRequest) < 2 ^ 63)
    (hkeyframe : .keyframe ∉ (after tokens codec port timing enabled origin actions).history)
    (hreset : .reset ∉ (after tokens codec port timing enabled origin actions).history)
    {s : RepeatSequence}
    (hended : .ended s ∈ (after tokens codec port timing enabled origin []).log tokens actions)
    (hleft : s.isExhausted = false) :
    ∃ flag generation before id since, s.tracking = some (flag, generation) ∧
      (after tokens codec port timing enabled origin actions).history =
        before ++ .raised flag .dispatched id :: since ∧
      .raised flag .dispatched s.id ∈ before ∧ .finished id ∈ since := by
  obtain ⟨earlier, a, rest, rfl, hlog⟩ := exists_actLog_of_mem_log tokens hended
  rw [← after_append, List.nil_append] at hlog
  rw [after_append] at hkeyframe hreset ⊢
  have hbefore : earlier.countP (·.isRequest) < 2 ^ 63 := by
    rw [List.countP_append] at hfew
    omega
  have ho := owned_after tokens codec port timing enabled origin hbefore
  have htracked := tracked_after tokens codec port timing enabled origin hbefore
  generalize after tokens codec port timing enabled origin earlier = r at *
  obtain ⟨more, hextends⟩ := extends_actAll tokens r (a :: rest)
  rw [hextends.history_eq] at hkeyframe hreset ⊢
  have heffect := effect_act tokens r a
  generalize r.actLog tokens a = log at hlog heffect
  -- it has ended before a burst or after the last one
  cases heffect with
  | answered s₀ others hsame hperm hsequences hdue flag generation htracking hanswered =>
    cases List.mem_singleton.1 hlog
    have hc : (s.id, some (flag, generation)) ∈ r.requester.claims := by
      rw [← htracking]
      exact (claims_perm_of_ends hperm hsequences).mem_iff.1 List.mem_cons_self
    have hmade := htracked.made s.id flag generation hc
    have hnot : ¬ Awaited r.history flag := fun hawaited => by
      have hwaiting := (isAwaiting_iff ho htracked hc).2
        ⟨hawaited, fun h => hkeyframe (List.mem_append_left _ h.keyframe_mem)⟩
      rw [hanswered] at hwaiting
      cases hwaiting
    rw [awaited_iff_not_givenUp (fun h => hkeyframe (List.mem_append_left _ h))
      (fun h => hreset (List.mem_append_left _ h)) hmade, not_not] at hnot
    obtain ⟨id, since, hlatest, hfinished⟩ := hnot
    obtain ⟨before, hsplit⟩ := hlatest.split
    refine ⟨flag, generation, before, id, since ++ more, htracking, by simp [hsplit], ?_,
      List.mem_append_left _ hfinished⟩
    -- the request that has given up is not its own, and it is not an earlier one
    rw [hsplit] at hmade
    rcases List.mem_append.1 hmade with hearlier | hlater
    · exact hearlier
    · rcases List.mem_cons.1 hlater with hown | hsince
      · -- the sequence itself has not finished yet
        cases hown
        refine absurd ?_ (htracked.unfinished _ hc)
        rw [hsplit]
        exact List.mem_append_right _ (List.mem_cons_of_mem _ hfinished)
      · exact absurd hsince (hlatest.latest .dispatched s.id)
  | finished s₀ others hslots hdispatched hhistory hperm hsequences hend =>
    cases List.mem_singleton.1 hlog
    rw [hleft] at hend
    cases hend
  | _ => simp at hlog

/-- **How many attempts a sequence makes.** In every run in which no keyframe is found and nothing
is reset, a sequence that has ended has made all its attempts, unless a later request for the same
flag has started a sequence that has given up; then the bursts that were left to it are missing.
Indeed a sequence before a burst ends exactly if the latest request for its flag has given up. -/
theorem attempts_of_ended (actions : List RepairAction)
    (hfew : actions.countP (·.isRequest) < 2 ^ 63)
    (hkeyframe : .keyframe ∉ (after tokens codec port timing enabled origin actions).history)
    (hreset : .reset ∉ (after tokens codec port timing enabled origin actions).history) :
    let r := after tokens codec port timing enabled origin actions
    let log := (after tokens codec port timing enabled origin []).log tokens actions
    (∀ s s', .dispatched s ∈ log → .ended s' ∈ log → s'.id = s.id →
      attempts s.id log = s.burstsLeft * s.timing.datagramsPerBurst ∨
        ∃ flag generation before id since, s.tracking = some (flag, generation) ∧
          r.history = before ++ .raised flag .dispatched id :: since ∧
          .raised flag .dispatched s.id ∈ before ∧ .finished id ∈ since ∧
          attempts s.id log + s'.burstsLeft * s.timing.datagramsPerBurst =
            s.burstsLeft * s.timing.datagramsPerBurst) ∧
      ∀ index due t flag generation, r.requester.tasks[index]? = some t →
        t.sequence.isBurstDue = true → t.sequence.tracking = some (flag, generation) →
          (.ended t.sequence ∈ r.actLog tokens (.proceed index due) ↔ GivenUp r.history flag) := by
  intro r log
  have hcounted : Counted r log := counted_after tokens codec port timing enabled origin hfew
  have ho : r.Owned := owned_after tokens codec port timing enabled origin hfew
  have htracked : r.Tracked := tracked_after tokens codec port timing enabled origin hfew
  refine ⟨fun s s' hdispatched hended hid => ?_,
    fun index due t flag generation ht hdue htracking => ?_⟩
  · obtain ⟨hzero, -, s₀, hs₀, hgoes, hcount⟩ := hcounted.ended s' hended
    -- one dispatch for each number
    have hsame : s₀ = s := hcounted.unique s₀ s hs₀ hdispatched (hgoes.id_eq.symm.trans hid)
    subst hsame
    rw [RepeatSequence.attemptsLeft, RepeatSequence.attemptsLeft, hzero,
      hcounted.fresh _ hdispatched, hgoes.timing_eq, hid] at hcount
    rcases hend : s'.isExhausted with _ | _
    · obtain ⟨flag, generation, before, id, since, htracking, hsplit, hmade, hfinished⟩ :=
        givenUp_of_ended tokens codec port timing enabled origin hfew hkeyframe hreset hended hend
      rw [hgoes.tracking_eq] at htracking
      rw [hid] at hmade
      exact .inr ⟨flag, generation, before, id, since, htracking, hsplit, hmade, hfinished, hcount⟩
    · simp only [RepeatSequence.isExhausted, Bool.and_eq_true, beq_iff_eq] at hend
      rw [hend.2, Nat.zero_mul] at hcount
      exact .inl hcount
  · have hc : (t.sequence.id, some (flag, generation)) ∈ r.requester.claims := by
      rw [← htracking]
      exact claim_mem_of_getElem? ht
    have hmade := htracked.made _ _ _ hc
    have hunanswered : ¬ Answered r.history flag t.sequence.id := fun h =>
      hkeyframe h.keyframe_mem
    rw [ended_mem_actLog_iff ho htracked ht due htracking hdue, and_iff_left hunanswered,
      awaited_iff_not_givenUp hkeyframe hreset hmade, not_not]

end After

/-- A request of three bursts is overlapped by one of a single burst for the same flag. The later
one gives up as soon as each of them has sent a burst. -/
def overlappedByShorter : List RepairAction :=
  [.setSender default, .request .streamUp 3 false, .request .streamUp 1 false] ++
    List.replicate 8 (.proceed 0 none) ++ [.proceed 1 none, .proceed 0 none]

/-- The earlier sequence lacks the two bursts that were left to it. -/
theorem attempts_of_ended_overlappedByShorter :
    overlappedByShorter.countP (·.isRequest) < 2 ^ 63 ∧
      .keyframe ∉ (after Token.counting .h265 11223 {} true 0 overlappedByShorter).history ∧
      .reset ∉ (after Token.counting .h265 11223 {} true 0 overlappedByShorter).history ∧
      let log := (after Token.counting .h265 11223 {} true 0 []).log Token.counting
        overlappedByShorter
      ∃ s s', .dispatched s ∈ log ∧ .ended s' ∈ log ∧ s'.id = s.id ∧
        (attempts s.id log = s.burstsLeft * s.timing.datagramsPerBurst ∨
          attempts s.id log + s'.burstsLeft * s.timing.datagramsPerBurst =
            s.burstsLeft * s.timing.datagramsPerBurst) := by
  let s : RepeatSequence :=
    ⟨1, .streamUp, some (.stream, 1), ⟨default, 11223⟩, {}, 3, 0, default⟩
  have hkeyframe : RepairEvent.keyframe ∉
      (after Token.counting .h265 11223 {} true 0 overlappedByShorter).history := by decide +kernel
  have hreset : RepairEvent.reset ∉
      (after Token.counting .h265 11223 {} true 0 overlappedByShorter).history := by decide +kernel
  have hdispatched : SequenceEvent.dispatched s ∈
      (after Token.counting .h265 11223 {} true 0 []).log Token.counting overlappedByShorter := by
    decide +kernel
  have hended : SequenceEvent.ended { s with burstsLeft := 2 } ∈
      (after Token.counting .h265 11223 {} true 0 []).log Token.counting overlappedByShorter := by
    decide +kernel
  refine ⟨by decide, hkeyframe, hreset, s, { s with burstsLeft := 2 }, hdispatched, hended, rfl, ?_⟩
  have hattempts := (attempts_of_ended Token.counting .h265 11223 {} true 0 overlappedByShorter
    (by decide) hkeyframe hreset).1 s { s with burstsLeft := 2 } hdispatched hended rfl
  rcases hattempts with hall | ⟨flag, generation, before, id, since, -, -, -, -, hmissing⟩
  · exact .inl hall
  · exact .inr hmissing

/-- A sequence may end early although no keyframe has been found and nothing has been reset. -/
theorem attempts_ne_of_overlapped :
    .keyframe ∉ (after Token.counting .h265 11223 {} true 0 overlappedByShorter).history ∧
      .reset ∉ (after Token.counting .h265 11223 {} true 0 overlappedByShorter).history ∧
      let log := (after Token.counting .h265 11223 {} true 0 []).log Token.counting
        overlappedByShorter
      ∃ s s', .dispatched s ∈ log ∧ .ended s' ∈ log ∧ s'.id = s.id ∧
        attempts s.id log ≠ s.burstsLeft * s.timing.datagramsPerBurst := by
  refine ⟨by decide +kernel, by decide +kernel,
    ⟨1, .streamUp, some (.stream, 1), ⟨default, 11223⟩, {}, 3, 0, default⟩,
    ⟨1, .streamUp, some (.stream, 1), ⟨default, 11223⟩, {}, 2, 0, default⟩, ?_⟩
  decide +kernel

end RepairRun

end VideoReceiver
