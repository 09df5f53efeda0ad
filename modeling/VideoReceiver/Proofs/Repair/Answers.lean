import VideoReceiver.Proofs.Repair.Effects

/-!
# Requests that a keyframe has answered

A keyframe answers every request that has raised the flag before, and no later one. A sequence waits
for as long as its flag is awaited and its own request is unanswered. So a keyframe ends all earlier
sequences for good; a reset does not, since it only lowers the flag, and a later request raises it
again for them too.

## Main definitions

- `Answered`: a keyframe has answered the request that has dispatched a sequence
- `RepairRun.Tracked`: what ties the sequences under way to the history

## Main statements

- `RepairRun.isAwaiting_iff`: which sequences still wait
- `RepairRun.keyframe_final`: after a keyframe only later requests wait
- `RepairRun.begins_burst_after_reset_iff`: when a sequence begins a burst after a reset
-/

namespace VideoReceiver

/-! ## Histories -/

/-- A keyframe has answered the request that has dispatched the sequence with the given number: it
was found after the request, while the request's flag was awaited. -/
def Answered (history : List RepairEvent) (flag : PendingFlag) (id : Nat) : Prop :=
  ∃ before later, history = before ++ .keyframe :: later ∧
    .raised flag .dispatched id ∈ before ∧ Awaited before flag

section History

variable {history since : List RepairEvent} {flag : PendingFlag} {id : Nat} {e : RepairEvent}

theorem answered_append_iff :
    Answered (history ++ [e]) flag id ↔ Answered history flag id ∨
      e = .keyframe ∧ .raised flag .dispatched id ∈ history ∧ Awaited history flag := by
  constructor
  · rintro ⟨before, later, hsplit, hmade, hawaited⟩
    rcases List.eq_nil_or_concat later with rfl | ⟨later, e', rfl⟩
    · obtain ⟨rfl, hlast⟩ := List.append_inj' hsplit rfl
      exact .inr ⟨List.singleton_inj.1 hlast, hmade, hawaited⟩
    · rw [List.concat_eq_append, ← List.cons_append, ← List.append_assoc] at hsplit
      obtain ⟨rfl, -⟩ := List.append_inj' hsplit rfl
      exact .inl ⟨before, later, rfl, hmade, hawaited⟩
  · -- the answer stays an answer, or the new keyframe is one
    rintro (⟨before, later, rfl, hmade, hawaited⟩ | ⟨rfl, hmade, hawaited⟩)
    · exact ⟨before, later ++ [e], by simp, hmade, hawaited⟩
    · exact ⟨history, [], rfl, hmade, hawaited⟩

theorem answered_append_iff_of_ne (he : e ≠ .keyframe) :
    Answered (history ++ [e]) flag id ↔ Answered history flag id := by
  rw [answered_append_iff]
  exact or_iff_left fun h => he h.1

theorem Answered.keyframe_mem (h : Answered history flag id) : .keyframe ∈ history := by
  obtain ⟨before, later, rfl, -⟩ := h
  simp

theorem Answered.raised_mem (h : Answered history flag id) :
    .raised flag .dispatched id ∈ history := by
  obtain ⟨before, later, rfl, hmade, -⟩ := h
  exact List.mem_append_left _ hmade

/-- What was awaited before a reset does not matter after it. -/
theorem awaited_append_reset_iff :
    Awaited (history ++ .reset :: since) flag ↔ Awaited since flag := by
  constructor
  · rintro ⟨outcome, id, after, ⟨⟨before, hsplit⟩, hlatest⟩, hkeyframe, hreset, hfinished⟩
    refine ⟨outcome, id, after, ⟨?_, hlatest⟩, hkeyframe, hreset, hfinished⟩
    rcases List.append_eq_append_iff.1 hsplit with ⟨gap, -, hsince⟩ | ⟨gap, -, hafter⟩
    · rcases gap with _ | ⟨e, gap⟩
      · cases hsince
      · obtain ⟨-, rfl⟩ := List.cons.inj hsince
        exact ⟨gap, rfl⟩
    · -- a raise before the reset is followed by the reset
      rcases gap with _ | ⟨e, gap⟩
      · cases hafter
      · obtain ⟨-, rfl⟩ := List.cons.inj hafter
        exact absurd (by simp) hreset
  · rintro ⟨outcome, id, after, ⟨⟨before, rfl⟩, hlatest⟩, hrest⟩
    exact ⟨outcome, id, after, ⟨⟨history ++ .reset :: before, by simp⟩, hlatest⟩, hrest⟩

end History

/-! ## Runs -/

/-- The sequence that an event goes back to, or that it starts. -/
def RepairEvent.sequence? : RepairEvent → Option Nat
  | raised _ .dispatched id | finished id => some id
  | _ => none

/-- The sequences that a history names are among the first `n`. -/
def NumberedUpTo (n : Nat) (history : List RepairEvent) : Prop :=
  ∀ e ∈ history, ∀ id, e.sequence? = some id → id ≤ n

theorem NumberedUpTo.append {n n' : Nat} {history : List RepairEvent} {e : RepairEvent}
    (h : NumberedUpTo n history) (hn : n ≤ n') (he : ∀ id, e.sequence? = some id → id ≤ n') :
    NumberedUpTo n' (history ++ [e]) := by
  intro e' hmem id hid
  rcases List.mem_append.1 hmem with hold | hnew
  · exact Nat.le_trans (h e' hold id hid) hn
  · rw [List.mem_singleton.1 hnew] at hid
    exact he id hid

namespace RepairRun

variable {tokens : Nat → Token}

/-- What ties the sequences under way to the history. -/
structure Tracked (r : RepairRun) : Prop where
  /-- The raise that a sequence goes back to. -/
  made : ∀ id flag generation, (id, some (flag, generation)) ∈ r.requester.claims →
    .raised flag .dispatched id ∈ r.history
  answered_iff : ∀ id flag generation, (id, some (flag, generation)) ∈ r.requester.claims →
    (generation ≤ (r.slot flag).confirmed ↔ Answered r.history flag id)
  unfinished : ∀ c ∈ r.requester.claims, .finished c.1 ∉ r.history
  numbered : NumberedUpTo r.requester.dispatched r.history

/-- Nothing is added to the history, and no sequence that tracks a flag to those under way. -/
theorem Tracked.of_history_eq {r r' : RepairRun} (h : r.Tracked) (hhistory : r'.history = r.history)
    (hslots : ∀ flag, r'.slot flag = r.slot flag)
    (hdispatched : r.requester.dispatched ≤ r'.requester.dispatched)
    (hclaims : ∀ c ∈ r'.requester.claims,
      c ∈ r.requester.claims ∨ c = (r.requester.dispatched + 1, none)) : r'.Tracked where
  made id flag generation hc := by
    rw [hhistory]
    exact h.made id flag generation ((hclaims _ hc).resolve_right (by simp))
  answered_iff id flag generation hc := by
    rw [hhistory, hslots]
    exact h.answered_iff id flag generation ((hclaims _ hc).resolve_right (by simp))
  unfinished c hc := by
    rw [hhistory]
    rcases hclaims c hc with hold | rfl
    · exact h.unfinished c hold
    · intro hmem
      have := h.numbered _ hmem _ rfl
      omega
  numbered e hmem id hid := Nat.le_trans (h.numbered e (hhistory ▸ hmem) id hid) hdispatched

/-- An event that neither answers a request nor starts a sequence is added to the history. -/
theorem Tracked.append {r r' : RepairRun} (h : r.Tracked) {e : RepairEvent}
    (hhistory : r'.history = r.history ++ [e])
    (hconfirmed : ∀ flag, (r'.slot flag).confirmed = (r.slot flag).confirmed)
    (hdispatched : r'.requester.dispatched = r.requester.dispatched)
    (hclaims : ∀ c ∈ r'.requester.claims, c ∈ r.requester.claims) (hkeyframe : e ≠ .keyframe)
    (he : ∀ id, e.sequence? = some id → id ≤ r.requester.dispatched)
    (hfinished : ∀ c ∈ r'.requester.claims, e ≠ .finished c.1) : r'.Tracked where
  made id flag generation hc := by
    rw [hhistory]
    exact List.mem_append_left _ (h.made id flag generation (hclaims _ hc))
  answered_iff id flag generation hc := by
    rw [hhistory, hconfirmed, answered_append_iff_of_ne hkeyframe]
    exact h.answered_iff id flag generation (hclaims _ hc)
  unfinished c hc := by
    rw [hhistory]
    refine List.not_mem_append (h.unfinished c (hclaims c hc)) fun hmem => ?_
    exact hfinished c hc (List.mem_singleton.1 hmem).symm
  numbered := by
    rw [hhistory, hdispatched]
    exact h.numbered.append (Nat.le_refl _) he

/-- A keyframe answers the requests of all sequences under way whose flag is up. -/
theorem Tracked.keyframe {r r' : RepairRun} (h : r.Tracked) (ho : r.Owned)
    (hslots : ∀ flag, r'.slot flag = (r.slot flag).confirm.2)
    (hhistory : r'.history = r.history ++ [.keyframe])
    (hdispatched : r'.requester.dispatched = r.requester.dispatched)
    (hclaims : r'.requester.claims = r.requester.claims) : r'.Tracked where
  made id flag generation hc := by
    rw [hhistory]
    exact List.mem_append_left _ (h.made id flag generation (hclaims ▸ hc))
  answered_iff id flag generation hc := by
    rw [hclaims] at hc
    have hmade := h.made id flag generation hc
    have hold := h.answered_iff id flag generation hc
    have howned : FlagOwned flag (r.slot flag) r.requester.claims r.history := ho.flags flag
    rw [hhistory, answered_append_iff, hslots, ← hold, ← howned.raised_iff]
    rcases hr : (r.slot flag).raised with _ | _
    · simp [PendingSlot.confirm, hr]
    · -- the keyframe confirms the present generation, and none is above it
      have hle := (howned.tracked id generation hc).1
      simp only [PendingSlot.confirm, hr, if_true, hmade, and_self, or_true, iff_true]
      exact Nat.le_trans hle (Nat.le_max_right _ _)
  unfinished c hc := by
    rw [hhistory]
    refine List.not_mem_append (h.unfinished c (hclaims ▸ hc)) fun hmem => ?_
    cases List.mem_singleton.1 hmem
  numbered := by
    rw [hhistory, hdispatched]
    exact h.numbered.append (Nat.le_refl _) (by simp [RepairEvent.sequence?])

/-- A request that raises its flag and starts a sequence is not answered yet. -/
theorem Tracked.dispatch {r r' : RepairRun} (h : r.Tracked) (ho' : r'.Owned) {flag : PendingFlag}
    {generation : Nat} (hraises : Raises flag .dispatched r r')
    (hgeneration : generation = (r'.slot flag).generation)
    (hdispatched : r'.requester.dispatched = r.requester.dispatched + 1)
    (hclaims : ∀ c ∈ r'.requester.claims, c ∈ r.requester.claims ∨
      c = (r.requester.dispatched + 1, some (flag, generation))) : r'.Tracked where
  made id f g hc := by
    rw [hraises.history_eq]
    rcases hclaims _ hc with hold | hnew
    · exact List.mem_append_left _ (h.made id f g hold)
    · cases hnew
      rw [hdispatched]
      exact List.mem_append_right _ List.mem_cons_self
  answered_iff id f g hc := by
    have hne : RepairEvent.raised flag .dispatched r'.requester.dispatched ≠ .keyframe := by
      intro heq
      cases heq
    rw [hraises.history_eq, answered_append_iff_of_ne hne]
    rcases hclaims _ hc with hold | hnew
    · rw [hraises.confirmed_eq]
      exact h.answered_iff id f g hold
    · cases hnew
      have hup : (r'.slot flag).raised = true := by
        rw [hraises.slot_self]
        rfl
      have howned : FlagOwned flag (r'.slot flag) r'.requester.claims r'.history := ho'.flags flag
      have hlt := howned.confirmed_lt hup
      -- its number is new, so that no keyframe can have answered it
      refine ⟨fun hle => by omega, fun hanswered => ?_⟩
      have := h.numbered _ hanswered.raised_mem _ rfl
      omega
  unfinished c hc := by
    rw [hraises.history_eq]
    refine List.not_mem_append (fun hmem => ?_) (by simp)
    rcases hclaims c hc with hold | rfl
    · exact h.unfinished c hold hmem
    · have := h.numbered _ hmem _ rfl
      omega
  numbered := by
    rw [hraises.history_eq, hdispatched]
    refine h.numbered.append (Nat.le_succ _) fun id hid => ?_
    cases hid
    exact Nat.le_refl _

theorem Tracked.effect {r r' : RepairRun} {log : List SequenceEvent} (h : r.Tracked)
    (ho : r.Owned) (ho' : r'.Owned) (heffect : Effect r r' log) : r'.Tracked := by
  have hsame : SameFlags r r' → (∀ c ∈ r'.requester.claims, c ∈ r.requester.claims) →
      r'.Tracked := fun hsame hclaims =>
    h.of_history_eq hsame.history_eq hsame.slot_eq (Nat.le_of_eq hsame.dispatched_eq.symm)
      fun c hc => .inl (hclaims c hc)
  cases heffect with
  | quiet hflags hsequences =>
    rw [claims_of_sequences_eq hsequences] at hsame
    exact hsame hflags fun _ => id
  | unsent flag outcome houtcome hraises hdispatched hsequences =>
    refine h.append hraises.history_eq hraises.confirmed_eq hdispatched
      (by rw [claims_of_sequences_eq hsequences]; exact fun _ => id) nofun ?_ (fun _ _ => nofun)
    cases outcome with
    | dispatched => exact absurd rfl houtcome
    | _ => exact nofun
  | untracked s hclaim hfresh hslots hdispatched hhistory hsequences =>
    refine h.of_history_eq hhistory hslots (by omega) fun c hc => ?_
    rw [claims_of_sequences_append hsequences, hclaim] at hc
    exact (List.mem_append.1 hc).imp_right List.mem_singleton.1
  | tracked flag s hclaim hfresh hraises hdispatched hsequences =>
    have hgeneration : (r.slot flag).raise.1 = (r'.slot flag).generation := by
      rw [hraises.slot_self]
      rfl
    refine h.dispatch ho' hraises hgeneration hdispatched fun c hc => ?_
    rw [claims_of_sequences_append hsequences, hclaim] at hc
    exact (List.mem_append.1 hc).imp_right List.mem_singleton.1
  | keyframe hslots hdispatched hhistory hsequences =>
    exact h.keyframe ho hslots hhistory hdispatched (claims_of_sequences_eq hsequences)
  | reset hslots hdispatched hhistory hsequences =>
    refine h.append hhistory (fun flag => by rw [hslots]; rfl) hdispatched
      (by rw [claims_of_sequences_eq hsequences]; exact fun _ => id) nofun nofun (fun _ _ => nofun)
  | began s s' others hflags hperm hsequences hgoes =>
    exact hsame hflags fun c => (claims_perm_of_goesOn hperm hsequences hgoes).mem_iff.1
  | sent s s' others datagram hflags hperm hsequences hgoes =>
    exact hsame hflags fun c => (claims_perm_of_goesOn hperm hsequences hgoes).mem_iff.1
  | answered s others hflags hperm hsequences =>
    exact hsame hflags fun c hc =>
      (claims_perm_of_ends hperm hsequences).mem_iff.1 (List.mem_cons_of_mem _ hc)
  | finished s others hslots hdispatched hhistory hperm hsequences =>
    have hends := claims_perm_of_ends hperm hsequences
    have hown : s.claim ∈ r.requester.claims := hends.mem_iff.1 List.mem_cons_self
    refine h.append hhistory (fun flag => ?_) hdispatched
      (fun c hc => hends.mem_iff.1 (List.mem_cons_of_mem _ hc)) nofun (fun id hid => ?_)
      fun c hc heq => ?_
    · rcases hslots flag with ⟨generation, -, hslot⟩ | ⟨-, hslot⟩
      · rw [hslot, PendingSlot.confirmed_withdraw]
      · rw [hslot]
    · cases hid
      exact ho.id_le _ hown
    · -- no other sequence has the number of this one
      obtain ⟨hnew, -⟩ := ho.of_perm hends
      exact hnew (List.mem_map.2 ⟨c, hc, (RepairEvent.finished.inj heq).symm⟩)

/-- A sequence waits for as long as its flag is awaited and its request is unanswered. -/
theorem isAwaiting_iff {r : RepairRun} (ho : r.Owned) (h : r.Tracked) {id : Nat}
    {flag : PendingFlag} {generation : Nat}
    (hc : (id, some (flag, generation)) ∈ r.requester.claims) :
    (r.slot flag).isAwaiting generation = true ↔
      Awaited r.history flag ∧ ¬ Answered r.history flag id := by
  have howned : FlagOwned flag (r.slot flag) r.requester.claims r.history := ho.flags flag
  rw [← howned.raised_iff, ← h.answered_iff id flag generation hc, PendingSlot.isAwaiting,
    Bool.and_eq_true, decide_eq_true_eq, Nat.not_le]

theorem claim_mem_of_getElem? {r : RepairRun} {index : Nat} {t : RepeatTask}
    (ht : r.requester.tasks[index]? = some t) : t.sequence.claim ∈ r.requester.claims :=
  List.mem_map.2 ⟨t, List.mem_of_getElem? ht, rfl⟩

theorem began_mem_actLog_iff {r : RepairRun} (ho : r.Owned) (h : r.Tracked) {index : Nat}
    {t : RepeatTask} (ht : r.requester.tasks[index]? = some t) (due : Option Instant)
    {flag : PendingFlag} {generation : Nat}
    (htracking : t.sequence.tracking = some (flag, generation)) :
    .began t.sequence ∈ r.actLog tokens (.proceed index due) ↔ t.sequence.isBurstDue = true ∧
      Awaited r.history flag ∧ ¬ Answered r.history flag t.sequence.id := by
  have hc : (t.sequence.id, some (flag, generation)) ∈ r.requester.claims := by
    rw [← htracking]
    exact claim_mem_of_getElem? ht
  simp only [actLog, ht]
  rw [RepeatSequence.began_mem_stepLog_iff, RepeatSequence.isAnswered_of_tracking htracking,
    Bool.not_eq_false', ← isAwaiting_iff ho h hc, slot]

theorem ended_mem_actLog_iff {r : RepairRun} (ho : r.Owned) (h : r.Tracked) {index : Nat}
    {t : RepeatTask} (ht : r.requester.tasks[index]? = some t) (due : Option Instant)
    {flag : PendingFlag} {generation : Nat}
    (htracking : t.sequence.tracking = some (flag, generation))
    (hdue : t.sequence.isBurstDue = true) :
    .ended t.sequence ∈ r.actLog tokens (.proceed index due) ↔
      ¬ (Awaited r.history flag ∧ ¬ Answered r.history flag t.sequence.id) := by
  have hc : (t.sequence.id, some (flag, generation)) ∈ r.requester.claims := by
    rw [← htracking]
    exact claim_mem_of_getElem? ht
  simp only [actLog, ht]
  rw [RepeatSequence.ended_mem_stepLog_iff _ _ _ hdue,
    RepeatSequence.isAnswered_of_tracking htracking, ← isAwaiting_iff ho h hc, slot,
    Bool.not_eq_true', Bool.not_eq_true]

/-! ## What has been confirmed -/

/-- A sequence begins a burst only while its request waits. -/
theorem waiting_of_began {r : RepairRun} {a : RepairAction} {s : RepeatSequence}
    (h : .began s ∈ r.actLog tokens a) {flag : PendingFlag} {generation : Nat}
    (htracking : s.tracking = some (flag, generation)) :
    (r.slot flag).isAwaiting generation = true := by
  have heffect := effect_act tokens r a
  generalize r.actLog tokens a = log at h heffect
  cases heffect with
  | began s₀ s' others hflags hperm hsequences hgoes hdue hwaiting =>
    simp only [List.mem_singleton, SequenceEvent.began.injEq] at h
    subst h
    exact hwaiting flag generation htracking
  | _ => simp at h

/-- A sequence that a request has started has the latest generation of its flag. -/
theorem generation_of_dispatched {r : RepairRun} {a : RepairAction} {s : RepeatSequence}
    (h : .dispatched s ∈ r.actLog tokens a) {flag : PendingFlag} {generation : Nat}
    (htracking : s.tracking = some (flag, generation)) :
    generation = ((r.act tokens a).slot flag).generation ∧
      ∃ id, (r.act tokens a).history = r.history ++ [.raised flag .dispatched id] := by
  have heffect := effect_act tokens r a
  generalize r.actLog tokens a = log at h heffect
  generalize r.act tokens a = r' at heffect ⊢
  cases heffect with
  | untracked s₀ hclaim =>
    simp only [List.mem_singleton, SequenceEvent.dispatched.injEq] at h
    subst h
    simp [RepeatSequence.claim, htracking] at hclaim
  | tracked f s₀ hclaim hfresh hraises =>
    simp only [List.mem_singleton, SequenceEvent.dispatched.injEq] at h
    subst h
    simp only [RepeatSequence.claim, htracking, Prod.mk.injEq, Option.some.injEq] at hclaim
    obtain ⟨-, rfl, rfl⟩ := hclaim
    exact ⟨by rw [hraises.slot_self]; rfl, _, hraises.history_eq⟩
  | _ => simp at h

/-- What becomes of a run's history and of the confirmed generations. -/
structure Extends (r r' : RepairRun) (since : List RepairEvent) : Prop where
  history_eq : r'.history = r.history ++ since
  confirmed_le : ∀ flag, (r.slot flag).confirmed ≤ (r'.slot flag).confirmed
  /-- Only a keyframe confirms. -/
  confirmed_eq : .keyframe ∉ since → ∀ flag, (r'.slot flag).confirmed = (r.slot flag).confirmed

theorem Extends.of_confirmed_eq {r r' : RepairRun} {since : List RepairEvent}
    (hhistory : r'.history = r.history ++ since)
    (hconfirmed : ∀ flag, (r'.slot flag).confirmed = (r.slot flag).confirmed) :
    Extends r r' since :=
  ⟨hhistory, fun flag => Nat.le_of_eq (hconfirmed flag).symm, fun _ => hconfirmed⟩

theorem Extends.trans {r₁ r₂ r₃ : RepairRun} {since later : List RepairEvent}
    (h₁ : Extends r₁ r₂ since) (h₂ : Extends r₂ r₃ later) : Extends r₁ r₃ (since ++ later) where
  history_eq := by rw [h₂.history_eq, h₁.history_eq, List.append_assoc]
  confirmed_le flag := Nat.le_trans (h₁.confirmed_le flag) (h₂.confirmed_le flag)
  confirmed_eq hno flag := by
    obtain ⟨hsince, hlater⟩ := not_or.1 fun h => hno (List.mem_append.2 h)
    rw [h₂.confirmed_eq hlater, h₁.confirmed_eq hsince]

/-- An action adds to the history, and it never takes a confirmation back. -/
theorem Effect.extends {r r' : RepairRun} {log : List SequenceEvent} (h : Effect r r' log) :
    ∃ since, Extends r r' since := by
  have hsame : SameFlags r r' → ∃ since, Extends r r' since := fun hflags =>
    ⟨[], .of_confirmed_eq (by rw [hflags.history_eq, List.append_nil])
      fun flag => by rw [hflags.slot_eq]⟩
  cases h with
  | quiet hflags => exact hsame hflags
  | unsent flag outcome houtcome hraises =>
    exact ⟨_, .of_confirmed_eq hraises.history_eq hraises.confirmed_eq⟩
  | untracked s hclaim hfresh hslots hdispatched hhistory =>
    exact ⟨[], .of_confirmed_eq (by rw [hhistory, List.append_nil]) fun flag => by rw [hslots]⟩
  | tracked flag s hclaim hfresh hraises =>
    exact ⟨_, .of_confirmed_eq hraises.history_eq hraises.confirmed_eq⟩
  | keyframe hslots hdispatched hhistory =>
    refine ⟨_, hhistory, fun flag => ?_, fun hno => absurd List.mem_cons_self hno⟩
    rw [hslots]
    exact PendingSlot.confirmed_le_confirm _
  | reset hslots hdispatched hhistory =>
    exact ⟨_, .of_confirmed_eq hhistory fun flag => by rw [hslots]; rfl⟩
  | began s s' others hflags => exact hsame hflags
  | sent s s' others datagram hflags => exact hsame hflags
  | answered s others hflags => exact hsame hflags
  | finished s others hslots hdispatched hhistory =>
    refine ⟨_, .of_confirmed_eq hhistory fun flag => ?_⟩
    rcases hslots flag with ⟨generation, -, hslot⟩ | ⟨-, hslot⟩
    · rw [hslot, PendingSlot.confirmed_withdraw]
    · rw [hslot]

theorem extends_actAll (tokens : Nat → Token) (r : RepairRun) (actions : List RepairAction) :
    ∃ since, Extends r (r.actAll tokens actions) since := by
  induction actions generalizing r with
  | nil => exact ⟨[], .of_confirmed_eq (List.append_nil _).symm fun _ => rfl⟩
  | cons a actions ih =>
    obtain ⟨since, hact⟩ := (effect_act tokens r a).extends
    obtain ⟨later, hrest⟩ := ih (r.act tokens a)
    exact ⟨since ++ later, hact.trans hrest⟩

/-- A keyframe that is found confirms both flags. -/
theorem observe_found (tokens : Nat → Token) {r : RepairRun} {data : Bytes}
    (hfound : (r.requester.observe data).1.isSome) :
    (∀ flag, (r.act tokens (.observe data)).slot flag = (r.slot flag).confirm.2) ∧
      (r.act tokens (.observe data)).history = r.history ++ [.keyframe] := by
  have hspec := r.requester.observe_spec data
  simp only [act]
  generalize r.requester.observe data = answer at hfound hspec ⊢
  obtain ⟨_ | nalType, requester⟩ := answer
  · cases hfound
  · obtain ⟨hnone, -⟩ | ⟨-, hslots, -⟩ := hspec
    · cases hnone
    · exact ⟨hslots, rfl⟩

/-! ## Runs of a fresh requester -/

section After

variable (tokens) (codec : Codec) (port : UInt16) (timing : RepairTiming) (enabled : Bool)
  (origin : Instant)

theorem after_append (actions later : List RepairAction) :
    after tokens codec port timing enabled origin (actions ++ later) =
      (after tokens codec port timing enabled origin actions).actAll tokens later :=
  actAll_append tokens _ actions later

theorem tracked_after {actions : List RepairAction}
    (hfew : actions.countP (·.isRequest) < 2 ^ 63) :
    (after tokens codec port timing enabled origin actions).Tracked := by
  induction actions using List.reverseRecOn with
  | nil =>
    exact ⟨fun _ _ _ => nofun, fun _ _ _ => nofun, fun _ => nofun, fun _ => nofun⟩
  | append_singleton actions a ih =>
    have hbefore : actions.countP (·.isRequest) < 2 ^ 63 := by
      rw [List.countP_append] at hfew
      omega
    have ho' := owned_after tokens codec port timing enabled origin hfew
    rw [after_append] at ho' ⊢
    exact (ih hbefore).effect (owned_after tokens codec port timing enabled origin hbefore) ho'
      (effect_act tokens _ a)

/-- **A reset does not end earlier sequences.** Once the health state has been reset, a sequence
that tracks a flag begins no burst until a request raises the flag again. From then on it begins
every burst that is due as long as that raise is awaited, even if it was dispatched before the
reset, unless a keyframe has answered its own request. -/
theorem begins_burst_after_reset_iff (actions later : List RepairAction)
    (hfew : (actions ++ .reset :: later).countP (·.isRequest) < 2 ^ 63) :
    let reset := after tokens codec port timing enabled origin (actions ++ [.reset])
    let r := reset.actAll tokens later
    ∃ since, r.history = reset.history ++ since ∧
      ∀ index due t flag generation, r.requester.tasks[index]? = some t →
        t.sequence.tracking = some (flag, generation) →
          (.began t.sequence ∈ r.actLog tokens (.proceed index due) ↔
            t.sequence.isBurstDue = true ∧ Awaited since flag ∧
              ¬ Answered r.history flag t.sequence.id) := by
  intro reset r
  obtain ⟨since, hextends⟩ := extends_actAll tokens reset later
  refine ⟨since, hextends.history_eq, fun index due t flag generation ht htracking => ?_⟩
  have hrun : r =
      after tokens codec port timing enabled origin ((actions ++ [.reset]) ++ later) := by
    rw [after_append]
  rw [List.append_cons] at hfew
  have ho : r.Owned := hrun ▸ owned_after tokens codec port timing enabled origin hfew
  have htracked : r.Tracked := hrun ▸ tracked_after tokens codec port timing enabled origin hfew
  have hawaited : Awaited r.history flag ↔ Awaited since flag := by
    have hreset : reset.history =
        (after tokens codec port timing enabled origin actions).history ++ [.reset] := by
      simp only [reset, after_append]
      rfl
    rw [hextends.history_eq, hreset, List.append_assoc]
    exact awaited_append_reset_iff
  rw [began_mem_actLog_iff ho htracked ht due htracking, hawaited]

/-- A sender is asked for a keyframe in two bursts. -/
def askFirst : List RepairAction :=
  [.setSender ⟨.v4 10 0 0 1, 5600⟩, .request .streamUp 2 false]

/-- Another sender is asked for a keyframe. -/
def askSecond : List RepairAction :=
  [.setSender ⟨.v4 10 0 0 2, 5600⟩, .request .streamUp 1 false]

/-- The sequence for the first sender before it has begun a burst. -/
def firstSequence : RepeatSequence :=
  ⟨1, .streamUp, some (.stream, 1), ⟨.v4 10 0 0 1, 11223⟩, {}, 2, 0, default⟩

/-- The second sender's request raises the flag again, and the first sender's sequence goes on. -/
theorem begins_burst_for_first_sender :
    (askFirst ++ .reset :: askSecond).countP (·.isRequest) < 2 ^ 63 ∧
      ∃ since, ((after Token.counting .h265 11223 {} true 0 (askFirst ++ [.reset])).actAll
          Token.counting askSecond).requester.tasks[0]? = some ⟨firstSequence, none⟩ ∧
        firstSequence.tracking = some (.stream, 1) ∧ Awaited since .stream := by
  obtain ⟨since, -, hbegins⟩ := begins_burst_after_reset_iff Token.counting .h265 11223 {} true 0
    askFirst askSecond (by decide)
  refine ⟨by decide, since, by decide +kernel, rfl, ?_⟩
  have hbegan := hbegins 0 none ⟨firstSequence, none⟩ .stream 1 (by decide +kernel) rfl
  exact (hbegan.1 (by decide +kernel)).2.1

/-- A reset does not stop a sequence whose flag a request for another sender raises again. -/
theorem begins_burst_after_reset :
    firstSequence.tracking = some (.stream, 1) ∧
      .dispatched firstSequence ∈
        (after Token.counting .h265 11223 {} true 0 []).log Token.counting askFirst ∧
      .began firstSequence ∈
        (after Token.counting .h265 11223 {} true 0 (askFirst ++ [.reset])).log Token.counting
          (askSecond ++ [.proceed 0 none]) :=
  ⟨rfl, by decide +kernel, by decide +kernel⟩

/-- **A keyframe is final.** Once a keyframe has been found while a flag was up, no sequence of a
request made before begins another burst, whatever happens later; and every later request has a
higher generation and waits for as long as its flag is up and no other keyframe is found. -/
theorem keyframe_final (actions later : List RepairAction) (data : Bytes) (flag : PendingFlag)
    (hfew : (actions ++ .observe data :: later).countP (·.isRequest) < 2 ^ 63)
    (hup : (after tokens codec port timing enabled origin actions).requester.health.isPending flag =
      true)
    (hfound : ((after tokens codec port timing enabled origin actions).requester.observe
      data).1.isSome) :
    let r := after tokens codec port timing enabled origin actions
    let found := r.act tokens (.observe data)
    let r' := found.actAll tokens later
    let confirmed := r.requester.health.pendingGeneration flag
    (∀ s generation, .began s ∈ found.log tokens later →
        s.tracking = some (flag, generation) → confirmed < generation) ∧
      (∀ s generation, .dispatched s ∈ found.log tokens later →
        s.tracking = some (flag, generation) → confirmed < generation) ∧
      ∃ since, r'.history = r.history ++ .keyframe :: since ∧
        (∀ outcome id, .raised flag outcome id ∈ since →
          confirmed < r'.requester.health.pendingGeneration flag) ∧
        (.keyframe ∉ since → ∀ generation, confirmed < generation →
          r'.requester.health.isAwaiting flag generation =
            r'.requester.health.isPending flag) := by
  intro r found r' confirmed
  have hrun : ∀ l, found.actAll tokens l =
      after tokens codec port timing enabled origin (actions ++ .observe data :: l) := by
    intro l
    rw [after_append]
    rfl
  -- the invariant holds from the keyframe on, and before it
  have hprefix : ∀ l rest, later = l ++ rest → (found.actAll tokens l).Owned := by
    rintro l rest rfl
    rw [hrun]
    refine owned_after tokens codec port timing enabled origin (Nat.lt_of_le_of_lt ?_ hfew)
    simp only [List.countP_append, List.countP_cons]
    omega
  have ho : r.Owned := by
    refine owned_after tokens codec port timing enabled origin (Nat.lt_of_le_of_lt ?_ hfew)
    rw [List.countP_append]
    exact Nat.le_add_right _ _
  have howned : FlagOwned flag (r.slot flag) r.requester.claims r.history := ho.flags flag
  obtain ⟨hslots, hhistory⟩ := observe_found tokens hfound
  have hconfirmed : (found.slot flag).confirmed = confirmed := by
    have hraised : (r.slot flag).raised = true := hup
    rw [hslots, PendingSlot.confirm, if_pos hraised]
    exact Nat.max_eq_right howned.confirmed_le
  have hraises : raises flag found.history = confirmed := by
    rw [hhistory, raises_append_of_ne (e := .keyframe) flag _ (by simp)]
    exact howned.generation_eq.symm
  refine ⟨fun s generation hmem htracking => ?_, fun s generation hmem htracking => ?_, ?_⟩
  · obtain ⟨before, a, rest, rfl, hbegan⟩ := exists_actLog_of_mem_log tokens hmem
    obtain ⟨since, hextends⟩ := extends_actAll tokens found before
    -- what waits is above what has been confirmed, and that never gets lower
    have hwaiting := waiting_of_began hbegan htracking
    rw [PendingSlot.isAwaiting, Bool.and_eq_true, decide_eq_true_eq] at hwaiting
    have hle := hextends.confirmed_le flag
    omega
  · obtain ⟨before, a, rest, rfl, hdispatched⟩ := exists_actLog_of_mem_log tokens hmem
    obtain ⟨since, hextends⟩ := extends_actAll tokens found before
    obtain ⟨rfl, id, hraised⟩ := generation_of_dispatched hdispatched htracking
    have hafter : ((found.actAll tokens before).act tokens a).Owned := by
      have hone := hprefix (before ++ [a]) rest (List.append_cons before a rest)
      rwa [actAll_append] at hone
    -- generations count the raises, and this one came after the keyframe
    have hgeneration := (hafter.flags flag).generation_eq
    rw [hraised, hextends.history_eq, raises, List.countP_append, List.countP_append] at hgeneration
    rw [raises] at hraises
    simp only [slot, hgeneration, List.countP_singleton, beq_self_eq_true, if_true]
    omega
  · obtain ⟨since, hextends⟩ := extends_actAll tokens found later
    have ho' : r'.Owned := hprefix later [] (List.append_nil later).symm
    refine ⟨since, ?_, fun outcome id hmem => ?_, fun hno generation hlt => ?_⟩
    · rw [hextends.history_eq, hhistory, List.append_assoc]
      rfl
    · have hgeneration := (ho'.flags flag).generation_eq
      have hone : 0 < raises flag since := List.countP_pos_iff.2 ⟨_, hmem, by simp⟩
      rw [hextends.history_eq, raises, List.countP_append] at hgeneration
      rw [raises] at hraises hone
      rw [HealthState.pendingGeneration, hgeneration]
      omega
    · have hsame := hextends.confirmed_eq hno flag
      rw [hconfirmed] at hsame
      have hlow : (r'.requester.health.pendingSlot flag).confirmed < generation := by
        rw [← hsame] at hlt
        exact hlt
      simp [HealthState.isAwaiting, HealthState.isPending, PendingSlot.isAwaiting, hlow]

end After

/-- The keyframe has ended the first of two sequences, and the second one begins its burst. -/
theorem keyframe_final_overlapping :
    ([RepairAction.setSender default, .request .streamUp 2 false] ++
        RepairAction.observe [0, 0, 1, 0x26] :: [RepairAction.request .streamUp 1 false,
          .proceed 0 none, .proceed 0 none]).countP (·.isRequest) < 2 ^ 63 ∧
      (after Token.counting .h265 11223 {} true 0
        [.setSender default, .request .streamUp 2 false]).requester.health.isPending .stream =
          true ∧
      ((after Token.counting .h265 11223 {} true 0
        [.setSender default, .request .streamUp 2 false]).requester.observe
          [0, 0, 1, 0x26]).1.isSome ∧
      ∀ s generation, .began s ∈ ((after Token.counting .h265 11223 {} true 0
          [.setSender default, .request .streamUp 2 false]).act Token.counting
            (.observe [0, 0, 1, 0x26])).log Token.counting
              [.request .streamUp 1 false, .proceed 0 none, .proceed 0 none] →
        s.tracking = some (.stream, generation) → 1 < generation :=
  ⟨by decide, by decide, by decide +kernel,
    (keyframe_final Token.counting .h265 11223 {} true 0
      [.setSender default, .request .streamUp 2 false]
      [.request .streamUp 1 false, .proceed 0 none, .proceed 0 none] [0, 0, 1, 0x26] .stream
      (by decide) (by decide) (by decide +kernel)).1⟩

end RepairRun

end VideoReceiver
