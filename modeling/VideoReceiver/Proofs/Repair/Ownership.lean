import VideoReceiver.Proofs.Repair.Steps
import Mathlib.Algebra.Group.Nat.Defs
import Mathlib.Data.List.Induction
import Mathlib.Data.List.Nodup
import Mathlib.Data.List.Perm.Basic

/-!
# Who owns a confirmation flag

A flag belongs to the request that has raised it last. It stays up until a keyframe or a reset
lowers it, or until that request's own sequence gives up; a sequence that belongs to an earlier
request cannot lower it any more, since its generation has passed.

## Main definitions

- `LatestRaise`: the latest raise of a flag in a history, and what has happened since
- `Awaited`: nothing has happened since that lowers the flag
- `FlagOwned`: what ties a flag to the sequences under way and to the history
- `RepairRun.Owned`: the invariant of a run

## Main statements

- `FlagOwned.raise`, `FlagOwned.lower`, `FlagOwned.finish`, `FlagOwned.drop`: what can happen
- `RepairRun.Owned.act`: every action keeps the invariant
- `RepairRun.isPending_iff_awaited`: what it says of the flags in any run
-/

namespace VideoReceiver

/-! ## Histories -/

/-- The latest raise of a flag in a history, and what has happened since. -/
structure LatestRaise (history : List RepairEvent) (flag : PendingFlag) (outcome : RequestOutcome)
    (id : Nat) (since : List RepairEvent) : Prop where
  split : ∃ before, history = before ++ .raised flag outcome id :: since
  latest : ∀ o i, RepairEvent.raised flag o i ∉ since

/-- A flag has been raised, and since then no keyframe has been found, nothing has been reset, and
the sequence of that request, if it has one, has not finished. -/
def Awaited (history : List RepairEvent) (flag : PendingFlag) : Prop :=
  ∃ outcome id since, LatestRaise history flag outcome id since ∧
    .keyframe ∉ since ∧ .reset ∉ since ∧ (outcome = .dispatched → .finished id ∉ since)

/-- How often a flag has been raised. -/
def raises (flag : PendingFlag) (history : List RepairEvent) : Nat :=
  history.countP fun
    | .raised f _ _ => f == flag
    | _ => false

section History

variable {history since : List RepairEvent} {flag : PendingFlag} {outcome : RequestOutcome}
  {id : Nat} {e : RepairEvent}

theorem latestRaise_append_raised (history : List RepairEvent) (flag : PendingFlag)
    (outcome : RequestOutcome) (id : Nat) :
    LatestRaise (history ++ [.raised flag outcome id]) flag outcome id [] :=
  ⟨⟨history, rfl⟩, nofun⟩

theorem LatestRaise.append (h : LatestRaise history flag outcome id since)
    (he : ∀ o i, e ≠ .raised flag o i) :
    LatestRaise (history ++ [e]) flag outcome id (since ++ [e]) := by
  obtain ⟨⟨before, rfl⟩, hlatest⟩ := h
  refine ⟨⟨before, by simp⟩, fun o i hmem => ?_⟩
  rcases List.mem_append.1 hmem with hold | hnew
  · exact hlatest o i hold
  · exact he o i (List.mem_singleton.1 hnew).symm

theorem LatestRaise.of_append (h : LatestRaise (history ++ [e]) flag outcome id since)
    (he : ∀ o i, e ≠ .raised flag o i) :
    ∃ since', since = since' ++ [e] ∧ LatestRaise history flag outcome id since' := by
  obtain ⟨⟨before, hsplit⟩, hlatest⟩ := h
  rcases List.eq_nil_or_concat since with rfl | ⟨since', e', rfl⟩
  · have hlast := (List.append_inj' hsplit rfl).2
    exact absurd (List.cons.inj hlast).1 (he outcome id)
  · rw [List.concat_eq_append] at hsplit hlatest ⊢
    rw [← List.cons_append, ← List.append_assoc] at hsplit
    obtain ⟨hhistory, hlast⟩ := List.append_inj' hsplit rfl
    cases hlast
    exact ⟨since', rfl, ⟨before, hhistory⟩,
      fun o i hmem => hlatest o i (List.mem_append_left _ hmem)⟩

theorem LatestRaise.of_append_raised {o : RequestOutcome} {i : Nat}
    (h : LatestRaise (history ++ [.raised flag o i]) flag outcome id since) :
    o = outcome ∧ i = id ∧ since = [] := by
  obtain ⟨⟨before, hsplit⟩, hlatest⟩ := h
  rcases List.eq_nil_or_concat since with rfl | ⟨since', e', rfl⟩
  · have hlast := (List.append_inj' hsplit rfl).2
    cases hlast
    exact ⟨rfl, rfl, rfl⟩
  · rw [List.concat_eq_append] at hsplit hlatest
    rw [← List.cons_append, ← List.append_assoc] at hsplit
    obtain ⟨-, hlast⟩ := List.append_inj' hsplit rfl
    cases hlast
    exact (hlatest o i (List.mem_append_right _ List.mem_cons_self)).elim

theorem LatestRaise.unique {o : RequestOutcome} {i : Nat} {s : List RepairEvent}
    (h : LatestRaise history flag outcome id since) (h' : LatestRaise history flag o i s) :
    outcome = o ∧ id = i ∧ since = s := by
  induction history using List.reverseRecOn generalizing since s with
  | nil =>
    obtain ⟨before, hnil⟩ := h.split
    simp at hnil
  | append_singleton history e ih =>
    by_cases he : ∃ o i, e = .raised flag o i
    · obtain ⟨o, i, rfl⟩ := he
      obtain ⟨rfl, rfl, rfl⟩ := h.of_append_raised
      obtain ⟨rfl, rfl, rfl⟩ := h'.of_append_raised
      exact ⟨rfl, rfl, rfl⟩
    · have hne : ∀ o i, e ≠ .raised flag o i := fun o i h => he ⟨o, i, h⟩
      obtain ⟨since, rfl, hl⟩ := h.of_append hne
      obtain ⟨s, rfl, hl'⟩ := h'.of_append hne
      obtain ⟨rfl, rfl, rfl⟩ := ih hl hl'
      exact ⟨rfl, rfl, rfl⟩

theorem exists_latestRaise (h : .raised flag outcome id ∈ history) :
    ∃ outcome id since, LatestRaise history flag outcome id since := by
  induction history using List.reverseRecOn with
  | nil => cases h
  | append_singleton history e ih =>
    by_cases he : ∃ o i, e = .raised flag o i
    · obtain ⟨o, i, rfl⟩ := he
      exact ⟨o, i, [], latestRaise_append_raised history flag o i⟩
    · have hne : ∀ o i, e ≠ .raised flag o i := fun o i h => he ⟨o, i, h⟩
      rcases List.mem_append.1 h with hold | hnew
      · obtain ⟨o, i, since, hl⟩ := ih hold
        exact ⟨o, i, since ++ [e], hl.append hne⟩
      · exact absurd (List.mem_singleton.1 hnew).symm (hne outcome id)

theorem awaited_append_raised (history : List RepairEvent) (flag : PendingFlag)
    (outcome : RequestOutcome) (id : Nat) :
    Awaited (history ++ [.raised flag outcome id]) flag :=
  ⟨outcome, id, [], latestRaise_append_raised history flag outcome id, nofun, nofun, nofun⟩

/-- An event that does not raise a flag leaves it awaited unless the event lowers it. -/
theorem awaited_append_iff (he : ∀ o i, e ≠ .raised flag o i) :
    Awaited (history ++ [e]) flag ↔
      Awaited history flag ∧ e ≠ .keyframe ∧ e ≠ .reset ∧
        ∀ id since, LatestRaise history flag .dispatched id since → e ≠ .finished id := by
  constructor
  · rintro ⟨outcome, id, since, hlatest, hkeyframe, hreset, hfinished⟩
    obtain ⟨since, rfl, hl⟩ := hlatest.of_append he
    simp only [List.mem_append, List.mem_singleton, not_or] at hkeyframe hreset hfinished
    refine ⟨⟨outcome, id, since, hl, hkeyframe.1, hreset.1, fun ho => (hfinished ho).1⟩,
      Ne.symm hkeyframe.2, Ne.symm hreset.2, fun id' since' hl' => ?_⟩
    obtain ⟨rfl, rfl, -⟩ := hl.unique hl'
    exact Ne.symm (hfinished rfl).2
  · rintro ⟨⟨outcome, id, since, hl, hkeyframe, hreset, hfinished⟩, hk, hr, hf⟩
    refine ⟨outcome, id, since ++ [e], hl.append he, ?_, ?_, ?_⟩
    · simp [hkeyframe, Ne.symm hk]
    · simp [hreset, Ne.symm hr]
    · rintro rfl
      simp [hfinished rfl, Ne.symm (hf id since hl)]

end History

/-! ## One flag -/

namespace PendingSlot

/-- Generations do not wrap around for a long time. -/
theorem generation_raise (s : PendingSlot) (h : s.generation + 1 < 2 ^ 63) :
    s.raise.2.generation = s.generation + 1 := Nat.mod_eq_of_lt h

@[simp] theorem generation_withdraw (s : PendingSlot) (generation : Nat) :
    (s.withdraw generation).generation = s.generation := by
  unfold withdraw
  split <;> rfl

@[simp] theorem confirmed_withdraw (s : PendingSlot) (generation : Nat) :
    (s.withdraw generation).confirmed = s.confirmed := by
  unfold withdraw
  split <;> rfl

theorem raised_withdraw (s : PendingSlot) (generation : Nat) :
    (s.withdraw generation).raised = true ↔ s.raised = true ∧ s.generation ≠ generation := by
  by_cases hr : s.raised <;> by_cases hg : s.generation = generation <;> simp [withdraw, hr, hg]

theorem raised_confirm (s : PendingSlot) : s.confirm.2.raised = false := by
  by_cases hr : s.raised <;> simp [confirm, hr]

theorem generation_confirm (s : PendingSlot) : s.confirm.2.generation = s.generation := by
  by_cases hr : s.raised <;> simp [confirm, hr]

theorem confirmed_confirm_le {s : PendingSlot} (h : s.confirmed ≤ s.generation) :
    s.confirm.2.confirmed ≤ s.generation := by
  by_cases hr : s.raised <;> simp [confirm, hr, h]

theorem confirmed_le_confirm (s : PendingSlot) : s.confirmed ≤ s.confirm.2.confirmed := by
  unfold confirm
  split
  · exact Nat.le_max_left _ _
  · exact Nat.le_refl _

end PendingSlot

/-- What a sequence may lower, with its number. -/
abbrev Claim := Nat × Option (PendingFlag × Nat)

/-- Giving up lowers the flag of a sequence if its generation is the present one. -/
def GivesUp (flag : PendingFlag) (c : Claim) (slot slot' : PendingSlot) : Prop :=
  (∃ generation, c.2 = some (flag, generation) ∧ slot' = slot.withdraw generation) ∨
    (∀ generation, c.2 ≠ some (flag, generation)) ∧ slot' = slot

/-- What ties a flag to the sequences that may lower it and to the history. -/
structure FlagOwned (flag : PendingFlag) (slot : PendingSlot) (claims : List Claim)
    (history : List RepairEvent) : Prop where
  generation_eq : slot.generation = raises flag history
  confirmed_le : slot.confirmed ≤ slot.generation
  confirmed_lt : slot.raised = true → slot.confirmed < slot.generation
  raised_iff : slot.raised = true ↔ Awaited history flag
  /-- Only the latest request's own sequence has the present generation. -/
  tracked : ∀ id generation, (id, some (flag, generation)) ∈ claims →
    generation ≤ slot.generation ∧
      (generation = slot.generation → ∃ since, LatestRaise history flag .dispatched id since)
  /-- While the flag is up, that sequence has not ended. -/
  running : slot.raised = true → ∀ id since, LatestRaise history flag .dispatched id since →
    (id, some (flag, slot.generation)) ∈ claims

namespace FlagOwned

variable {flag : PendingFlag} {slot : PendingSlot} {claims : List Claim}
  {history : List RepairEvent}

theorem of_mem_iff {claims' : List Claim} (h : FlagOwned flag slot claims history)
    (hmem : ∀ c, c ∈ claims' ↔ c ∈ claims) : FlagOwned flag slot claims' history where
  generation_eq := h.generation_eq
  confirmed_le := h.confirmed_le
  confirmed_lt := h.confirmed_lt
  raised_iff := h.raised_iff
  tracked id generation hc := h.tracked id generation ((hmem _).1 hc)
  running hr id since hl := (hmem _).2 (h.running hr id since hl)

/-- A sequence that cannot lower the flag does not matter to it. -/
theorem dispatch (h : FlagOwned flag slot claims history) {c : Claim}
    (hc : ∀ generation, c.2 ≠ some (flag, generation)) :
    FlagOwned flag slot (claims ++ [c]) history where
  generation_eq := h.generation_eq
  confirmed_le := h.confirmed_le
  confirmed_lt := h.confirmed_lt
  raised_iff := h.raised_iff
  tracked id generation hmem := by
    rcases List.mem_append.1 hmem with hold | hnew
    · exact h.tracked id generation hold
    · rw [List.mem_singleton] at hnew
      subst hnew
      exact absurd rfl (hc generation)
  running hr id since hl := List.mem_append_left _ (h.running hr id since hl)

/-- A request raises the flag; if it dispatches a sequence, that is the one to lower it. -/
theorem raise (h : FlagOwned flag slot claims history) (hgen : slot.generation + 1 < 2 ^ 63)
    (outcome : RequestOutcome) (id : Nat) {claims' : List Claim}
    (hclaims : claims' = claims ∧ outcome ≠ .dispatched ∨
      claims' = claims ++ [(id, some (flag, slot.raise.1))] ∧ outcome = .dispatched) :
    FlagOwned flag slot.raise.2 claims' (history ++ [.raised flag outcome id]) := by
  have hgeneration : slot.raise.2.generation = slot.generation + 1 := slot.generation_raise hgen
  have hold : ∀ id' generation, (id', some (flag, generation)) ∈ claims →
      generation < slot.raise.2.generation := by
    intro id' generation hc
    have hle := (h.tracked id' generation hc).1
    omega
  refine
    { generation_eq := ?_
      confirmed_le := ?_
      confirmed_lt := fun _ => ?_
      raised_iff := ⟨fun _ => awaited_append_raised history flag outcome id, fun _ => rfl⟩
      tracked := fun id' generation hmem => ?_
      running := fun _ id' since hl => ?_ }
  · rw [hgeneration, h.generation_eq, raises, raises, List.countP_append]
    simp
  · rw [hgeneration]
    exact Nat.le_succ_of_le h.confirmed_le
  · rw [hgeneration]
    exact Nat.lt_succ_of_le h.confirmed_le
  · rcases hclaims with ⟨rfl, -⟩ | ⟨rfl, rfl⟩
    · have hlt := hold id' generation hmem
      exact ⟨Nat.le_of_lt hlt, fun heq => absurd heq (Nat.ne_of_lt hlt)⟩
    · rcases List.mem_append.1 hmem with hc | hc
      · have hlt := hold id' generation hc
        exact ⟨Nat.le_of_lt hlt, fun heq => absurd heq (Nat.ne_of_lt hlt)⟩
      · cases List.mem_singleton.1 hc
        exact ⟨Nat.le_refl _, fun _ => ⟨[], latestRaise_append_raised history flag _ _⟩⟩
  · obtain ⟨rfl, rfl, -⟩ := hl.of_append_raised
    rcases hclaims with ⟨-, hne⟩ | ⟨rfl, -⟩
    · exact absurd rfl hne
    · exact List.mem_append_right _ List.mem_cons_self

/-- An event that does not raise the flag lowers it exactly as the history says. -/
theorem append (h : FlagOwned flag slot claims history) {e : RepairEvent} {slot' : PendingSlot}
    (he : ∀ o i, e ≠ .raised flag o i) (hgen : slot'.generation = slot.generation)
    (hle : slot'.confirmed ≤ slot.generation)
    (hlt : slot'.raised = true → slot'.confirmed < slot.generation)
    (hraised : slot'.raised = true ↔ slot.raised = true ∧ e ≠ .keyframe ∧ e ≠ .reset ∧
      ∀ id since, LatestRaise history flag .dispatched id since → e ≠ .finished id) :
    FlagOwned flag slot' claims (history ++ [e]) := by
  refine ⟨?_, by rw [hgen]; exact hle, by rw [hgen]; exact hlt, ?_, fun id generation hc => ?_,
    fun hr id since hl => ?_⟩
  · rw [hgen, h.generation_eq, raises, raises, List.countP_append]
    cases e with
    | raised f o i =>
      have hne : (f == flag) = false := by
        rw [beq_eq_false_iff_ne]
        rintro rfl
        exact he o i rfl
      simp [hne]
    | _ => simp
  · rw [hraised, awaited_append_iff he, h.raised_iff]
  · rw [hgen]
    obtain ⟨hle, hown⟩ := h.tracked id generation hc
    refine ⟨hle, fun heq => ?_⟩
    obtain ⟨since, hl⟩ := hown heq
    exact ⟨since ++ [e], hl.append he⟩
  · obtain ⟨since', -, hl'⟩ := hl.of_append he
    rw [hgen]
    exact h.running (hraised.1 hr).1 id since' hl'

/-- A keyframe or a reset lowers the flag for every request. -/
theorem lower (h : FlagOwned flag slot claims history) {e : RepairEvent} {slot' : PendingSlot}
    (he : e = .keyframe ∨ e = .reset) (hgen : slot'.generation = slot.generation)
    (hle : slot'.confirmed ≤ slot.generation) (hdown : slot'.raised = false) :
    FlagOwned flag slot' claims (history ++ [e]) := by
  refine h.append ?_ hgen hle (fun hr => ?_) ⟨fun hr => ?_, fun hall => ?_⟩
  · rcases he with rfl | rfl <;> exact nofun
  · rw [hdown] at hr
    cases hr
  · rw [hdown] at hr
    cases hr
  · rcases he with rfl | rfl
    · exact absurd rfl hall.2.1
    · exact absurd rfl hall.2.2.1

/-- A request that raises the other flag leaves this one alone. -/
theorem skip (h : FlagOwned flag slot claims history) {f : PendingFlag} (hf : f ≠ flag)
    (o : RequestOutcome) (i : Nat) :
    FlagOwned flag slot claims (history ++ [.raised f o i]) := by
  refine h.append (fun o' i' heq => hf (RepairEvent.raised.inj heq).1) rfl h.confirmed_le
    h.confirmed_lt ⟨fun hr => ⟨hr, nofun, nofun, fun _ _ _ => nofun⟩, And.left⟩

/-- A sequence may end if it is not that of the latest request of a raised flag. -/
theorem remove {c : Claim} (h : FlagOwned flag slot (c :: claims) history)
    (hc : slot.raised = true → ∀ since, ¬ LatestRaise history flag .dispatched c.1 since) :
    FlagOwned flag slot claims history where
  generation_eq := h.generation_eq
  confirmed_le := h.confirmed_le
  confirmed_lt := h.confirmed_lt
  raised_iff := h.raised_iff
  tracked id generation hmem := h.tracked id generation (List.mem_cons_of_mem _ hmem)
  running hr id since hl := by
    rcases List.mem_cons.1 (h.running hr id since hl) with rfl | hmem
    · exact absurd hl (hc hr since)
    · exact hmem

/-- While the flag is up, the sequence of the latest request is still awaiting. -/
theorem isAwaiting_of_latest {c : Claim} (h : FlagOwned flag slot (c :: claims) history)
    (hid : c.1 ∉ claims.map Prod.fst) (hr : slot.raised = true) {since : List RepairEvent}
    (hl : LatestRaise history flag .dispatched c.1 since) :
    c.2 = some (flag, slot.generation) ∧ slot.isAwaiting slot.generation = true := by
  refine ⟨?_, by simp [PendingSlot.isAwaiting, hr, h.confirmed_lt hr]⟩
  rcases List.mem_cons.1 (h.running hr c.1 since hl) with heq | hmem
  · rw [← heq]
  · exact absurd (List.mem_map.2 ⟨_, hmem, rfl⟩) hid

/-- A sequence whose request has been answered ends without touching the flag. -/
theorem drop {c : Claim} (h : FlagOwned flag slot (c :: claims) history)
    (hid : c.1 ∉ claims.map Prod.fst)
    (hanswered : ∀ generation, c.2 = some (flag, generation) →
      slot.isAwaiting generation = false) : FlagOwned flag slot claims history := by
  refine h.remove fun hr since hl => ?_
  obtain ⟨hclaim, hawaiting⟩ := h.isAwaiting_of_latest hid hr hl
  rw [hanswered _ hclaim] at hawaiting
  cases hawaiting

/-- A sequence that gives up lowers the flag if it is that of the latest request. -/
theorem raised_giveUp_iff {c : Claim} (h : FlagOwned flag slot (c :: claims) history)
    (hid : c.1 ∉ claims.map Prod.fst) {slot' : PendingSlot} (hslot : GivesUp flag c slot slot') :
    slot'.raised = true ↔
      slot.raised = true ∧ ∀ since, ¬ LatestRaise history flag .dispatched c.1 since := by
  rcases hslot with ⟨generation, hc, rfl⟩ | ⟨hc, rfl⟩
  · rw [PendingSlot.raised_withdraw]
    refine and_congr_right fun hr => ⟨fun hne since hl => ?_, fun hlatest heq => ?_⟩
    · have hclaim := (h.isAwaiting_of_latest hid hr hl).1
      rw [hc] at hclaim
      cases hclaim
      exact hne rfl
    · have hmem : (c.1, some (flag, generation)) ∈ c :: claims := by
        rw [← hc]
        exact List.mem_cons_self
      obtain ⟨since, hl⟩ := (h.tracked c.1 generation hmem).2 heq.symm
      exact hlatest since hl
  · refine ⟨fun hr => ⟨hr, fun since hl => ?_⟩, And.left⟩
    exact hc _ (h.isAwaiting_of_latest hid hr hl).1

/-- A sequence that has finished its bursts gives up. -/
theorem finish {c : Claim} (h : FlagOwned flag slot (c :: claims) history)
    (hid : c.1 ∉ claims.map Prod.fst) {slot' : PendingSlot} (hslot : GivesUp flag c slot slot') :
    FlagOwned flag slot' claims (history ++ [.finished c.1]) := by
  have hraised := h.raised_giveUp_iff hid hslot
  have hframe : slot'.generation = slot.generation ∧ slot'.confirmed = slot.confirmed := by
    rcases hslot with ⟨generation, -, rfl⟩ | ⟨-, rfl⟩
    · exact ⟨slot.generation_withdraw generation, slot.confirmed_withdraw generation⟩
    · exact ⟨rfl, rfl⟩
  have hevent : FlagOwned flag slot' (c :: claims) (history ++ [.finished c.1]) := by
    refine h.append nofun hframe.1 ?_ (fun hr => ?_) ?_
    · rw [hframe.2]
      exact h.confirmed_le
    · rw [hframe.2]
      exact h.confirmed_lt (hraised.1 hr).1
    · rw [hraised]
      refine and_congr_right fun hr => ⟨fun hlatest => ?_, fun hall since hl => ?_⟩
      · refine ⟨nofun, nofun, fun id since hl heq => ?_⟩
        cases heq
        exact hlatest since hl
      · exact hall.2.2 c.1 since hl rfl
  refine hevent.remove fun hr since hl => ?_
  obtain ⟨since', -, hl'⟩ := hl.of_append nofun
  exact (hraised.1 hr).2 since' hl'

end FlagOwned

/-! ## Both flags -/

namespace HealthState

@[simp] theorem pendingSlot_setPendingSlot_self (s : HealthState) (flag : PendingFlag)
    (slot : PendingSlot) : (s.setPendingSlot flag slot).pendingSlot flag = slot := by
  cases flag <;> rfl

theorem pendingSlot_setPendingSlot_of_ne (s : HealthState) {f flag : PendingFlag} (hf : f ≠ flag)
    (slot : PendingSlot) : (s.setPendingSlot f slot).pendingSlot flag = s.pendingSlot flag := by
  cases f <;> cases flag <;> first | rfl | exact absurd rfl hf

/-- Raises the flag of a reason, if it has one. -/
def raiseFor (s : HealthState) (reason : RepairReason) :
    Option (PendingFlag × Nat) × HealthState :=
  match reason.tracking with
  | some flag => (some (flag, (s.raise flag).1), (s.raise flag).2)
  | none => (none, s)

end HealthState

namespace Requester

/-- The sequences under way, with what they may lower. -/
def claims (r : Requester) : List Claim := r.tasks.map (·.sequence.claim)

theorem request_of_disabled {r : Requester} (he : r.enabled = false) (reason : RepairReason)
    (repeats : Nat) (allowDeferred : Bool) :
    r.request reason repeats allowDeferred = (.disabled, r) := by
  simp [request, he]

theorem request_of_no_sender {r : Requester} (he : r.enabled = true) {reason : RepairReason}
    (hs : (r.health.raiseFor reason).2.sender = none) (repeats : Nat) (allowDeferred : Bool) :
    r.request reason repeats allowDeferred =
      if allowDeferred then
        (.deferred,
          { r with health := { (r.health.raiseFor reason).2 with recordDeferred := true } })
      else (.noSender, { r with health := (r.health.raiseFor reason).2 }) := by
  rcases ht : reason.tracking with _ | flag <;> simp only [HealthState.raiseFor, ht] at hs ⊢ <;>
    simp [request, he, ht, hs]

theorem request_of_sender {r : Requester} (he : r.enabled = true) {reason : RepairReason}
    {sender : Net.Endpoint} (hs : (r.health.raiseFor reason).2.sender = some sender)
    (repeats : Nat) (allowDeferred : Bool) :
    r.request reason repeats allowDeferred =
      (.dispatched,
        { r with
          health := (r.health.raiseFor reason).2
          dispatched := r.dispatched + 1
          tasks := r.tasks ++
            [⟨{ id := r.dispatched + 1
                reason
                tracking := (r.health.raiseFor reason).1
                target := sender.withPort r.port
                timing := r.timing
                burstsLeft := repeats }, none⟩] }) := by
  rcases ht : reason.tracking with _ | flag <;> simp only [HealthState.raiseFor, ht] at hs ⊢ <;>
    simp [request, he, ht, hs]

/-- A request first raises the flag of its reason, if there is one. Then it dispatches a sequence
with the new generation, or it is deferred or lost. -/
theorem request_spec {r : Requester} (he : r.enabled = true) (reason : RepairReason)
    (repeats : Nat) (allowDeferred : Bool) :
    (r.request reason repeats allowDeferred).2.health.pendingSlot =
        (r.health.raiseFor reason).2.pendingSlot ∧
      ((((r.request reason repeats allowDeferred).1 = .deferred ∨
            (r.request reason repeats allowDeferred).1 = .noSender) ∧
          (r.request reason repeats allowDeferred).2.claims = r.claims ∧
          (r.request reason repeats allowDeferred).2.dispatched = r.dispatched) ∨
        ((r.request reason repeats allowDeferred).1 = .dispatched ∧
          (r.request reason repeats allowDeferred).2.claims =
            r.claims ++ [(r.dispatched + 1, (r.health.raiseFor reason).1)] ∧
          (r.request reason repeats allowDeferred).2.dispatched = r.dispatched + 1)) := by
  rcases hs : (r.health.raiseFor reason).2.sender with _ | sender
  · rw [request_of_no_sender he hs]
    cases allowDeferred with
    | false => exact ⟨rfl, .inl ⟨.inr rfl, rfl, rfl⟩⟩
    | true => exact ⟨funext fun flag => by cases flag <;> rfl, .inl ⟨.inl rfl, rfl, rfl⟩⟩
  · rw [request_of_sender he hs]
    exact ⟨rfl, .inr ⟨rfl, by simp [claims, RepeatSequence.claim], rfl⟩⟩

/-- A keyframe is found, and confirms both flags, or nothing happens. -/
theorem observe_spec (r : Requester) (data : Bytes) :
    ((r.observe data).1 = none ∧ (r.observe data).2 = r) ∨
      ((r.observe data).1.isSome ∧
        (∀ flag, (r.observe data).2.health.pendingSlot flag =
          (r.health.pendingSlot flag).confirm.2) ∧
        (r.observe data).2.claims = r.claims ∧
        (r.observe data).2.dispatched = r.dispatched) := by
  unfold observe
  split
  · split
    · exact .inl ⟨rfl, rfl⟩
    · refine .inr ⟨rfl, fun flag => ?_, rfl, rfl⟩
      cases flag <;> dsimp only <;> split <;> rfl
  · exact .inl ⟨rfl, rfl⟩

end Requester

/-- The invariant of a run. -/
structure RepairRun.Owned (r : RepairRun) : Prop where
  ids : (r.requester.claims.map Prod.fst).Nodup
  id_le : ∀ c ∈ r.requester.claims, c.1 ≤ r.requester.dispatched
  flags : ∀ flag,
    FlagOwned flag (r.requester.health.pendingSlot flag) r.requester.claims r.history
  answered : ∀ flag i, .raised flag .disabled i ∉ r.history

namespace RepairRun

variable {tokens : Nat → Token}

/-- What does not touch flags or sequences does not matter. -/
theorem Owned.of_frame {r : RepairRun} (h : r.Owned) {requester : Requester}
    (hslots : requester.health.pendingSlot = r.requester.health.pendingSlot)
    (hclaims : requester.claims = r.requester.claims)
    (hdispatched : requester.dispatched = r.requester.dispatched) :
    Owned { r with requester } where
  ids := by
    rw [hclaims]
    exact h.ids
  id_le := by
    rw [hclaims, hdispatched]
    exact h.id_le
  flags flag := by
    rw [hslots, hclaims]
    exact h.flags flag
  answered := h.answered

/-- The number of a new sequence is new. -/
theorem Owned.dispatched {r : RepairRun} (h : r.Owned) (tracking : Option (PendingFlag × Nat)) :
    ((r.requester.claims ++ [(r.requester.dispatched + 1, tracking)]).map Prod.fst).Nodup ∧
      ∀ c ∈ r.requester.claims ++ [(r.requester.dispatched + 1, tracking)],
        c.1 ≤ r.requester.dispatched + 1 := by
  constructor
  · rw [List.map_append, List.map_singleton, ← List.concat_eq_append]
    refine h.ids.concat fun hmem => ?_
    obtain ⟨c, hc, hid⟩ := List.mem_map.1 hmem
    have := h.id_le c hc
    omega
  · refine List.forall_mem_append.2 ⟨fun c hc => ?_, List.forall_mem_singleton.2 (Nat.le_refl _)⟩
    exact Nat.le_succ_of_le (h.id_le c hc)

/-- A request that raises a flag, from the flag's point of view. -/
theorem Owned.raise_flag {r : RepairRun} (h : r.Owned)
    (hfew : ∀ flag, raises flag r.history + 1 < 2 ^ 63) (f : PendingFlag)
    (outcome : RequestOutcome) (id : Nat) {claims : List Claim}
    (hclaims : claims = r.requester.claims ∧ outcome ≠ .dispatched ∨
      claims = r.requester.claims ++ [(id, some (f, (r.requester.health.raise f).1))] ∧
        outcome = .dispatched) (flag : PendingFlag) :
    FlagOwned flag ((r.requester.health.raise f).2.pendingSlot flag) claims
      (r.history ++ [.raised f outcome id]) := by
  by_cases hf : f = flag
  · subst hf
    have hgen : (r.requester.health.pendingSlot f).generation + 1 < 2 ^ 63 := by
      rw [(h.flags f).generation_eq]
      exact hfew f
    rw [HealthState.raise, HealthState.pendingSlot_setPendingSlot_self]
    exact (h.flags f).raise hgen outcome id hclaims
  · have hslot : (r.requester.health.raise f).2.pendingSlot flag =
        r.requester.health.pendingSlot flag :=
      r.requester.health.pendingSlot_setPendingSlot_of_ne hf _
    rw [hslot]
    have hskip := (h.flags flag).skip hf outcome id
    rcases hclaims with ⟨rfl, -⟩ | ⟨rfl, -⟩
    · exact hskip
    · exact hskip.dispatch fun generation hc => hf (by cases hc; rfl)

theorem Owned.request {r : RepairRun} (h : r.Owned)
    (hfew : ∀ flag, raises flag r.history + 1 < 2 ^ 63) (reason : RepairReason) (repeats : Nat)
    (allowDeferred : Bool) :
    Owned ⟨(r.requester.request reason repeats allowDeferred).2,
      r.history ++ raiseEvents reason (r.requester.request reason repeats allowDeferred).1
        (r.requester.request reason repeats allowDeferred).2.dispatched⟩ := by
  rcases he : r.requester.enabled with _ | _
  · rw [Requester.request_of_disabled he]
    rcases ht : reason.tracking with _ | flag <;> simpa [raiseEvents, ht] using h
  obtain ⟨hslots, hanswer⟩ := Requester.request_spec he reason repeats allowDeferred
  generalize r.requester.request reason repeats allowDeferred = answer at hslots hanswer ⊢
  obtain ⟨outcome, requester⟩ := answer
  simp only at hslots hanswer ⊢
  have hids : (requester.claims.map Prod.fst).Nodup ∧
      ∀ c ∈ requester.claims, c.1 ≤ requester.dispatched := by
    rcases hanswer with ⟨-, hclaims, hdispatched⟩ | ⟨-, hclaims, hdispatched⟩
    · rw [hclaims, hdispatched]
      exact ⟨h.ids, h.id_le⟩
    · rw [hclaims, hdispatched]
      exact h.dispatched _
  have houtcome : outcome ≠ .disabled := by
    rcases hanswer with ⟨rfl | rfl, -⟩ | ⟨rfl, -⟩ <;> exact nofun
  rcases ht : reason.tracking with _ | f
  · have hevents : raiseEvents reason outcome requester.dispatched = [] := by
      simp [raiseEvents, ht]
    rw [hevents, List.append_nil]
    simp only [HealthState.raiseFor, ht] at hslots hanswer
    refine ⟨hids.1, hids.2, fun flag => ?_, h.answered⟩
    rw [hslots]
    rcases hanswer with ⟨-, hclaims, -⟩ | ⟨-, hclaims, -⟩
    · rw [hclaims]
      exact h.flags flag
    · rw [hclaims]
      exact (h.flags flag).dispatch fun generation hc => nomatch hc
  · have hevents : raiseEvents reason outcome requester.dispatched =
        [.raised f outcome requester.dispatched] := by
      cases outcome <;> simp [raiseEvents, ht] at houtcome ⊢
    rw [hevents]
    simp only [HealthState.raiseFor, ht] at hslots hanswer
    refine ⟨hids.1, hids.2, fun flag => ?_, fun flag i => ?_⟩
    · rw [hslots]
      refine h.raise_flag hfew f outcome requester.dispatched ?_ flag
      rcases hanswer with ⟨rfl | rfl, hclaims, -⟩ | ⟨houtcome, hclaims, hdispatched⟩
      · exact .inl ⟨hclaims, nofun⟩
      · exact .inl ⟨hclaims, nofun⟩
      · rw [hdispatched]
        exact .inr ⟨hclaims, houtcome⟩
    · refine List.not_mem_append (h.answered flag i) fun hnew => ?_
      cases List.mem_singleton.1 hnew
      exact houtcome rfl

/-- What answers every request lowers both flags. -/
theorem Owned.lower {r : RepairRun} (h : r.Owned) {requester : Requester} {e : RepairEvent}
    (he : e = .keyframe ∨ e = .reset)
    (hslots : ∀ flag,
      (requester.health.pendingSlot flag).generation =
          (r.requester.health.pendingSlot flag).generation ∧
        (requester.health.pendingSlot flag).confirmed ≤
          (r.requester.health.pendingSlot flag).generation ∧
        (requester.health.pendingSlot flag).raised = false)
    (hclaims : requester.claims = r.requester.claims)
    (hdispatched : requester.dispatched = r.requester.dispatched) :
    Owned ⟨requester, r.history ++ [e]⟩ where
  ids := by
    rw [hclaims]
    exact h.ids
  id_le := by
    rw [hclaims, hdispatched]
    exact h.id_le
  flags flag := by
    obtain ⟨hgen, hle, hdown⟩ := hslots flag
    rw [hclaims]
    exact (h.flags flag).lower he hgen hle hdown
  answered flag i := by
    apply List.not_mem_append (h.answered flag i)
    rcases he with rfl | rfl <;> simp

/-- The sequence that takes a step, and the others. -/
theorem claims_perm_of_getElem? {r : Requester} {index : Nat} {t : RepeatTask}
    (ht : r.tasks[index]? = some t) :
    (t.sequence.claim :: (r.tasks.eraseIdx index).map (·.sequence.claim)).Perm r.claims := by
  obtain ⟨hlt, rfl⟩ := List.getElem?_eq_some_iff.1 ht
  exact (List.getElem_cons_eraseIdx_perm hlt).map (·.sequence.claim)

theorem givesUp_giveUp (s : RepeatSequence) (health : HealthState) (flag : PendingFlag) :
    GivesUp flag s.claim (health.pendingSlot flag) ((s.giveUp health).pendingSlot flag) := by
  unfold GivesUp RepeatSequence.claim
  unfold RepeatSequence.giveUp
  rcases s.tracking with _ | ⟨f, generation⟩
  · exact .inr ⟨fun _ => nofun, rfl⟩
  · by_cases hf : f = flag
    · subst hf
      exact .inl ⟨generation, rfl, health.pendingSlot_setPendingSlot_self f _⟩
    · refine .inr ⟨fun g hg => hf ?_, health.pendingSlot_setPendingSlot_of_ne hf _⟩
      cases hg
      rfl

/-- What a step does: its sequence goes on behind the others, or ends because it has been answered,
or finishes and gives up. -/
theorem proceed_cases (tokens : Nat → Token) {r : RepairRun} {index : Nat} {t : RepeatTask}
    (ht : r.requester.tasks[index]? = some t) (due : Option Instant) :
    (r.proceed tokens index due).requester.dispatched = r.requester.dispatched ∧
      (((r.proceed tokens index due).requester.claims.Perm r.requester.claims ∧
          (r.proceed tokens index due).requester.health = r.requester.health ∧
          (r.proceed tokens index due).history = r.history) ∨
        ∃ others, (t.sequence.claim :: others).Perm r.requester.claims ∧
          (r.proceed tokens index due).requester.claims = others ∧
          (t.sequence.isAnswered r.requester.health = true ∧
              (r.proceed tokens index due).requester.health = r.requester.health ∧
              (r.proceed tokens index due).history = r.history ∨
            (r.proceed tokens index due).requester.health =
                t.sequence.giveUp r.requester.health ∧
              (r.proceed tokens index due).history =
                r.history ++ [.finished t.sequence.id])) := by
  have hperm := claims_perm_of_getElem? ht
  generalize hothers : (r.requester.tasks.eraseIdx index).map (·.sequence.claim) = others at hperm
  refine ⟨by simp only [proceed, ht], ?_⟩
  rcases t.sequence.step_cases tokens r.requester.drawn r.requester.health with
    ⟨hmore, hhealth, pause, s, hnext, hclaim⟩ | ⟨hmore, hanswered, hhealth, hnext⟩ |
      ⟨hend, hhealth, hnext⟩
  · refine .inl ⟨?_, ?_, ?_⟩
    · have hclaims : (r.proceed tokens index due).requester.claims = others ++ [s.claim] := by
        simp [proceed, ht, hnext, Requester.claims, ← hothers]
      rw [hclaims, hclaim]
      exact (List.perm_append_singleton _ _).trans hperm
    · simp [proceed, ht, hhealth]
    · simp [proceed, ht, hmore]
  · refine .inr ⟨others, hperm, ?_, .inl ⟨hanswered, ?_, ?_⟩⟩
    · simp [proceed, ht, hnext, Requester.claims, ← hothers]
    · simp [proceed, ht, hhealth]
    · simp [proceed, ht, hmore]
  · refine .inr ⟨others, hperm, ?_, .inr ⟨?_, ?_⟩⟩
    · simp [proceed, ht, hnext, Requester.claims, ← hothers]
    · simp [proceed, ht, hhealth]
    · simp [proceed, ht, hend]

/-- The invariant, told from the point of view of one sequence. -/
theorem Owned.of_perm {r : RepairRun} (h : r.Owned) {c : Claim} {others : List Claim}
    (hperm : (c :: others).Perm r.requester.claims) :
    c.1 ∉ others.map Prod.fst ∧ (others.map Prod.fst).Nodup ∧ ∀ flag,
      FlagOwned flag (r.requester.health.pendingSlot flag) (c :: others) r.history := by
  obtain ⟨hid, hrest⟩ := List.nodup_cons.1 ((hperm.map Prod.fst).nodup_iff.2 h.ids)
  exact ⟨hid, hrest, fun flag => (h.flags flag).of_mem_iff fun c => hperm.mem_iff⟩

theorem Owned.proceed {r : RepairRun} (h : r.Owned) (index : Nat) (due : Option Instant) :
    (r.proceed tokens index due).Owned := by
  rcases ht : r.requester.tasks[index]? with _ | t
  · simp only [RepairRun.proceed, ht]
    exact h
  have hcases := proceed_cases tokens ht due
  generalize r.proceed tokens index due = r' at hcases ⊢
  obtain ⟨hdispatched, ⟨hperm, hhealth, hhistory⟩ | ⟨others, hperm, hclaims, hend⟩⟩ := hcases
  · refine ⟨(hperm.map Prod.fst).nodup_iff.2 h.ids, fun c hc => ?_, fun flag => ?_, ?_⟩
    · rw [hdispatched]
      exact h.id_le c (hperm.mem_iff.1 hc)
    · rw [hhealth, hhistory]
      exact (h.flags flag).of_mem_iff fun c => hperm.mem_iff
    · rw [hhistory]
      exact h.answered
  -- the sequence ends, whatever the reason
  obtain ⟨hid, hrest, hflags⟩ := h.of_perm hperm
  refine ⟨by rw [hclaims]; exact hrest, fun c hc => ?_, fun flag => ?_, fun flag i => ?_⟩
  · rw [hdispatched]
    rw [hclaims] at hc
    exact h.id_le c (hperm.mem_iff.1 (List.mem_cons_of_mem _ hc))
  · rw [hclaims]
    rcases hend with ⟨hanswered, hhealth, hhistory⟩ | ⟨hhealth, hhistory⟩
    · rw [hhealth, hhistory]
      refine (hflags flag).drop hid fun generation hc => ?_
      have hown : t.sequence.tracking = some (flag, generation) := hc
      simpa [RepeatSequence.isAnswered, hown, HealthState.isAwaiting] using hanswered
    · rw [hhealth, hhistory]
      exact (hflags flag).finish hid (givesUp_giveUp t.sequence _ flag)
  · rcases hend with ⟨-, -, hhistory⟩ | ⟨-, hhistory⟩
    · rw [hhistory]
      exact h.answered flag i
    · rw [hhistory]
      exact List.not_mem_append (h.answered flag i) (by simp)

theorem history_proceed (tokens : Nat → Token) (r : RepairRun) (index : Nat)
    (due : Option Instant) :
    (r.proceed tokens index due).history = r.history ∨
      ∃ id, (r.proceed tokens index due).history = r.history ++ [.finished id] := by
  unfold RepairRun.proceed
  split
  · exact .inl rfl
  · next t ht =>
    by_cases he : t.sequence.isExhausted
    · exact .inr ⟨t.sequence.id, by simp [he]⟩
    · exact .inl (by simp [he])

theorem raises_append_raiseEvents_le (flag : PendingFlag) (history : List RepairEvent)
    (reason : RepairReason) (outcome : RequestOutcome) (dispatched : Nat) :
    raises flag (history ++ raiseEvents reason outcome dispatched) ≤ raises flag history + 1 := by
  have hlength : (raiseEvents reason outcome dispatched).length ≤ 1 := by
    unfold raiseEvents
    split <;> simp
  rw [raises, List.countP_append]
  exact Nat.add_le_add_left (Nat.le_trans List.countP_le_length hlength) _

theorem raises_append_of_ne (flag : PendingFlag) (history : List RepairEvent) {e : RepairEvent}
    (he : ∀ f o i, e ≠ .raised f o i) : raises flag (history ++ [e]) = raises flag history := by
  rw [raises, List.countP_append]
  cases e with
  | raised f o i => exact absurd rfl (he f o i)
  | _ => rfl

/-- Only a request raises a flag, and it does so at most once. -/
theorem raises_act_le (tokens : Nat → Token) (r : RepairRun) (a : RepairAction)
    (flag : PendingFlag) :
    raises flag (r.act tokens a).history ≤
      raises flag r.history + if a.isRequest then 1 else 0 := by
  cases a with
  | request reason repeats allowDeferred => exact raises_append_raiseEvents_le flag r.history ..
  | retryDeferred repeats =>
    simp only [act]
    split
    · exact raises_append_raiseEvents_le flag r.history ..
    · exact Nat.le_add_right _ _
  | observe data =>
    simp only [act]
    split
    · exact Nat.le_of_eq (raises_append_of_ne flag r.history nofun)
    · exact Nat.le_refl _
  | reset => exact Nat.le_of_eq (raises_append_of_ne flag r.history nofun)
  | proceed index due =>
    rcases history_proceed tokens r index due with hsame | ⟨id, hfinished⟩
    · exact Nat.le_of_eq (congrArg _ hsame)
    · exact Nat.le_of_eq ((congrArg _ hfinished).trans (raises_append_of_ne flag r.history nofun))
  | _ => exact Nat.le_refl _

theorem Owned.act {r : RepairRun} (h : r.Owned) {a : RepairAction}
    (hfew : a.isRequest = true → ∀ flag, raises flag r.history + 1 < 2 ^ 63) :
    (r.act tokens a).Owned := by
  cases a with
  | request reason repeats allowDeferred => exact h.request (hfew rfl) reason repeats allowDeferred
  | retryDeferred repeats =>
    simp only [RepairRun.act, Requester.retryDeferred]
    split
    · next outcome requester heq =>
      split at heq
      · cases heq
        -- taking the deferral back touches no flag
        have hframe : Owned ⟨{ r.requester with
            health := { r.requester.health with recordDeferred := false } }, r.history⟩ :=
          h.of_frame (funext fun flag => by cases flag <;> rfl) rfl rfl
        exact hframe.request (hfew rfl) .recordStartDeferred repeats false
      · cases heq
    · next requester heq =>
      split at heq
      · cases heq
      · cases heq
        exact h
  | observe data =>
    simp only [RepairRun.act]
    have hspec := r.requester.observe_spec data
    split
    · next nalType requester heq =>
      rw [heq] at hspec
      rcases hspec with ⟨hnone, -⟩ | ⟨-, hslots, hclaims, hdispatched⟩
      · cases hnone
      · refine h.lower (.inl rfl) (fun flag => ?_) hclaims hdispatched
        rw [hslots]
        exact ⟨PendingSlot.generation_confirm _,
          PendingSlot.confirmed_confirm_le (h.flags flag).confirmed_le,
          PendingSlot.raised_confirm _⟩
    · next requester heq =>
      rw [heq] at hspec
      rcases hspec with ⟨-, rfl⟩ | ⟨hsome, -⟩
      · exact h
      · cases hsome
  | setEnabled enabled => exact h.of_frame rfl rfl rfl
  | setSender sender => exact h.of_frame (funext fun flag => by cases flag <;> rfl) rfl rfl
  | reset =>
    refine h.lower (.inr rfl) (fun flag => ?_) rfl rfl
    have hle := (h.flags flag).confirmed_le
    cases flag <;> exact ⟨rfl, hle, rfl⟩
  | startClock now =>
    refine h.of_frame rfl ?_ rfl
    simp only [Requester.claims, List.map_map]
    rfl
  | proceed index due => exact h.proceed index due

/-- Every run with few enough requests keeps the invariant. -/
theorem Owned.actAll {r : RepairRun} (h : r.Owned) (actions : List RepairAction)
    (hfew : ∀ flag, raises flag r.history + actions.countP (·.isRequest) < 2 ^ 63) :
    (r.actAll tokens actions).Owned := by
  induction actions generalizing r with
  | nil => exact h
  | cons a actions ih =>
    simp only [List.countP_cons] at hfew
    have hact : (r.act tokens a).Owned := by
      refine h.act fun ha flag => ?_
      have := hfew flag
      rw [if_pos ha] at this
      omega
    refine ih hact fun flag => ?_
    have hle := raises_act_le tokens r a flag
    have := hfew flag
    omega

/-! ## Sequences that end -/

/-- A step of a sequence lowers a flag only if the sequence is that of the flag's latest raise. -/
theorem Owned.isPending_proceed {r : RepairRun} (h : r.Owned) {index : Nat} {t : RepeatTask}
    (ht : r.requester.tasks[index]? = some t) (due : Option Instant) {flag : PendingFlag}
    (hother : ∀ since, ¬ LatestRaise r.history flag .dispatched t.sequence.id since) :
    (r.proceed tokens index due).requester.health.isPending flag =
      r.requester.health.isPending flag := by
  obtain ⟨-, ⟨-, hhealth, -⟩ | ⟨others, hperm, -, ⟨-, hhealth, -⟩ | ⟨hhealth, -⟩⟩⟩ :=
    proceed_cases tokens ht due
  · rw [hhealth]
  · rw [hhealth]
  · obtain ⟨hid, -, hflags⟩ := h.of_perm hperm
    have hraised := (hflags flag).raised_giveUp_iff hid
      (givesUp_giveUp t.sequence r.requester.health flag)
    rw [hhealth, HealthState.isPending, Bool.eq_iff_iff, hraised]
    exact and_iff_left hother

/-- The latest raise of the flag has started no sequence. -/
def Unsent (history : List RepairEvent) (flag : PendingFlag) : Prop :=
  ∃ outcome id since, LatestRaise history flag outcome id since ∧
    (outcome = .noSender ∨ outcome = .deferred)

/-- With no sequence under way, a flag is up only if its latest raise has started none. -/
theorem Owned.unsent {r : RepairRun} (h : r.Owned) (htasks : r.requester.tasks = [])
    {flag : PendingFlag} (hup : r.requester.health.isPending flag = true) :
    Unsent r.history flag := by
  obtain ⟨outcome, id, since, hl, -⟩ := (h.flags flag).raised_iff.1 hup
  obtain ⟨before, hsplit⟩ := hl.split
  refine ⟨outcome, id, since, hl, ?_⟩
  cases outcome with
  | disabled => exact absurd (by simp [hsplit]) (h.answered flag id)
  | deferred => exact .inr rfl
  | noSender => exact .inl rfl
  | dispatched =>
    have hclaim := (h.flags flag).running hup id since hl
    rw [Requester.claims, htasks] at hclaim
    cases hclaim

theorem Unsent.of_append {history : List RepairEvent} {flag : PendingFlag} {e : RepairEvent}
    (h : Unsent (history ++ [e]) flag) (he : ∀ o i, e ≠ .raised flag o i) :
    Unsent history flag := by
  obtain ⟨outcome, id, since, hl, houtcome⟩ := h
  obtain ⟨since', -, hl'⟩ := hl.of_append he
  exact ⟨outcome, id, since', hl', houtcome⟩

/-- Steps of the sequences keep the invariant and raise nothing. -/
theorem Reaches.owned {r r' : RepairRun} (hreach : Reaches tokens r r') (h : r.Owned) :
    r'.Owned ∧ ∀ flag, Unsent r'.history flag → Unsent r.history flag := by
  obtain ⟨actions, hactions, rfl⟩ := hreach
  induction actions generalizing r with
  | nil => exact ⟨h, fun _ => id⟩
  | cons a actions ih =>
    have hstep := hactions a List.mem_cons_self
    have hact : (r.act tokens a).Owned := by
      refine h.act fun hrequest => ?_
      rw [RepairAction.isRequest_of_isStep hstep] at hrequest
      cases hrequest
    obtain ⟨howned, hunsent⟩ := ih hact fun b hb => hactions b (List.mem_cons_of_mem _ hb)
    refine ⟨howned, fun flag hflag => ?_⟩
    have hlater := hunsent flag hflag
    cases a with
    | startClock now => exact hlater
    | proceed index due =>
      simp only [RepairRun.act] at hlater
      rcases history_proceed tokens r index due with hsame | ⟨id, hfinished⟩
      · rwa [hsame] at hlater
      · rw [hfinished] at hlater
        exact hlater.of_append nofun
    | _ => cases hstep

/-! ## Runs of a fresh requester -/

/-- What has become of a fresh requester. -/
def after (tokens : Nat → Token) (codec : Codec) (port : UInt16) (timing : RepairTiming)
    (enabled : Bool) (origin : Instant) (actions : List RepairAction) : RepairRun :=
  RepairRun.actAll tokens { requester := .fresh codec port timing enabled origin } actions

theorem owned_after (tokens : Nat → Token) (codec : Codec) (port : UInt16) (timing : RepairTiming)
    (enabled : Bool) (origin : Instant) {actions : List RepairAction}
    (hfew : actions.countP (·.isRequest) < 2 ^ 63) :
    (after tokens codec port timing enabled origin actions).Owned := by
  have hnone : ∀ flag, ¬ Awaited [] flag := by
    rintro flag ⟨outcome, id, since, ⟨⟨before, hsplit⟩, -⟩, -⟩
    simp at hsplit
  have hfresh : Owned { requester := .fresh codec port timing enabled origin } := by
    refine ⟨List.nodup_nil, fun c hc => (List.not_mem_nil hc).elim, fun flag => ?_,
      fun flag i => List.not_mem_nil⟩
    have hslot : (Requester.fresh codec port timing enabled origin).health.pendingSlot flag = {} := by
      cases flag <;> rfl
    simp only [hslot]
    exact ⟨rfl, Nat.le_refl _, nofun, ⟨nofun, fun h => absurd h (hnone flag)⟩,
      fun _ _ hc => (List.not_mem_nil hc).elim, nofun⟩
  refine hfresh.actAll actions fun flag => ?_
  exact Nat.lt_of_le_of_lt (Nat.le_of_eq (Nat.zero_add _)) hfew

/-- However requests, keyframes, resets and the steps of the sequences interleave: a flag is up
exactly if the history awaits it; only the sequence of its latest raise can lower it by running
out; and once no sequence is under way, or all have been run out, it is up only if its latest raise
has found no sender. -/
theorem isPending_iff_awaited (tokens : Nat → Token) (codec : Codec) (port : UInt16)
    (timing : RepairTiming) (enabled : Bool) (origin : Instant) (actions : List RepairAction)
    (hfew : actions.countP (·.isRequest) < 2 ^ 63) (flag : PendingFlag) :
    let r := after tokens codec port timing enabled origin actions
    (r.requester.health.isPending flag = true ↔ Awaited r.history flag) ∧
      (∀ index due t, r.requester.tasks[index]? = some t →
        (∀ since, ¬ LatestRaise r.history flag .dispatched t.sequence.id since) →
          (r.proceed tokens index due).requester.health.isPending flag =
            r.requester.health.isPending flag) ∧
      (r.requester.tasks = [] → r.requester.health.isPending flag = true →
        Unsent r.history flag) ∧
      ∀ now, (r.requester.runOut tokens now).2.2.health.isPending flag = true →
        Unsent r.history flag := by
  intro r
  have h : r.Owned := owned_after tokens codec port timing enabled origin hfew
  refine ⟨(h.flags flag).raised_iff, fun index due t ht hother => h.isPending_proceed ht due hother,
    fun htasks hup => h.unsent htasks hup, fun now hup => ?_⟩
  obtain ⟨r', hreach, hr'⟩ := runLimited_reached tokens none now r
  obtain ⟨howned, hunsent⟩ := hreach.owned h
  have htasks : r'.requester.tasks = [] := by
    rw [hr']
    exact Requester.tasks_runOut tokens now r.requester
  refine hunsent flag (howned.unsent htasks ?_)
  rw [hr']
  exact hup

/-- Of two requests for the same keyframe the older one has run out of bursts. -/
theorem isPending_overlapping :
    [RepairAction.setSender default, .request .streamUp 0 false, .request .streamUp 1 false,
        .proceed 0 none].countP (·.isRequest) < 2 ^ 63 ∧
      (after Token.counting .h265 11223 {} true 0
        [.setSender default, .request .streamUp 0 false, .request .streamUp 1 false,
          .proceed 0 none]).requester.health.isPending .stream = true := by
  have hhistory : (after Token.counting .h265 11223 {} true 0
      [.setSender default, .request .streamUp 0 false, .request .streamUp 1 false,
        .proceed 0 none]).history =
      [.raised .stream .dispatched 1, .raised .stream .dispatched 2, .finished 1] := by decide
  refine ⟨by decide, (isPending_iff_awaited _ _ _ _ _ _ _ (by decide) .stream).1.2 ?_⟩
  rw [hhistory]
  exact ⟨.dispatched, 2, [.finished 1], ⟨⟨[.raised .stream .dispatched 1], rfl⟩, by simp⟩,
    by simp, by simp, by simp⟩

end RepairRun

end VideoReceiver
