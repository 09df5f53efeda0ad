import Mathlib
import VideoReceiver.Proofs.Repair.Outlasting

/-!
# The kill-switch and the sequences under way

A requester that has been switched off does not look at access units, so no keyframe answers the
sequences that are under way. They go on as if there had been none: each makes all the attempts that
it makes in a run that differs in nothing but the switch, and it may make more.

## Main definitions

- `ClockedRun.OutlastedBy`: a run, and one in which less has been answered
- `ClockedRun.switched`: the same run with the switch in another position

## Main statements

- `ClockedRun.OutlastedBy.perform`: what is done in both runs
- `ClockedRun.performAll_switched`, `ClockedRun.performAll_switched_off`: what the switch changes
- `ClockedRun.switch_off_law`: what the switch changes in the attempts of the sequences
-/

namespace VideoReceiver

/-! ## Looking at an access unit -/

namespace Requester

variable {r r' : Requester} {data : Bytes}

theorem isSome_observe_iff (r : Requester) (data : Bytes) :
    (r.observe data).1.isSome = true ↔ r.enabled = true ∧
      (∃ flag, r.health.isPending flag = true) ∧ (AnnexB.findKeyframe r.codec data).isSome := by
  have hany : (r.health.isPending .stream || r.health.isPending .record) = true ↔
      ∃ flag, r.health.isPending flag = true := by
    rw [Bool.or_eq_true]
    constructor
    · rintro (hup | hup)
      · exact ⟨.stream, hup⟩
      · exact ⟨.record, hup⟩
    · rintro ⟨flag, hup⟩
      cases flag with
      | stream => exact .inl hup
      | record => exact .inr hup
  rw [← hany, ← and_assoc, ← Bool.and_eq_true]
  unfold observe
  by_cases hlooks : (r.enabled && (r.health.isPending .stream || r.health.isPending .record)) = true
  · rw [if_pos hlooks]
    cases AnnexB.findKeyframe r.codec data with
    | none => simp
    | some nalType => simp [hlooks]
  · rw [if_neg hlooks]
    simp [hlooks]

/-- Where nothing is found, nothing changes. -/
theorem observe_eq_self (h : (r.observe data).1 = none) : (r.observe data).2 = r := by
  obtain ⟨-, hsame⟩ | ⟨hfound, -⟩ := r.observe_spec data
  · exact hsame
  · rw [h] at hfound
    cases hfound

/-- A requester that is switched off looks at nothing. -/
theorem observe_of_disabled (h : r.enabled = false) (data : Bytes) : (r.observe data).1 = none := by
  rw [← Option.not_isSome_iff_eq_none, isSome_observe_iff, h]
  exact fun hfound => Bool.noConfusion hfound.1

theorem codec_observe (r : Requester) (data : Bytes) : (r.observe data).2.codec = r.codec := by
  unfold observe
  split
  · split <;> rfl
  · rfl

theorem enabled_observe (r : Requester) (data : Bytes) :
    (r.observe data).2.enabled = r.enabled := by
  unfold observe
  split
  · split <;> rfl
  · rfl

theorem isPending_observe (r : Requester) (data : Bytes) (flag : PendingFlag)
    (h : (r.observe data).2.health.isPending flag = true) : r.health.isPending flag = true := by
  obtain ⟨-, hsame⟩ | ⟨-, hslots, -⟩ := r.observe_spec data
  · rwa [hsame] at h
  · rw [HealthState.isPending, hslots, PendingSlot.raised_confirm] at h
    cases h

/-- Whoever looks at an access unit at all answers as much as one for whom less is up. -/
theorem outlastedBy_observe (h : r.health.OutlastedBy r'.health) (hcodec : r'.codec = r.codec)
    (henabled : r'.enabled = true → r.enabled = true) (data : Bytes) :
    (r.observe data).2.health.OutlastedBy (r'.observe data).2.health := by
  obtain ⟨hnone, hsame⟩ | ⟨-, hslots, -⟩ := r.observe_spec data
  · rw [hsame]
    obtain ⟨-, hsame'⟩ | ⟨hfound', -⟩ := r'.observe_spec data
    · rw [hsame']
      exact h
    · -- a keyframe that is found only there confirms what is down here already
      obtain ⟨hon', -, hkeyframe⟩ := (r'.isSome_observe_iff data).1 hfound'
      rw [hcodec] at hkeyframe
      intro flag
      right
      rw [← Bool.not_eq_true]
      intro hup
      have hfound := (r.isSome_observe_iff data).2 ⟨henabled hon', ⟨flag, hup⟩, hkeyframe⟩
      rw [hnone] at hfound
      cases hfound
  · intro flag
    right
    rw [HealthState.isPending, hslots]
    exact PendingSlot.raised_confirm _

end Requester

/-! ## Runs -/

/-- Flags may change in both runs if they are only lowered here. -/
theorem Standing.OutlastedBy.of_health {r r' : Standing} (h : r.OutlastedBy r')
    {health health' : HealthState} (hhealth : health.OutlastedBy health')
    (hflags : ∀ flag, health.isPending flag = true → r.health.isPending flag = true) :
    Standing.OutlastedBy { r with health } { r' with health := health' } :=
  ⟨hhealth, h.tasks.of_isPending hflags, h.distinct, h.sent, h.underway, h.untracked⟩

namespace ClockedRun

variable (tokens : Nat → Token) {r r' : ClockedRun}

/-- What has come of a run. -/
def standing (r : ClockedRun) : Standing := ⟨r.requester.health, r.requester.tasks, r.made⟩

/-- In the other run less has been answered, and it may have been switched off. -/
structure OutlastedBy (r r' : ClockedRun) : Prop where
  standing : r.standing.OutlastedBy r'.standing
  codec : r'.requester.codec = r.requester.codec
  enabled : r'.requester.enabled = true → r.requester.enabled = true

/-- The same run with the switch in the given position. -/
def switched (r : ClockedRun) (enabled : Bool) : ClockedRun :=
  { r with requester := { r.requester with enabled } }

theorem outlastedBy_switched (h : r.requester.Numbered) : r.OutlastedBy (r.switched false) := by
  refine ⟨⟨.refl _, .refl _ _, ?_, fun _ => List.prefix_refl _, fun _ _ => rfl, rfl⟩, rfl, nofun⟩
  have hdistinct := h.distinct
  rw [Requester.claims, List.map_map] at hdistinct
  exact hdistinct

theorem OutlastedBy.observe (h : r.OutlastedBy r') (data : Bytes) :
    (r.perform tokens (.observe data)).standing.OutlastedBy
      (r'.perform tokens (.observe data)).standing := by
  have hhealth := Requester.outlastedBy_observe h.standing.health h.codec h.enabled data
  have hstanding := h.standing.of_health hhealth (r.requester.isPending_observe data)
  show Standing.OutlastedBy
    ⟨(r.requester.observe data).2.health, (r.requester.observe data).2.tasks, r.made⟩
    ⟨(r'.requester.observe data).2.health, (r'.requester.observe data).2.tasks, r'.made⟩
  rw [Requester.tasks_observe, Requester.tasks_observe]
  exact hstanding

theorem OutlastedBy.setSender (h : r.OutlastedBy r') (sender : Net.Endpoint) :
    (r.perform tokens (.setSender sender)).standing.OutlastedBy
      (r'.perform tokens (.setSender sender)).standing := by
  apply h.standing.of_health
  · intro flag
    cases flag with
    | stream => exact h.standing.health .stream
    | record => exact h.standing.health .record
  · intro flag hup
    cases flag <;> exact hup

theorem OutlastedBy.reset (h : r.OutlastedBy r') :
    (r.perform tokens .reset).standing.OutlastedBy (r'.perform tokens .reset).standing := by
  have hdown : ∀ flag, (r.perform tokens .reset).requester.health.isPending flag = false := by
    intro flag
    cases flag <;> rfl
  apply h.standing.of_health
  · exact fun flag => .inr (hdown flag)
  · intro flag hup
    rw [hdown flag] at hup
    cases hup

theorem OutlastedBy.elapse (h : r.OutlastedBy r') (limit : Option Instant) (now : Instant) :
    (r.perform tokens (.elapse limit now)).standing.OutlastedBy
      (r'.perform tokens (.elapse limit now)).standing := by
  have hstart : ((r.requester.clocked now).standing r.made).OutlastedBy
      ((r'.requester.clocked now).standing r'.made) := by
    refine ⟨h.standing.health, h.standing.tasks.start now, ?_, h.standing.sent, ?_,
      h.standing.untracked⟩
    · show ((r'.requester.tasks.map (RepeatTask.start now)).map (·.sequence.id)).Nodup
      rw [List.map_map]
      exact h.standing.distinct
    · intro t ht
      obtain ⟨u, hu, rfl⟩ := List.mem_map.1 ht
      exact h.standing.underway u hu
  exact RepeatRun.outlastedBy_untilLimit tokens limit hstart

/-- What is done in both runs keeps it so. -/
theorem OutlastedBy.perform (h : r.OutlastedBy r') {a : ClockedAction}
    (ha : a.isRequest = false) : (r.perform tokens a).OutlastedBy (r'.perform tokens a) := by
  cases a with
  | request reason repeats allowDeferred => cases ha
  | retryDeferred repeats => cases ha
  | observe data =>
    refine ⟨h.observe tokens data, ?_, ?_⟩
    · show (r'.requester.observe data).2.codec = (r.requester.observe data).2.codec
      rw [Requester.codec_observe, Requester.codec_observe]
      exact h.codec
    · show (r'.requester.observe data).2.enabled = true →
        (r.requester.observe data).2.enabled = true
      rw [Requester.enabled_observe, Requester.enabled_observe]
      exact h.enabled
  | setEnabled enabled => exact ⟨h.standing, h.codec, id⟩
  | setSender sender => exact ⟨h.setSender tokens sender, h.codec, h.enabled⟩
  | reset => exact ⟨h.reset tokens, h.codec, h.enabled⟩
  | elapse limit now => exact ⟨h.elapse tokens limit now, h.codec, h.enabled⟩

theorem OutlastedBy.performAll (h : r.OutlastedBy r') {actions : List ClockedAction}
    (hactions : ∀ a ∈ actions, a.isRequest = false) :
    (r.performAll tokens actions).OutlastedBy (r'.performAll tokens actions) := by
  induction actions generalizing r r' with
  | nil => exact h
  | cons a actions ih =>
    apply ih
    · exact h.perform tokens (hactions a List.mem_cons_self)
    · exact fun b hb => hactions b (List.mem_cons_of_mem a hb)

/-! ## The switch matters to access units only -/

theorem perform_observe {data : Bytes} (h : (r.requester.observe data).1 = none) :
    r.perform tokens (.observe data) = r := by
  simp only [perform, Requester.observe_eq_self h]

/-- Where nothing is found, the position of the switch changes nothing else. -/
theorem perform_switched (r : ClockedRun) {enabled : Bool}
    (henabled : enabled = true → r.requester.enabled = true) {a : ClockedAction}
    (ha : a.isRequest = false)
    (hnone : ∀ data, a = .observe data → (r.requester.observe data).1 = none) :
    ∃ enabled', (r.switched enabled).perform tokens a = (r.perform tokens a).switched enabled' ∧
      (enabled' = true → (r.perform tokens a).requester.enabled = true) := by
  cases a with
  | request reason repeats allowDeferred => cases ha
  | retryDeferred repeats => cases ha
  | observe data =>
    refine ⟨enabled, ?_⟩
    rw [perform_observe tokens (hnone data rfl)]
    refine ⟨perform_observe tokens ?_, henabled⟩
    cases enabled with
    | false => exact Requester.observe_of_disabled rfl data
    | true =>
      have hsame : r.switched true = r := by rw [switched, ← henabled rfl]
      rw [hsame]
      exact hnone data rfl
  | setEnabled e => exact ⟨e, rfl, id⟩
  | setSender sender => exact ⟨enabled, rfl, henabled⟩
  | reset => exact ⟨enabled, rfl, henabled⟩
  | elapse limit now => exact ⟨enabled, rfl, henabled⟩

/-- As long as no keyframe is found, a run that has been switched off is no different. -/
theorem performAll_switched (r : ClockedRun) {enabled : Bool}
    (henabled : enabled = true → r.requester.enabled = true) {actions : List ClockedAction}
    (hactions : ∀ a ∈ actions, a.isRequest = false)
    (hnone : ∀ earlier data rest, actions = earlier ++ .observe data :: rest →
      ((r.performAll tokens earlier).requester.observe data).1 = none) :
    ((r.switched enabled).performAll tokens actions).made =
      (r.performAll tokens actions).made := by
  induction actions generalizing r enabled with
  | nil => rfl
  | cons a actions ih =>
    obtain ⟨enabled', hswitched, henabled'⟩ := perform_switched tokens r henabled
      (hactions a List.mem_cons_self) fun data ha => hnone [] data actions (ha ▸ rfl)
    show (((r.switched enabled).perform tokens a).performAll tokens actions).made =
      ((r.perform tokens a).performAll tokens actions).made
    rw [hswitched]
    apply ih (r.perform tokens a) henabled'
    · exact fun b hb => hactions b (List.mem_cons_of_mem a hb)
    · intro earlier data rest hsplit
      exact hnone (a :: earlier) data rest (congrArg (a :: ·) hsplit)

/-- While the switch is off, access units might as well not be there. -/
theorem performAll_switched_off (r : ClockedRun) {actions : List ClockedAction}
    (hactions : ∀ a ∈ actions, a.isRequest = false) (hoff : .setEnabled true ∉ actions) :
    ((r.switched false).performAll tokens actions).made =
      (r.performAll tokens (actions.filter (!·.isObserve))).made := by
  induction actions generalizing r with
  | nil => rfl
  | cons a actions ih =>
    have hrest : ∀ b ∈ actions, b.isRequest = false :=
      fun b hb => hactions b (List.mem_cons_of_mem a hb)
    have hoff' : .setEnabled true ∉ actions := fun hmem => hoff (List.mem_cons_of_mem a hmem)
    show (((r.switched false).perform tokens a).performAll tokens actions).made = _
    cases a with
    | request reason repeats allowDeferred => cases hactions _ List.mem_cons_self
    | retryDeferred repeats => cases hactions _ List.mem_cons_self
    | observe data =>
      rw [perform_observe tokens (Requester.observe_of_disabled rfl data)]
      exact ih r hrest hoff'
    | setEnabled enabled =>
      have hfalse : enabled = false := by
        rw [← Bool.not_eq_true]
        rintro rfl
        exact hoff List.mem_cons_self
      subst hfalse
      exact ih (r.switched false) hrest hoff'
    | setSender sender => exact ih (r.perform tokens (.setSender sender)) hrest hoff'
    | reset => exact ih (r.perform tokens .reset) hrest hoff'
    | elapse limit now => exact ih (r.perform tokens (.elapse limit now)) hrest hoff'

/-- Two runs differ in that one of them is switched off at some point, and no request is made after
that. All attempts belong to sequences, and each sequence makes the attempts there that it makes
here, at the same times. It makes no others as long as it is under way here, or if it tracks no
flag. As long as no keyframe is found here, the switch changes nothing; but while the switch is off,
the sequences go on as if there were no access units. -/
theorem switch_off_law (tokens : Nat → Token) (codec : Codec) (port : UInt16)
    (timing : RepairTiming) (enabled : Bool) (origin : Instant) (before later : List ClockedAction)
    (hlater : ∀ a ∈ later, a.isRequest = false) :
    let run := after tokens codec port timing enabled origin
    let on := run (before ++ later)
    let off := run (before ++ .setEnabled false :: later)
    on.made.map OwnedAttempt.attempt = on.attempts ∧
      off.made.map OwnedAttempt.attempt = off.attempts ∧
      (∀ id, on.sentBy id <+: off.sentBy id) ∧
      (∀ t ∈ on.requester.tasks, on.sentBy t.sequence.id = off.sentBy t.sequence.id) ∧
      on.sentUntracked = off.sentUntracked ∧
      ((∀ earlier data rest, later = earlier ++ .observe data :: rest →
          ((run (before ++ earlier)).requester.observe data).1 = none) → on.made = off.made) ∧
      (.setEnabled true ∉ later →
        off.made = (run (before ++ later.filter (!·.isObserve))).made) := by
  intro run on off
  have hafter : ∀ actions, run (before ++ actions) = (run before).performAll tokens actions :=
    performAll_append tokens _ before
  have hon : on = (run before).performAll tokens later := hafter later
  have hoff : off = ((run before).switched false).performAll tokens later :=
    hafter (.setEnabled false :: later)
  have hstart : (run before).OutlastedBy ((run before).switched false) :=
    outlastedBy_switched (numbered_after tokens codec port timing enabled origin before)
  have hend : on.standing.OutlastedBy off.standing := by
    rw [hon, hoff]
    exact (hstart.performAll tokens hlater).standing
  refine ⟨attempts_performAll tokens rfl _, attempts_performAll tokens rfl _, hend.sent,
    hend.underway, hend.untracked, fun hnone => ?_, fun hnever => ?_⟩
  · rw [hon, hoff]
    apply (performAll_switched tokens (run before) Bool.noConfusion hlater ?_).symm
    intro earlier data rest hsplit
    rw [← hafter]
    exact hnone earlier data rest hsplit
  · rw [hoff, hafter]
    exact performAll_switched_off tokens (run before) hlater hnever

/-- One of two sequences tracks a flag, and a keyframe arrives after its first burst. -/
theorem switch_off_law_two_requests :
    let before := [.setSender default, .request .streamUp 3 false, .request .rtpGap 2 false,
      .elapse (some (Duration.ofMillis 250)) 0]
    let later := [.observe [0, 0, 0, 1, 0x26, 0x01, 0xaf, 0x10, 0x42],
      .elapse none (Duration.ofMillis 250)]
    let on := after Token.counting .h265 11223 {} true 0 (before ++ later)
    let off := after Token.counting .h265 11223 {} true 0 (before ++ .setEnabled false :: later)
    (∀ a ∈ later, a.isRequest = false) ∧ on.sentBy 1 <+: off.sentBy 1 ∧
      on.sentUntracked = off.sentUntracked ∧ on.sentUntracked.length = 6 := by
  intro before later on off
  have hlater : ∀ a ∈ later, a.isRequest = false := by decide
  obtain ⟨-, -, hsent, -, huntracked, -⟩ :=
    switch_off_law Token.counting .h265 11223 {} true 0 before later hlater
  refine ⟨hlater, hsent 1, huntracked, ?_⟩
  cbv

/-- A keyframe arrives after the first of three bursts. Nobody looks at it once the switch is off,
and the other two bursts are sent. -/
theorem sentBy_ne_of_switched_off :
    let before := [.setSender default, .request .streamUp 3 false,
      .elapse (some (Duration.ofMillis 250)) 0]
    let later := [.observe [0, 0, 0, 1, 0x26, 0x01, 0xaf, 0x10, 0x42],
      .elapse (some (Duration.ofMillis 1250)) (Duration.ofMillis 250)]
    let on := after Token.counting .h265 11223 {} true 0 (before ++ later)
    let off := after Token.counting .h265 11223 {} true 0 (before ++ .setEnabled false :: later)
    (∀ a ∈ later, a.isRequest = false) ∧ on.sentBy 1 ≠ off.sentBy 1 ∧
      (on.sentBy 1).map Prod.fst = [0, 100, 200].map Duration.ofMillis ∧
      (off.sentBy 1).map Prod.fst =
        [0, 100, 200, 300, 400, 500, 600, 700, 800].map Duration.ofMillis := by
  intro before later on off
  have hon : (on.sentBy 1).map Prod.fst = [0, 100, 200].map Duration.ofMillis := by cbv
  have hoff : (off.sentBy 1).map Prod.fst =
      [0, 100, 200, 300, 400, 500, 600, 700, 800].map Duration.ofMillis := by cbv
  refine ⟨by decide, fun hsame => ?_, hon, hoff⟩
  rw [hsame, hoff] at hon
  exact absurd hon (by decide)

end ClockedRun

end VideoReceiver
