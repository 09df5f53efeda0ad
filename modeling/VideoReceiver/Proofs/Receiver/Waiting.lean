import VideoReceiver.Session

/-!
# Waiting for the ingest loop

Letting time pass in a session lets the ingest loop go on whenever its pause is over, and each time
it is left with less to do. So a loop that is waited for comes to a point at which it does not go on
by itself; one that has been asked to end gets there at once.

## Main statements

- `Session.ingest_performUntil`: the loop has gone on, or it is as it was
- `Session.due?_joinIngest`: a loop that is waited for does not pause any more
- `Session.phase_joinIngest_of_cancelled`: a loop that has been asked to end does so, unless the
  decoder never answers
-/

namespace VideoReceiver

variable {η τ : Type}

theorem Ingest.due?_eq_some_iff {i : Ingest} {t : Instant} :
    i.due? = some t ↔ i.phase = .sleeping t := by
  unfold due?
  split
  · next u hu =>
    rw [hu]
    exact ⟨fun h => by cases h; rfl, fun h => by cases h; rfl⟩
  · next hsleep => exact ⟨nofun, fun h => absurd h (hsleep t)⟩

theorem Ingest.isEnded_eq_true_iff {i : Ingest} :
    i.isEnded = true ↔ ∃ how, i.phase = .ended how := by
  unfold isEnded
  split
  · next how hphase => exact ⟨fun _ => ⟨how, hphase⟩, fun _ => rfl⟩
  · next hother => exact ⟨nofun, fun ⟨how, hphase⟩ => absurd hphase (hother how)⟩

/-- A loop that has ended waits for nothing. -/
theorem Ingest.answered_of_ended {i : Ingest} {how : IngestEnd} (h : i.phase = .ended how) :
    i.phase ≠ .stalled ∧ i.phase ≠ .endless := by
  rw [h]
  constructor
  · rintro ⟨⟩
  · rintro ⟨⟩

/-- A loop that does not pause has ended, or it waits for an answer that never comes. -/
theorem Ingest.isEnded_of_due? {i : Ingest} (h : i.due? = none) (hstalled : i.phase ≠ .stalled)
    (hendless : i.phase ≠ .endless) : i.isEnded = true := by
  cases hphase : i.phase with
  | sleeping t =>
    rw [due?_eq_some_iff.2 hphase] at h
    cases h
  | stalled => exact absurd hphase hstalled
  | endless => exact absurd hphase hendless
  | ended how => exact isEnded_eq_true_iff.2 ⟨how, hphase⟩

namespace Session

/-! ## What comes next -/

theorem due?_of_nextEvent {s : Session η τ} {target time : Instant}
    (h : s.nextEvent target = some (time, .ingest)) :
    s.ingest.due? = some time ∧ time ≤ target := by
  have hfilter : ∀ {t : Instant}, s.ingest.due?.filter (· ≤ target) = some t →
      s.ingest.due? = some t ∧ t ≤ target := by
    intro t ht
    obtain ⟨hdue, hle⟩ := Option.filter_eq_some_iff.1 ht
    exact ⟨hdue, of_decide_eq_true hle⟩
  unfold nextEvent at h
  dsimp only at h
  split at h
  · cases h
  · cases h
  · next u _ hu =>
    cases h
    exact hfilter hu
  · next t u _ hu =>
    split at h
    · cases h
    · cases h
      exact hfilter hu

theorem lt_of_nextEvent_eq_none {s : Session η τ} {target t : Instant}
    (h : s.nextEvent target = none) (ht : s.ingest.due? = some t) : target < t := by
  have hfilter : s.ingest.due?.filter (· ≤ target) = none := by
    unfold nextEvent at h
    dsimp only at h
    split at h
    · assumption
    · cases h
    · cases h
    · split at h <;> cases h
  rw [Option.filter_eq_none_iff] at hfilter
  exact Nat.lt_of_not_le fun hle => hfilter t ht (decide_eq_true hle)

theorem ingest_observeLink (s : Session η τ) : s.observeLink.ingest = s.ingest := by
  unfold observeLink
  dsimp only
  split <;> rfl

theorem cancelled_observeLink (s : Session η τ) : s.observeLink.cancelled = s.cancelled := by
  unfold observeLink
  dsimp only
  split <;> rfl

theorem ingest_shutdown [RepairTransport τ] (s : Session η τ) :
    s.shutdown.ingest = s.ingest := by
  show s.observeLink.ingest = s.ingest
  exact s.ingest_observeLink

variable [SurfaceAllocator η] [VideoDecoder η]

theorem ingest_goOn (s : Session η τ) : s.goOn.ingest = (s.ingest.resume s.now s.stage).1 := by
  unfold goOn afterIngest
  dsimp only
  split <;> rfl

omit [VideoDecoder η] in
/-- A loop that has been asked to end does so while it pauses or waits for a read. -/
theorem ingest_noticeCancel (s : Session η τ) :
    s.noticeCancel.ingest = s.ingest ∨ s.noticeCancel.ingest.isEnded = true := by
  unfold noticeCancel
  split
  · show (s.ingest.cancel s.stage).1 = s.ingest ∨ (s.ingest.cancel s.stage).1.isEnded = true
    unfold Ingest.cancel
    split
    · exact .inr rfl
    · exact .inr rfl
    · exact .inl rfl
    · exact .inl rfl
  · exact .inl rfl

omit [VideoDecoder η] in
theorem work_noticeCancel_le (s : Session η τ) : s.noticeCancel.ingest.work ≤ s.ingest.work := by
  rcases s.ingest_noticeCancel with hsame | hended
  · exact Nat.le_of_eq (congrArg Ingest.work hsame)
  · rw [Ingest.work, if_pos hended]
    exact Nat.zero_le _

omit [VideoDecoder η] in
/-- What has been asked to end has ended, or the decode stage is busy for ever. -/
theorem phase_noticeCancel {s : Session η τ} (h : s.cancelled = true) :
    s.noticeCancel.ingest.isEnded = true ∨ s.noticeCancel.ingest.phase = .endless := by
  unfold noticeCancel
  rw [if_pos h]
  show (s.ingest.cancel s.stage).1.isEnded = true ∨ (s.ingest.cancel s.stage).1.phase = .endless
  unfold Ingest.cancel
  split
  · exact .inl rfl
  · exact .inl rfl
  · next hphase => exact .inr hphase
  · next how hphase => exact .inl (Ingest.isEnded_eq_true_iff.2 ⟨how, hphase⟩)

variable [RepairTransport τ]

/-- The loop has gone on and has less to do, or it is as it was. -/
theorem ingest_performUntil (target : Instant) (s : Session η τ) :
    (s.performUntil target).ingest = s.ingest ∨
      (s.performUntil target).ingest.work < s.ingest.work := by
  fun_induction performUntil target s with
  | case1 s time e hnext ih =>
    cases e with
    | check =>
      have hsame : (s.perform time .check).ingest = s.ingest := ingest_observeLink _
      rw [hsame] at ih
      exact ih
    | ingest =>
      obtain ⟨hdue, -⟩ := due?_of_nextEvent hnext
      have hless : (s.perform time .ingest).ingest.work < s.ingest.work := by
        rw [perform, ingest_observeLink, ingest_goOn]
        exact Ingest.work_resume_lt s.ingest time _ (isEnded_of_due hdue)
      rcases ih with hsame | hmore
      · rw [hsame]
        exact .inr hless
      · exact .inr (Nat.lt_trans hmore hless)
  | case2 s hnone => exact .inl rfl

theorem nextEvent_performUntil (target : Instant) (s : Session η τ) :
    (s.performUntil target).nextEvent target = none := by
  fun_induction performUntil target s with
  | case1 s time e hnext ih => exact ih
  | case2 s hnone => exact hnone

/-- A pause of the loop that passes leaves it with less to do. -/
theorem work_advanceTo_lt {s : Session η τ} {target t : Instant} (hdue : s.ingest.due? = some t)
    (hle : t ≤ target) : (s.advanceTo target).ingest.work < s.ingest.work := by
  have hperform := s.observeLink.noticeCancel.ingest_performUntil target
  rcases s.observeLink.ingest_noticeCancel with hsame | hended
  · rw [hsame, s.ingest_observeLink] at hperform
    refine hperform.resolve_left fun hstill => ?_
    have hlate := lt_of_nextEvent_eq_none
      (s.observeLink.noticeCancel.nextEvent_performUntil target) (hstill ▸ hdue)
    exact Nat.not_lt.2 hle hlate
  · -- it has been asked to end
    have hwork : s.observeLink.noticeCancel.ingest.work = 0 := if_pos hended
    have hnone : (s.advanceTo target).ingest.work = 0 := by
      rcases hperform with hsame | hless
      · exact (congrArg Ingest.work hsame).trans hwork
      · rw [hwork] at hless
        exact absurd hless (Nat.not_lt_zero _)
    rw [hnone, Ingest.work, isEnded_of_due hdue]
    exact Nat.zero_lt_succ _

/-! ## Waiting -/

theorem due?_joinIngest_go {n : Nat} {s : Session η τ} (h : s.ingest.work ≤ n) :
    (joinIngest.go n s).ingest.due? = none := by
  induction n generalizing s with
  | zero =>
    refine Option.eq_none_iff_forall_ne_some.2 fun t (hdue : s.ingest.due? = some t) => ?_
    rw [Ingest.work, isEnded_of_due hdue] at h
    exact absurd h (Nat.not_succ_le_zero _)
  | succ n ih =>
    unfold joinIngest.go
    split
    · next t hdue =>
      have hless := work_advanceTo_lt hdue (Nat.le_max_left t s.now)
      exact ih (Nat.le_of_lt_succ (Nat.lt_of_lt_of_le hless h))
    · next hdue => exact hdue

/-- A loop that is waited for does not pause any more. -/
theorem due?_joinIngest (s : Session η τ) : s.joinIngest.ingest.due? = none := by
  have hwork := s.observeLink.work_noticeCancel_le
  rw [s.ingest_observeLink] at hwork
  exact due?_joinIngest_go hwork

theorem joinIngest_go_of_due? {s : Session η τ} (h : s.ingest.due? = none) (n : Nat) :
    joinIngest.go n s = s := by
  cases n with
  | zero => rfl
  | succ n =>
    unfold joinIngest.go
    rw [h]

/-- A loop that has been asked to end does so, unless the decode stage is busy for ever. -/
theorem phase_joinIngest_of_cancelled {s : Session η τ} (h : s.cancelled = true) :
    s.joinIngest.ingest.isEnded = true ∨ s.joinIngest.ingest.phase = .endless := by
  have hphase := phase_noticeCancel (s.cancelled_observeLink.trans h)
  have hdue : s.observeLink.noticeCancel.ingest.due? = none := by
    refine Option.eq_none_iff_forall_ne_some.2 fun t hdue => ?_
    rcases hphase with hended | hendless
    · rw [isEnded_of_due hdue] at hended
      cases hended
    · rw [Ingest.due?_eq_some_iff.1 hdue] at hendless
      cases hendless
  rw [joinIngest, joinIngest_go_of_due? hdue]
  exact hphase

end Session

end VideoReceiver
