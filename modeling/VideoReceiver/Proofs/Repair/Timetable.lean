import VideoReceiver.Proofs.Link.Deferral
import VideoReceiver.Proofs.Receiver.Networks
import VideoReceiver.Proofs.Repair.Outlasting

/-!
# The timetable of a sequence

When a sequence is started, it is settled when and where it will send: datagram `d` of burst `b` is
due `b` times the length of a burst with its pause, and `d` times the pause between datagrams, after
the start. A sequence may end early, but only between two bursts. Other sequences, keyframes, new
senders and failures do not move a datagram.

## Main definitions

- `RepeatSequence.slot`, `RepeatSequence.bursts`: the timetable
- `RepeatSequence.OnTime`: a sequence has kept to the timetable, and what it does next will
- `RepeatSequence.KeepsTime`: the same for the tasks with its number

## Main statements

- `RepeatSequence.OnTime.resume`: a sequence that is resumed keeps to the timetable
- `RepeatSequence.OnTime.punctual`: of what is due before it is resumed next, nothing is missing
- `RepeatRun.keepsTime_untilLimit`: it keeps to the timetable while time passes
- `ClockedRun.timetable_law`: the attempts of every sequence, on every network
-/

namespace VideoReceiver

namespace RepeatSequence

/-! ## The timetable -/

/-- When datagram `d` of burst `b` of a sequence is due that starts at `t`. -/
def slot (s : RepeatSequence) (t : Instant) (b d : Nat) : Instant :=
  t + b * ((s.timing.datagramsPerBurst - 1) * s.timing.datagramSpacing + s.gap) +
    d * s.timing.datagramSpacing

/-- The attempts of burst `b`, which all carry the same letters. -/
def burst (s : RepeatSequence) (t : Instant) (b : Nat) (letters : Token) : List Attempt :=
  (List.range s.timing.datagramsPerBurst).map fun d =>
    ⟨s.slot t b d, ⟨s.target, letters.payload⟩⟩

/-- The attempts of whole bursts with the given letters. -/
def bursts (s : RepeatSequence) (t : Instant) (letters : List Token) : List Attempt :=
  letters.zipIdx.flatMap fun (token, b) => s.burst t b token

/-- The first datagram of a burst is due a pause after the last one of the burst before. -/
theorem slot_succ (s : RepeatSequence) (t : Instant) (b : Nat) :
    s.slot t (b + 1) 0 =
      s.slot t b 0 + (s.timing.datagramsPerBurst - 1) * s.timing.datagramSpacing + s.gap := by
  simp only [slot, Nat.succ_mul, Nat.zero_mul, Nat.add_zero, Nat.add_assoc]

theorem length_burst (s : RepeatSequence) (t : Instant) (b : Nat) (letters : Token) :
    (s.burst t b letters).length = s.timing.datagramsPerBurst := by
  rw [burst, List.length_map, List.length_range]

theorem bursts_concat (s : RepeatSequence) (t : Instant) (letters : List Token) (token : Token) :
    s.bursts t (letters ++ [token]) = s.bursts t letters ++ s.burst t letters.length token := by
  simp [bursts, List.zipIdx_append]

/-- The last burst comes after the others. -/
theorem exists_bursts_eq (s : RepeatSequence) (t : Instant) (letters : List Token) :
    ∃ last, s.bursts t letters = s.bursts t letters.dropLast ++ last ∧
      (letters ≠ [] → last.length = s.timing.datagramsPerBurst) := by
  rcases letters.eq_nil_or_concat with rfl | ⟨earlier, token, rfl⟩
  · exact ⟨[], rfl, fun h => absurd rfl h⟩
  · rw [List.concat_eq_append, List.dropLast_concat]
    exact ⟨_, s.bursts_concat t earlier token, fun _ => s.length_burst t _ token⟩

theorem slot_le (s : RepeatSequence) (t : Instant) {b b' : Nat} (h : b ≤ b') (d : Nat) :
    s.slot t b 0 ≤ s.slot t b' d := by
  rw [slot, Nat.zero_mul]
  exact (Nat.add_le_add_left (Nat.mul_le_mul_right _ h) t).trans (Nat.le_add_right _ _)

theorem slot_mem_bursts (s : RepeatSequence) (t : Instant) {letters : List Token} {b d : Nat}
    (hb : b < letters.length) (hd : d < s.timing.datagramsPerBurst) :
    ∃ x ∈ s.bursts t letters, x.time = s.slot t b d :=
  ⟨⟨s.slot t b d, ⟨s.target, letters[b].payload⟩⟩,
    List.mem_flatMap.2 ⟨(letters[b], b), List.mk_mem_zipIdx_iff_getElem?.2
      (List.getElem?_eq_getElem hb), List.mem_map.2 ⟨d, List.mem_range.2 hd, rfl⟩⟩, rfl⟩

theorem isPayload_of_mem_bursts {s : RepeatSequence} {t : Instant} {letters : List Token}
    {a : Attempt} (h : a ∈ s.bursts t letters) :
    a.datagram.target = s.target ∧ Token.isPayload a.datagram.payload = true := by
  obtain ⟨⟨token, b⟩, -, hburst⟩ := List.mem_flatMap.1 h
  obtain ⟨d, -, rfl⟩ := List.mem_map.1 hburst
  exact ⟨rfl, token.isPayload_payload⟩

/-! ## One sequence -/

/-- What is left of the current burst of a sequence that goes on at `due`. -/
def rest (s : RepeatSequence) (due : Instant) : List Attempt :=
  (List.range s.datagramsLeft).map fun d =>
    ⟨due + d * s.timing.datagramSpacing, ⟨s.target, s.token.payload⟩⟩

/-- When the next burst of a sequence begins that goes on at `due`. -/
def nextBurst (s : RepeatSequence) (due : Instant) : Instant :=
  if s.datagramsLeft = 0 then due
  else due + (s.datagramsLeft - 1) * s.timing.datagramSpacing + s.gap

/-- The sequence with so many bursts and datagrams left. -/
def moved (s : RepeatSequence) (burstsLeft datagramsLeft : Nat) (token : Token) : RepeatSequence :=
  { s with burstsLeft, datagramsLeft, token }

/-- The sequence `s`, which was `s₀` when it was started at `t`, has drawn `letters` and has made
the attempts `made`, and it goes on at `due`. It has begun a burst for each of the letters, and with
the rest of the last one its attempts are those of the timetable. -/
structure OnTime (s₀ : RepeatSequence) (t : Instant) (letters : List Token) (made : List Attempt)
    (s : RepeatSequence) (due : Instant) : Prop where
  moved : s = s₀.moved s.burstsLeft s.datagramsLeft s.token
  begun : letters.length + s.burstsLeft = s₀.burstsLeft
  left : s.datagramsLeft ≤ s₀.timing.datagramsPerBurst
  rest : made ++ s.rest due = s₀.bursts t letters
  next : s.burstsLeft ≠ 0 → s.nextBurst due = s₀.slot t letters.length 0

/-- The sequence that was `s₀` when it was started at `t` has made the attempts `made`, all on time.
It is under way as the only one of the tasks, or there are none, and it has ended after a burst. -/
inductive KeepsTime (s₀ : RepeatSequence) (t : Instant) (made : List Attempt) :
    List RepeatTask → Prop
  | underway {letters : List Token} {s : RepeatSequence} {due : Instant}
      (h : OnTime s₀ t letters made s due) : KeepsTime s₀ t made [⟨s, some due⟩]
  | ended {letters : List Token} (hfew : letters.length ≤ s₀.burstsLeft)
      (hmade : made = s₀.bursts t letters)
      (hall : s₀.tracking = none → letters.length = s₀.burstsLeft) : KeepsTime s₀ t made []

/-- The task of a sequence after a step or a resumption at `time`, if it goes on. -/
def Progress.tasks (p : Progress) (time : Instant) : List RepeatTask :=
  (p.next.map fun (pause, s) => (⟨s, some (time + pause)⟩ : RepeatTask)).toList

variable {s₀ s : RepeatSequence} {t due : Instant} {letters : List Token} {made : List Attempt}

theorem OnTime.start (h : s₀.datagramsLeft = 0) (t : Instant) : OnTime s₀ t [] [] s₀ t where
  moved := rfl
  begun := Nat.zero_add _
  left := by rw [h]; exact Nat.zero_le _
  rest := by rw [RepeatSequence.rest, h]; rfl
  next _ := by
    rw [nextBurst, if_pos h, slot, List.length_nil, Nat.zero_mul, Nat.zero_mul]
    rfl

/-- The first one of the datagrams that are left, and the others after the pause. -/
theorem rest_of_succ {d : Nat} (hd : s.datagramsLeft = d + 1) (due : Instant) :
    s.rest due =
      ⟨due, ⟨s.target, s.token.payload⟩⟩ ::
        RepeatSequence.rest { s with datagramsLeft := d }
          (due + RepeatSequence.pause { s with datagramsLeft := d }) := by
  simp only [rest, hd, List.range_succ_eq_map, List.map_cons, List.map_map, Nat.zero_mul,
    Nat.add_zero]
  rcases d with _ | d
  · rfl
  · congr 1
    refine List.map_congr_left fun i _ => ?_
    simp only [pause, Function.comp_apply, Nat.succ_mul, if_pos d.succ_pos]
    rw [Nat.add_assoc, Nat.add_comm s.timing.datagramSpacing]

theorem nextBurst_of_succ {d : Nat} (hd : s.datagramsLeft = d + 1) (hb : s.burstsLeft ≠ 0)
    (due : Instant) :
    s.nextBurst due =
      RepeatSequence.nextBurst { s with datagramsLeft := d }
        (due + RepeatSequence.pause { s with datagramsLeft := d }) := by
  rcases d with _ | d
  · simp [nextBurst, pause, gap, hd, Nat.pos_of_ne_zero hb]
  · simp only [nextBurst, pause, gap, hd, if_pos d.succ_pos, if_neg (Nat.succ_ne_zero _),
      Nat.add_sub_cancel, Nat.succ_mul]
    dsimp only [Instant, Duration] at *
    omega

/-- A datagram is sent. -/
theorem OnTime.sent (h : OnTime s₀ t letters made s due) {d : Nat}
    (hd : s.datagramsLeft = d + 1) :
    OnTime s₀ t letters (made ++ [⟨due, ⟨s.target, s.token.payload⟩⟩])
      { s with datagramsLeft := d } (due + RepeatSequence.pause { s with datagramsLeft := d }) where
  moved := congrArg (fun s : RepeatSequence => { s with datagramsLeft := d }) h.moved
  begun := h.begun
  left := by
    have hleft := h.left
    rw [hd] at hleft
    exact Nat.le_of_succ_le hleft
  rest := by
    rw [List.append_assoc, List.singleton_append, ← rest_of_succ hd]
    exact h.rest
  next hb := (nextBurst_of_succ hd hb due).symm.trans (h.next hb)

/-- Between two bursts nothing is left of the current one. -/
theorem OnTime.made_eq (h : OnTime s₀ t letters made s due) (hd : s.datagramsLeft = 0) :
    made = s₀.bursts t letters := by
  rw [← h.rest, RepeatSequence.rest, hd]
  exact (List.append_nil made).symm

/-- A burst begins. -/
theorem OnTime.begin (h : OnTime s₀ t letters made s due) {b : Nat} (hd : s.datagramsLeft = 0)
    (hb : s.burstsLeft = b + 1) (token : Token) :
    let n := s.timing.datagramsPerBurst
    let s' : RepeatSequence := { s with burstsLeft := b, datagramsLeft := n, token }
    OnTime s₀ t (letters ++ [token]) made s' (due + if n = 0 then s'.pause else 0) := by
  intro n s'
  have htiming : s.timing = s₀.timing := congrArg (·.timing) h.moved
  have htarget : s.target = s₀.target := congrArg (·.target) h.moved
  have hgap : s.gap = s₀.gap := congrArg (·.gap) h.moved
  have hdue : due = s₀.slot t letters.length 0 := by
    rw [← h.next (hb ▸ b.succ_ne_zero), nextBurst, if_pos hd]
  refine ⟨?_, ?_, ?_, ?_, fun hb' => ?_⟩
  · exact congrArg (fun s : RepeatSequence => { s with burstsLeft := b, datagramsLeft := n, token })
      h.moved
  · rw [← h.begun, hb, List.length_append, List.length_singleton, Nat.add_assoc, Nat.add_comm 1]
  · exact Nat.le_of_eq (congrArg (·.datagramsPerBurst) htiming)
  · rw [h.made_eq hd, bursts_concat, burst, ← htiming, ← htarget]
    congr 1
    refine List.map_congr_left fun d hlt => ?_
    have hn : n ≠ 0 := Nat.ne_zero_of_lt (List.mem_range.1 hlt)
    rw [if_neg hn, hdue]
    simp only [slot, s', htiming, Nat.zero_mul, Nat.add_zero]
  · rw [List.length_append, List.length_singleton, slot_succ, ← hdue, ← hgap, ← htiming]
    by_cases hn : n = 0
    · rw [if_pos hn, nextBurst, if_pos hn, pause, if_neg (Nat.not_lt.2 (Nat.le_of_eq hn)),
        if_pos (Nat.pos_of_ne_zero hb')]
      show due + s.gap = due + (n - 1) * s.timing.datagramSpacing + s.gap
      rw [hn, Nat.zero_sub, Nat.zero_mul]
      rfl
    · rw [if_neg hn, nextBurst, if_neg hn]
      rfl

theorem id_of_mem_tasks_resume {tokens : Nat → Token} {drawn : Nat} {health : HealthState}
    {time : Instant} {u : RepeatTask} (h : u ∈ (s.resume tokens drawn health).tasks time) :
    u.sequence.id = s.id := by
  obtain ⟨⟨pause, s'⟩, hnext, rfl⟩ := Option.map_eq_some_iff.1 (Option.mem_toList.1 h)
  exact congrArg Prod.fst (claim_of_resume hnext)

/-- One step keeps to the timetable. -/
theorem OnTime.step (h : OnTime s₀ t letters made s due) (tokens : Nat → Token) (drawn : Nat)
    (health : HealthState) :
    KeepsTime s₀ t (made ++ (s.step tokens drawn health).sent.map (Attempt.mk due))
      ((s.step tokens drawn health).tasks due) := by
  unfold RepeatSequence.step
  split
  · next d hd => exact .underway (h.sent hd)
  · next b hd hb =>
    by_cases hanswered : s.isAnswered health
    · rw [if_pos hanswered, List.map_nil, List.append_nil]
      refine .ended (Nat.le.intro h.begun) (h.made_eq hd) fun htracking => ?_
      -- what raises no flag is never answered
      have hnone : s.tracking = none := (congrArg (·.tracking) h.moved).trans htracking
      rw [isAnswered, hnone] at hanswered
      cases hanswered
    · rw [if_neg hanswered, List.map_nil, List.append_nil]
      exact .underway (h.begin hd hb (tokens drawn))
  · next hd hb =>
    rw [List.map_nil, List.append_nil]
    have hbegun := h.begun
    rw [hb] at hbegun
    exact .ended (Nat.le.intro h.begun) (h.made_eq hd) fun _ => hbegun

/-- A sequence that is resumed keeps to the timetable. -/
theorem OnTime.resume (h : OnTime s₀ t letters made s due) (tokens : Nat → Token) (drawn : Nat)
    (health : HealthState) :
    KeepsTime s₀ t (made ++ (s.resume tokens drawn health).sent.map (Attempt.mk due))
      ((s.resume tokens drawn health).tasks due) := by
  fun_induction RepeatSequence.resume tokens drawn health s generalizing letters made with
  | case1 drawn health s s' hnext o =>
    rename_i _ ih
    have hstep := h.step tokens drawn health
    rw [Progress.tasks, hnext] at hstep
    cases hstep with
    | underway h' =>
      rw [List.map_append, ← List.append_assoc]
      exact ih h'
  | case2 drawn health s hnext => exact h.step tokens drawn health

/-- At every moment all bursts but the last one are complete; if the sequence has ended, all are,
and a sequence that tracks no flag has made every one. -/
theorem KeepsTime.attempts {tasks : List RepeatTask} (h : KeepsTime s₀ t made tasks) :
    ∃ letters : List Token, letters.length ≤ s₀.burstsLeft ∧ made <+: s₀.bursts t letters ∧
      s₀.bursts t letters.dropLast <+: made ∧
      (tasks = [] →
        made = s₀.bursts t letters ∧
          (s₀.tracking = none → letters.length = s₀.burstsLeft)) := by
  cases h with
  | @underway letters s due h =>
    obtain ⟨last, hall, hlast⟩ := s₀.exists_bursts_eq t letters
    have hmade : made <+: s₀.bursts t letters := ⟨s.rest due, h.rest⟩
    refine ⟨letters, Nat.le.intro h.begun, hmade, ?_, fun h => absurd h (List.cons_ne_nil _ _)⟩
    rcases eq_or_ne letters [] with rfl | hne
    · exact List.nil_prefix
    · refine List.prefix_of_prefix_length_le ⟨last, hall.symm⟩ hmade ?_
      -- what is left belongs to the last burst
      have hlength := congrArg List.length (h.rest.trans hall)
      rw [List.length_append, List.length_append, hlast hne, RepeatSequence.rest, List.length_map,
        List.length_range] at hlength
      have hleft := h.left
      omega
  | @ended letters hfew hmade hall =>
    obtain ⟨last, hbursts, -⟩ := s₀.exists_bursts_eq t letters
    subst hmade
    exact ⟨letters, hfew, List.prefix_refl _, ⟨last, hbursts.symm⟩, fun _ => ⟨rfl, hall⟩⟩

theorem due_le_nextBurst (s : RepeatSequence) (due : Instant) : due ≤ s.nextBurst due := by
  unfold nextBurst
  split
  · exact Nat.le_refl due
  · exact (Nat.le_add_right _ _).trans (Nat.le_add_right _ _)

/-- Nothing that is due before the sequence goes on is missing. -/
theorem OnTime.punctual (h : OnTime s₀ t letters made s due) {b d : Nat}
    (hb : b < s₀.burstsLeft) (hd : d < s₀.timing.datagramsPerBurst) (hlt : s₀.slot t b d < due) :
    ∃ x ∈ made, x.time = s₀.slot t b d := by
  rcases Nat.lt_or_ge b letters.length with hbegun | hlater
  · obtain ⟨x, hx, htime⟩ := s₀.slot_mem_bursts t hbegun hd
    rw [← h.rest] at hx
    rcases List.mem_append.1 hx with hmade | hrest
    · exact ⟨x, hmade, htime⟩
    · -- the rest of the current burst is still to come
      obtain ⟨i, -, rfl⟩ := List.mem_map.1 hrest
      have hle : due ≤ due + i * s.timing.datagramSpacing := Nat.le_add_right _ _
      rw [← htime] at hlt
      exact absurd hlt (Nat.not_lt.2 hle)
  · have hleft : s.burstsLeft ≠ 0 := by
      have hbegun := h.begun
      omega
    have hle := (s.due_le_nextBurst due).trans ((h.next hleft).le.trans (s₀.slot_le t hlater d))
    exact absurd hlt (Nat.not_lt.2 hle)

theorem KeepsTime.punctual {tasks : List RepeatTask} (h : KeepsTime s₀ t made tasks)
    (htasks : tasks ≠ []) {bound : Instant}
    (hbound : ∀ u ∈ tasks, ∀ due, u.due = some due → bound ≤ due) {b d : Nat}
    (hb : b < s₀.burstsLeft) (hd : d < s₀.timing.datagramsPerBurst)
    (hlt : s₀.slot t b d < bound) : ∃ x ∈ made, x.time = s₀.slot t b d := by
  cases h with
  | @underway letters s due h =>
    have hdue : bound ≤ due := hbound _ List.mem_cons_self due rfl
    exact h.punctual hb hd (hlt.trans_le hdue)
  | ended => exact absurd rfl htasks

theorem KeepsTime.of_perm {tasks tasks' : List RepeatTask} (h : KeepsTime s₀ t made tasks)
    (hperm : tasks'.Perm tasks) : KeepsTime s₀ t made tasks' := by
  cases h with
  | underway h =>
    rw [List.perm_singleton.1 hperm]
    exact .underway h
  | ended hfew hmade hall =>
    rw [List.perm_nil.1 hperm]
    exact .ended hfew hmade hall

end RepeatSequence

/-! ## Any number of sequences -/

/-- The attempts of the sequence with the given number. -/
def attemptsBy (id : Nat) (made : List OwnedAttempt) : List Attempt :=
  (made.filter (·.owner.1 == id)).map OwnedAttempt.attempt

@[simp] theorem attemptsBy_append (id : Nat) (made later : List OwnedAttempt) :
    attemptsBy id (made ++ later) = attemptsBy id made ++ attemptsBy id later := by
  rw [attemptsBy, List.filter_append, List.map_append]
  rfl

namespace RepeatTask

/-- The tasks of the sequence with the given number. -/
def tasksOf (id : Nat) (tasks : List RepeatTask) : List RepeatTask :=
  tasks.filter (·.sequence.id == id)

variable {id : Nat} {tasks rest : List RepeatTask} {u : RepeatTask} {time : Instant}

@[simp] theorem tasksOf_append (id : Nat) (tasks more : List RepeatTask) :
    tasksOf id (tasks ++ more) = tasksOf id tasks ++ tasksOf id more := List.filter_append ..

theorem tasksOf_cons_self (h : u.sequence.id = id) (tasks : List RepeatTask) :
    tasksOf id (u :: tasks) = u :: tasksOf id tasks :=
  List.filter_cons_of_pos (beq_iff_eq.2 h)

theorem tasksOf_cons_of_ne (h : u.sequence.id ≠ id) (tasks : List RepeatTask) :
    tasksOf id (u :: tasks) = tasksOf id tasks :=
  List.filter_cons_of_neg fun heq => h (beq_iff_eq.1 heq)

theorem tasksOf_eq_self (h : ∀ u ∈ tasks, u.sequence.id = id) : tasksOf id tasks = tasks :=
  List.filter_eq_self.2 fun u hu => beq_iff_eq.2 (h u hu)

theorem tasksOf_eq_nil_iff : tasksOf id tasks = [] ↔ ∀ u ∈ tasks, u.sequence.id ≠ id := by
  simp only [tasksOf, List.filter_eq_nil_iff, beq_iff_eq, ne_eq]

theorem tasksOf_start (id : Nat) (now : Instant) (tasks : List RepeatTask) :
    tasksOf id (tasks.map (start now)) = (tasksOf id tasks).map (start now) := by
  rw [tasksOf, List.filter_map]
  rfl

/-- The task that goes on first does so when it is due. -/
theorem due_of_takeFirst (h : takeFirst tasks = some (time, u, rest)) : u.due = some time := by
  induction tasks generalizing time u rest with
  | nil => cases h
  | cons v tasks ih =>
    obtain ⟨due, hdue, hle⟩ | ⟨time', u', rest', hfirst, hlt⟩ | ⟨hdue, hnone⟩ :=
      takeFirst_cons_cases v tasks
    · rw [takeFirst_cons_of_le hdue hle] at h
      cases h
      exact hdue
    · rw [takeFirst_cons_of_lt hfirst hlt] at h
      cases h
      exact ih hfirst
    · rw [takeFirst_cons_of_none hdue hnone] at h
      cases h

/-- No other task goes on before the one that goes on first. -/
theorem le_due_of_le_takeFirst (h : ∀ n ∈ takeFirst tasks, time ≤ n.1) {due : Instant}
    (hu : u ∈ tasks) (hdue : u.due = some due) : time ≤ due := by
  induction tasks with
  | nil => cases hu
  | cons v tasks ih =>
    obtain ⟨due', hdue', hle⟩ | ⟨time', u', rest', hfirst, hlt⟩ | ⟨hdue', hnone⟩ :=
      takeFirst_cons_cases v tasks
    · have hfirst : time ≤ due' := h _ (takeFirst_cons_of_le hdue' hle)
      rcases List.mem_cons.1 hu with rfl | hlater
      · rw [hdue] at hdue'
        cases hdue'
        exact hfirst
      · exact ih (fun n hn => hfirst.trans (hle n hn)) hlater
    · have hle : time ≤ time' := h _ (takeFirst_cons_of_lt hfirst hlt)
      rcases List.mem_cons.1 hu with rfl | hlater
      · exact hle.trans (hlt due hdue).le
      · refine ih (fun n hn => ?_) hlater
        rw [hfirst] at hn
        cases hn
        exact hle
    · rcases List.mem_cons.1 hu with rfl | hlater
      · rw [hdue] at hdue'
        cases hdue'
      · refine ih (fun n hn => ?_) hlater
        rw [hnone] at hn
        cases hn

theorem le_of_takeDue_eq_none {limit : Instant} (h : takeDue (some limit) tasks = none) :
    ∀ n ∈ takeFirst tasks, limit ≤ n.1 := by
  intro n hn
  rw [takeDue, Option.mem_def.1 hn] at h
  by_contra hlt
  simp [Nat.not_le.1 hlt] at h

end RepeatTask

namespace RepeatRun

open RepeatTask (tasksOf)

variable {tokens : Nat → Token} {limit : Option Instant} {run : RepeatRun} {time : Instant}
  {u : RepeatTask} {rest : List RepeatTask} {s₀ : RepeatSequence} {t : Instant}
  {made : List Attempt}

theorem attemptsBy_madeBy_self (tokens : Nat → Token) (run : RepeatRun) (time : Instant)
    (u : RepeatTask) :
    attemptsBy u.sequence.id (run.madeBy tokens time u) =
      (u.sequence.resume tokens run.drawn run.health).sent.map (Attempt.mk time) := by
  rw [attemptsBy, List.filter_eq_self.2, madeBy, List.map_map]
  · rfl
  · intro a ha
    obtain ⟨datagram, -, rfl⟩ := List.mem_map.1 ha
    exact beq_self_eq_true _

theorem attemptsBy_madeBy_of_ne (tokens : Nat → Token) (run : RepeatRun) (time : Instant)
    {id : Nat} (h : u.sequence.id ≠ id) : attemptsBy id (run.madeBy tokens time u) = [] := by
  rw [attemptsBy, List.filter_eq_nil_iff.2, List.map_nil]
  intro a ha heq
  obtain ⟨datagram, -, rfl⟩ := List.mem_map.1 ha
  exact h (beq_iff_eq.1 heq)

/-- Once time has passed, nothing is overdue. -/
theorem le_due_of_mem_untilLimit {limit due : Instant}
    (hu : u ∈ (run.untilLimit tokens (some limit)).tasks) (hdue : u.due = some due) :
    limit ≤ due := by
  fun_induction untilLimit tokens (some limit) run with
  | case1 run time v rest hnext ih => exact ih hu
  | case2 run hnext =>
    exact RepeatTask.le_due_of_le_takeFirst (RepeatTask.le_of_takeDue_eq_none hnext) hu hdue

/-- Only sequences that are under way make attempts. -/
theorem owner_mem_of_mem_made {x : OwnedAttempt} (h : x ∈ run.made tokens limit) :
    x.owner ∈ run.tasks.map (·.sequence.claim) := by
  fun_induction untilLimit tokens limit run with
  | case1 run time u rest hdue ih =>
    rw [made_of_takeDue tokens hdue] at h
    rcases List.mem_append.1 h with hnow | hlater
    · obtain ⟨datagram, -, rfl⟩ := List.mem_map.1 hnow
      exact List.mem_map.2 ⟨u, (perm_of_takeDue hdue).mem_iff.1 List.mem_cons_self, rfl⟩
    · exact (claims_resume tokens hdue).subset (ih hlater)
  | case2 run hdue =>
    rw [made_of_takeDue_eq_none tokens hdue] at h
    exact absurd h List.not_mem_nil

/-- Whichever sequence is resumed, the given one keeps to its timetable. -/
theorem keepsTime_resume (hdue : RepeatTask.takeDue limit run.tasks = some (time, u, rest))
    (h : s₀.KeepsTime t made (tasksOf s₀.id run.tasks)) :
    s₀.KeepsTime t (made ++ attemptsBy s₀.id (run.madeBy tokens time u))
      (tasksOf s₀.id (run.resume tokens time u rest).tasks) := by
  have htasks : (run.resume tokens time u rest).tasks =
      rest ++ (u.sequence.resume tokens run.drawn run.health).tasks time :=
    tasks_resume tokens run time u rest
  have hid' : ∀ v ∈ (u.sequence.resume tokens run.drawn run.health).tasks time,
      v.sequence.id = u.sequence.id := fun v => RepeatSequence.id_of_mem_tasks_resume
  have h' := h.of_perm ((perm_of_takeDue hdue).filter _)
  rw [htasks, RepeatTask.tasksOf_append]
  by_cases hid : u.sequence.id = s₀.id
  · rw [← tasksOf, RepeatTask.tasksOf_cons_self hid] at h'
    generalize tasksOf s₀.id rest = others at h' ⊢
    cases h' with
    | @underway letters s due hon =>
      have htime : some due = some time :=
        RepeatTask.due_of_takeFirst (RepeatTask.takeFirst_of_takeDue hdue)
      cases htime
      have hkeeps := hon.resume tokens run.drawn run.health
      rw [← hid, attemptsBy_madeBy_self, RepeatTask.tasksOf_eq_self hid']
      exact hkeeps
  · have hother : tasksOf s₀.id
        ((u.sequence.resume tokens run.drawn run.health).tasks time) = [] :=
      RepeatTask.tasksOf_eq_nil_iff.2 fun v hv heq => hid ((hid' v hv).symm.trans heq)
    rw [← tasksOf, RepeatTask.tasksOf_cons_of_ne hid] at h'
    rw [attemptsBy_madeBy_of_ne tokens run time hid, hother, List.append_nil, List.append_nil]
    exact h'

theorem keepsTime_untilLimit (tokens : Nat → Token) (limit : Option Instant) (run : RepeatRun)
    (h : s₀.KeepsTime t made (tasksOf s₀.id run.tasks)) :
    s₀.KeepsTime t (made ++ attemptsBy s₀.id (run.made tokens limit))
      (tasksOf s₀.id (run.untilLimit tokens limit).tasks) := by
  fun_induction untilLimit tokens limit run generalizing made with
  | case1 run time u rest hdue ih =>
    rw [made_of_takeDue tokens hdue, attemptsBy_append, ← List.append_assoc]
    exact ih (keepsTime_resume hdue h)
  | case2 run hdue =>
    rw [made_of_takeDue_eq_none tokens hdue]
    exact (List.append_nil made).symm ▸ h

end RepeatRun

/-! ## Requesters on the clock -/

theorem HealthState.raiseFor_eq_none_iff (s : HealthState) (reason : RepairReason) :
    (s.raiseFor reason).1 = none ↔ reason.tracking = none := by
  cases htracking : reason.tracking with
  | none => simp only [raiseFor, htracking]
  | some flag => simp only [raiseFor, htracking, reduceCtorEq]

namespace ClockedAction

def isElapse : ClockedAction → Bool
  | elapse .. => true
  | _ => false

/-- The reason of a request and the number of bursts that it asks for. -/
def request? : ClockedAction → Option (RepairReason × Nat)
  | request reason repeats _ => some (reason, repeats)
  | retryDeferred repeats => some (.recordStartDeferred, repeats)
  | _ => none

/-- The sequence that an action dispatches. -/
def dispatched? (r : Requester) : ClockedAction → Option RepeatSequence
  | request reason repeats _ =>
    if r.enabled then r.health.sender.map (r.newSequence reason repeats) else none
  | retryDeferred repeats =>
    if r.enabled && r.health.recordDeferred then
      r.health.sender.map (r.newSequence .recordStartDeferred repeats)
    else none
  | _ => none

theorem of_dispatched? {a : ClockedAction} {r : Requester} {s : RepeatSequence}
    (h : a.dispatched? r = some s) :
    a.request? = some (s.reason, s.burstsLeft) ∧
      ∃ sender, r.health.sender = some sender ∧
        s = r.newSequence s.reason s.burstsLeft sender := by
  have hnew : ∀ {reason repeats}, r.health.sender.map (r.newSequence reason repeats) = some s →
      s.reason = reason ∧ s.burstsLeft = repeats ∧
        ∃ sender, r.health.sender = some sender ∧
          s = r.newSequence s.reason s.burstsLeft sender := by
    intro reason repeats hs
    obtain ⟨sender, hsender, rfl⟩ := Option.map_eq_some_iff.1 hs
    exact ⟨rfl, rfl, sender, hsender, rfl⟩
  cases a with
  | request reason repeats allowDeferred =>
    rw [dispatched?, Option.ite_none_right_eq_some] at h
    obtain ⟨hreason, hbursts, hsequence⟩ := hnew h.2
    exact ⟨by rw [hreason, hbursts, request?], hsequence⟩
  | retryDeferred repeats =>
    rw [dispatched?, Option.ite_none_right_eq_some] at h
    obtain ⟨hreason, hbursts, hsequence⟩ := hnew h.2
    exact ⟨by rw [hreason, hbursts, request?], hsequence⟩
  | _ => cases h

theorem id_of_dispatched? {a : ClockedAction} {r : Requester} {s : RepeatSequence}
    (h : a.dispatched? r = some s) : s.id = r.dispatched + 1 := by
  obtain ⟨-, sender, -, hs⟩ := of_dispatched? h
  exact congrArg (·.id) hs

end ClockedAction

namespace Requester

variable {r : Requester} {reason : RepairReason} {repeats : Nat}

theorem starts_request (r : Requester) (reason : RepairReason) (repeats : Nat)
    (allowDeferred : Bool) :
    r.Starts (ClockedAction.dispatched? r (.request reason repeats allowDeferred)).toList
      (r.request reason repeats allowDeferred).2 := by
  obtain ⟨sender, he, hsender, -, -, hstarts⟩ | ⟨hnone, -, -, hstarts⟩ :=
    r.request_cases reason repeats allowDeferred
  · rw [ClockedAction.dispatched?, if_pos he, hsender]
    exact hstarts
  · by_cases he : r.enabled = true
    · rw [ClockedAction.dispatched?, if_pos he, hnone he]
      exact hstarts
    · rw [ClockedAction.dispatched?, if_neg he]
      exact hstarts

theorem starts_retryDeferred (r : Requester) (repeats : Nat) :
    r.Starts (ClockedAction.dispatched? r (.retryDeferred repeats)).toList
      (r.retryDeferred repeats).2 := by
  rw [ClockedAction.dispatched?]
  unfold retryDeferred
  by_cases hretry : (r.enabled && r.health.recordDeferred) = true
  · rw [if_pos hretry, if_pos hretry]
    rw [Bool.and_eq_true] at hretry
    let r₁ : Requester := { r with health := { r.health with recordDeferred := false } }
    have hcleared : r.Starts [] r₁ := .nothing rfl rfl rfl rfl rfl
    have hstarts := hcleared.trans (r₁.starts_request .recordStartDeferred repeats false)
    rw [ClockedAction.dispatched?, if_pos (show r₁.enabled = true from hretry.1)] at hstarts
    exact hstarts
  · rw [if_neg hretry, if_neg hretry]
    exact .nothing rfl rfl rfl rfl rfl

end Requester

namespace ClockedRun

open RepeatTask (tasksOf)

variable (tokens : Nat → Token)

/-- Unless time passes, an action only starts the sequence that it dispatches. -/
theorem starts_perform (r : ClockedRun) {a : ClockedAction} (ha : a.isElapse = false) :
    r.requester.Starts (a.dispatched? r.requester).toList (r.perform tokens a).requester ∧
      (r.perform tokens a).made = r.made := by
  cases a with
  | request reason repeats allowDeferred =>
    exact ⟨r.requester.starts_request reason repeats allowDeferred, rfl⟩
  | retryDeferred repeats => exact ⟨r.requester.starts_retryDeferred repeats, rfl⟩
  | observe data => exact ⟨r.requester.starts_observe data, rfl⟩
  | setEnabled enabled => exact ⟨.nothing rfl rfl rfl rfl rfl, rfl⟩
  | setSender sender => exact ⟨.nothing rfl rfl rfl rfl rfl, rfl⟩
  | reset => exact ⟨.nothing rfl rfl rfl rfl rfl, rfl⟩
  | elapse limit now => cases ha

theorem dispatched_perform (r : ClockedRun) (a : ClockedAction) :
    (r.perform tokens a).requester.dispatched =
      r.requester.dispatched + (a.dispatched? r.requester).toList.length := by
  rcases ha : a.isElapse with _ | _
  · exact (r.starts_perform tokens ha).1.dispatched_eq
  · cases a with
    | elapse limit now => rfl
    | _ => cases ha

theorem dispatched_le_perform (r : ClockedRun) (a : ClockedAction) :
    r.requester.dispatched ≤ (r.perform tokens a).requester.dispatched := by
  rw [dispatched_perform]
  exact Nat.le_add_right _ _

/-- The port and the timing are those with which the requester has been created. -/
theorem config_performAll (r : ClockedRun) (actions : List ClockedAction) :
    (r.performAll tokens actions).requester.port = r.requester.port ∧
      (r.performAll tokens actions).requester.timing = r.requester.timing := by
  induction actions generalizing r with
  | nil => exact ⟨rfl, rfl⟩
  | cons a actions ih =>
    obtain ⟨hport, htiming⟩ := ih (r.perform tokens a)
    rcases ha : a.isElapse with _ | _
    · obtain ⟨hstarts, -⟩ := r.starts_perform tokens ha
      exact ⟨hport.trans hstarts.port_eq, htiming.trans hstarts.timing_eq⟩
    · cases a with
      | elapse limit now => exact ⟨hport, htiming⟩
      | _ => cases ha

/-- Other sequences that are dispatched leave the given one alone. -/
theorem tasksOf_perform (r : ClockedRun) {a : ClockedAction} (ha : a.isElapse = false) {id : Nat}
    (hid : id ≤ r.requester.dispatched) :
    tasksOf id (r.perform tokens a).requester.tasks = tasksOf id r.requester.tasks := by
  obtain ⟨hstarts, -⟩ := r.starts_perform tokens ha
  have hnew : tasksOf id ((a.dispatched? r.requester).toList.map fun s => ⟨s, none⟩) = [] := by
    refine RepeatTask.tasksOf_eq_nil_iff.2 fun u hu heq => ?_
    obtain ⟨s, hs, rfl⟩ := List.mem_map.1 hu
    have hnext := ClockedAction.id_of_dispatched? (Option.mem_toList.1 hs)
    dsimp only at heq
    omega
  rw [hstarts.tasks_eq, RepeatTask.tasksOf_append, hnew, List.append_nil]

/-- The sequence `s` has been dispatched, and the clock has not been started for it. -/
structure Waiting (r : ClockedRun) (s : RepeatSequence) : Prop where
  id_le : s.id ≤ r.requester.dispatched
  tasks : tasksOf s.id r.requester.tasks = [⟨s, none⟩]
  made : attemptsBy s.id r.made = []

/-- The sequence that was `s` when it was started at `t` has kept to its timetable. -/
structure OnTimetable (r : ClockedRun) (s : RepeatSequence) (t : Instant) : Prop where
  id_le : s.id ≤ r.requester.dispatched
  keeps : s.KeepsTime t (attemptsBy s.id r.made) (tasksOf s.id r.requester.tasks)

variable {tokens} {r : ClockedRun} {s : RepeatSequence} {t : Instant}

theorem Waiting.perform (h : r.Waiting s) {a : ClockedAction} (ha : a.isElapse = false) :
    (r.perform tokens a).Waiting s := by
  refine ⟨h.id_le.trans (r.dispatched_le_perform tokens a),
    (r.tasksOf_perform tokens ha h.id_le).trans h.tasks, ?_⟩
  rw [(r.starts_perform tokens ha).2]
  exact h.made

theorem Waiting.performAll (h : r.Waiting s) {quiet : List ClockedAction}
    (hquiet : ∀ a ∈ quiet, a.isElapse = false) : (r.performAll tokens quiet).Waiting s := by
  induction quiet generalizing r with
  | nil => exact h
  | cons a quiet ih =>
    exact ih (h.perform (hquiet a List.mem_cons_self)) fun b hb =>
      hquiet b (List.mem_cons_of_mem a hb)

theorem Waiting.elapse (h : r.Waiting s) (hfresh : s.datagramsLeft = 0) (limit : Option Instant)
    (t : Instant) : (r.perform tokens (.elapse limit t)).OnTimetable s t := by
  have hstart : s.KeepsTime t [] (tasksOf s.id (r.requester.clocked t).tasks) := by
    rw [Requester.clocked, RepeatTask.tasksOf_start, h.tasks]
    exact .underway (.start hfresh t)
  have hkeeps := RepeatRun.keepsTime_untilLimit tokens limit (r.requester.clocked t) hstart
  rw [← h.made, ← attemptsBy_append] at hkeeps
  exact ⟨h.id_le, hkeeps⟩

theorem OnTimetable.perform (h : r.OnTimetable s t) (a : ClockedAction) :
    (r.perform tokens a).OnTimetable s t := by
  refine ⟨h.id_le.trans (r.dispatched_le_perform tokens a), ?_⟩
  rcases ha : a.isElapse with _ | _
  · rw [r.tasksOf_perform tokens ha h.id_le, (r.starts_perform tokens ha).2]
    exact h.keeps
  · cases a with
    | elapse limit now =>
      -- what has been started is not started again
      have hstart : s.KeepsTime t (attemptsBy s.id r.made)
          (tasksOf s.id (r.requester.clocked now).tasks) := by
        rw [Requester.clocked, RepeatTask.tasksOf_start]
        have hkeeps := h.keeps
        generalize tasksOf s.id r.requester.tasks = tasks at hkeeps ⊢
        cases hkeeps with
        | underway h => exact .underway h
        | ended hfew hmade hall => exact .ended hfew hmade hall
      have hkeeps := RepeatRun.keepsTime_untilLimit tokens limit (r.requester.clocked now) hstart
      rw [← attemptsBy_append] at hkeeps
      exact hkeeps
    | _ => cases ha

theorem OnTimetable.performAll (h : r.OnTimetable s t) (actions : List ClockedAction) :
    (r.performAll tokens actions).OnTimetable s t := by
  induction actions generalizing r with
  | nil => exact h
  | cons a actions ih => exact ih (h.perform a)

/-- When the clock has been moved, nothing is missing of a sequence that is still under way. -/
theorem OnTimetable.punctual {bound now : Instant}
    (h : (r.perform tokens (.elapse (some bound) now)).OnTimetable s t)
    (hgoing : ¬ ∀ task ∈ (r.perform tokens (.elapse (some bound) now)).requester.tasks,
      task.sequence.id ≠ s.id) {b d : Nat} (hb : b < s.burstsLeft)
    (hd : d < s.timing.datagramsPerBurst) (hlt : s.slot t b d < bound) :
    ∃ x ∈ attemptsBy s.id (r.perform tokens (.elapse (some bound) now)).made,
      x.time = s.slot t b d := by
  have htasks : tasksOf s.id (r.perform tokens (.elapse (some bound) now)).requester.tasks ≠ [] :=
    fun hnil => hgoing (RepeatTask.tasksOf_eq_nil_iff.1 hnil)
  refine h.keeps.punctual htasks (fun u hu due hdue => ?_) hb hd hlt
  have hmem : u ∈ ((r.requester.clocked now).untilLimit tokens (some bound)).tasks :=
    List.mem_of_mem_filter hu
  exact RepeatRun.le_due_of_mem_untilLimit hmem hdue

/-! ## Before a sequence is dispatched and after it has ended -/

/-- Whoever has made an attempt has been dispatched, and each sequence has a number of its own. -/
structure Traceable (r : ClockedRun) : Prop where
  numbered : r.requester.Numbered
  owner_le : ∀ x ∈ r.made, x.owner.1 ≤ r.requester.dispatched

theorem Traceable.perform (h : r.Traceable) (a : ClockedAction) :
    (r.perform tokens a).Traceable := by
  refine ⟨numbered_perform tokens h.numbered a, fun x hx => ?_⟩
  rcases ha : a.isElapse with _ | _
  · rw [(r.starts_perform tokens ha).2] at hx
    exact (h.owner_le x hx).trans (r.dispatched_le_perform tokens a)
  · cases a with
    | elapse limit now =>
      rcases List.mem_append.1 hx with hold | hnew
      · exact h.owner_le x hold
      · have howner := RepeatRun.owner_mem_of_mem_made hnew
        rw [Requester.clocked, List.map_map] at howner
        exact h.numbered.le_dispatched _ howner
    | _ => cases ha

theorem Traceable.performAll (h : r.Traceable) (actions : List ClockedAction) :
    (r.performAll tokens actions).Traceable := by
  induction actions generalizing r with
  | nil => exact h
  | cons a actions ih => exact ih (h.perform a)

theorem traceable_after (tokens : Nat → Token) (codec : Codec) (port : UInt16)
    (timing : RepairTiming) (enabled : Bool) (origin : Instant) (actions : List ClockedAction) :
    (after tokens codec port timing enabled origin actions).Traceable := by
  apply Traceable.performAll
  exact ⟨⟨List.nodup_nil, fun _ hc => absurd hc List.not_mem_nil⟩,
    fun _ hx => absurd hx List.not_mem_nil⟩

/-- A sequence that is dispatched waits for the clock to start. -/
theorem Traceable.waiting (h : r.Traceable) {a : ClockedAction}
    (hs : a.dispatched? r.requester = some s) : (r.perform tokens a).Waiting s := by
  have hid := ClockedAction.id_of_dispatched? hs
  have ha : a.isElapse = false := by
    cases a with
    | elapse limit now => cases hs
    | _ => rfl
  obtain ⟨hstarts, hmade⟩ := r.starts_perform tokens ha
  rw [hs] at hstarts
  refine ⟨?_, ?_, ?_⟩
  · rw [hstarts.dispatched_eq, hid]
    exact Nat.le_refl _
  · have hold : tasksOf s.id r.requester.tasks = [] := by
      refine RepeatTask.tasksOf_eq_nil_iff.2 fun u hu heq => ?_
      have hle : u.sequence.id ≤ r.requester.dispatched :=
        h.numbered.le_dispatched u.sequence.claim (List.mem_map.2 ⟨u, hu, rfl⟩)
      omega
    rw [hstarts.tasks_eq, RepeatTask.tasksOf_append, hold]
    exact RepeatTask.tasksOf_eq_self (List.forall_mem_singleton.2 rfl)
  · rw [hmade, attemptsBy, List.filter_eq_nil_iff.2, List.map_nil]
    intro x hx heq
    have hle := h.owner_le x hx
    rw [beq_iff_eq] at heq
    omega

/-- A sequence that has ended does not come back. -/
theorem ended_perform {id : Nat} (hid : id ≤ r.requester.dispatched)
    (h : tasksOf id r.requester.tasks = []) (a : ClockedAction) :
    tasksOf id (r.perform tokens a).requester.tasks = [] := by
  rcases ha : a.isElapse with _ | _
  · exact (r.tasksOf_perform tokens ha hid).trans h
  · cases a with
    | elapse limit now =>
      refine RepeatTask.tasksOf_eq_nil_iff.2 fun u hu heq => ?_
      have hclaims := (RepeatRun.claims_untilLimit tokens limit (r.requester.clocked now)).subset
        (List.mem_map.2 ⟨u, hu, rfl⟩)
      rw [Requester.clocked, List.map_map] at hclaims
      obtain ⟨v, hv, hclaim⟩ := List.mem_map.1 hclaims
      exact RepeatTask.tasksOf_eq_nil_iff.1 h v hv ((congrArg Prod.fst hclaim).trans heq)
    | _ => cases ha

/-- A sequence has ended once all sequences have been run out. -/
theorem ended_performAll {id : Nat} (hid : id ≤ r.requester.dispatched)
    {actions : List ClockedAction}
    (h : tasksOf id r.requester.tasks = [] ∨ ∃ now, .elapse none now ∈ actions) :
    tasksOf id (r.performAll tokens actions).requester.tasks = [] := by
  induction actions generalizing r with
  | nil =>
    rcases h with hended | ⟨now, hmem⟩
    · exact hended
    · cases hmem
  | cons a actions ih =>
    apply ih (hid.trans (r.dispatched_le_perform tokens a))
    rcases h with hended | ⟨now, hmem⟩
    · exact .inl (ended_perform hid hended a)
    · rcases List.mem_cons.1 hmem with rfl | hlater
      · left
        show tasksOf id (r.requester.runOut tokens now).2.2.tasks = []
        rw [Requester.tasks_runOut]
        rfl
      · exact .inr ⟨now, hlater⟩

/-! ## Runs of a fresh requester -/

section Fresh

variable (codec : Codec) (port : UInt16) (timing : RepairTiming) (enabled : Bool)
  (origin : Instant) {before quiet : List ClockedAction} {a : ClockedAction}

/-- A sequence that has been dispatched waits for the clock. -/
theorem waiting_after
    (hs : a.dispatched? (after tokens codec port timing enabled origin before).requester = some s)
    (hquiet : ∀ b ∈ quiet, b.isElapse = false) :
    (after tokens codec port timing enabled origin (before ++ a :: quiet)).Waiting s := by
  rw [after, performAll_append]
  exact ((traceable_after tokens codec port timing enabled origin before).waiting hs).performAll
    hquiet

/-- A sequence that has been dispatched keeps to the timetable from when the clock is started. -/
theorem onTimetable_after
    (hs : a.dispatched? (after tokens codec port timing enabled origin before).requester = some s)
    (hquiet : ∀ b ∈ quiet, b.isElapse = false) (limit : Option Instant) (t : Instant)
    (later : List ClockedAction) :
    (after tokens codec port timing enabled origin
      (before ++ a :: quiet ++ .elapse limit t :: later)).OnTimetable s t := by
  obtain ⟨-, sender, -, hsequence⟩ := ClockedAction.of_dispatched? hs
  have hfresh : s.datagramsLeft = 0 := congrArg (·.datagramsLeft) hsequence
  have hwaiting := waiting_after codec port timing enabled origin hs hquiet
  rw [after, performAll_append]
  exact (hwaiting.elapse hfresh limit t).performAll later

end Fresh

/-- **A sequence keeps to its timetable.** Whatever is done to a requester, an action dispatches at
most one sequence, for the sender that is known then. Nothing is sent before the clock is started.
If that happens at `t`, the attempts of the sequence are at every later moment a beginning of a
timetable of whole bursts, of which only the last one may be unfinished: datagram `d` of burst `b`
is attempted `b` burst lengths with their pauses and `d` spacings after `t`, and all datagrams of a
burst carry the same three letters. They all go to the port of the requester at the sender that was
known. A sequence that has ended has sent whole bursts, and all that were asked for if it tracks no
flag. When the clock has been moved, a sequence that is still under way has made every attempt that
was due before; when all sequences have been run out, it has ended.

These attempts are what a network is asked to send, and whatever it answers, the requester goes on
in the same way. The network of a receiver hears what its sequences attempt, and apart from the
network the receiver does what it does when every attempt succeeds. -/
theorem timetable_law (tokens : Nat → Token) (codec : Codec) (port : UInt16)
    (timing : RepairTiming) (enabled : Bool) (origin : Instant) :
    let run := after tokens codec port timing enabled origin
    (∀ (before : List ClockedAction) (a : ClockedAction),
      (run (before ++ [a])).requester.dispatched =
        (run before).requester.dispatched +
          (a.dispatched? (run before).requester).toList.length) ∧
    (∀ (before : List ClockedAction) (a : ClockedAction) (quiet : List ClockedAction)
      (limit : Option Instant) (t : Instant) (later : List ClockedAction) (s : RepeatSequence),
      a.dispatched? (run before).requester = some s → (∀ b ∈ quiet, b.isElapse = false) →
      let r := run (before ++ a :: quiet ++ .elapse limit t :: later)
      let made := attemptsBy s.id r.made
      let ended := ∀ task ∈ r.requester.tasks, task.sequence.id ≠ s.id
      s.id = (run before).requester.dispatched + 1 ∧ a.request? = some (s.reason, s.burstsLeft) ∧
        s.timing = timing ∧ (s.tracking = none ↔ s.reason.tracking = none) ∧
        (∃ sender, (run before).requester.health.sender = some sender ∧
          s.target = sender.withPort port) ∧
        attemptsBy s.id (run (before ++ a :: quiet)).made = [] ∧
        r.made.map OwnedAttempt.attempt = r.attempts ∧
        (∃ letters : List Token, letters.length ≤ s.burstsLeft ∧
          made <+: s.bursts t letters ∧ s.bursts t letters.dropLast <+: made ∧
          (ended → made = s.bursts t letters ∧
            (s.tracking = none → letters.length = s.burstsLeft))) ∧
        (∀ x ∈ made, x.datagram.target = s.target ∧ Token.isPayload x.datagram.payload = true) ∧
        (∀ earlier bound now, ClockedAction.elapse limit t :: later =
            earlier ++ [.elapse (some bound) now] → ¬ ended →
          ∀ b < s.burstsLeft, ∀ d < timing.datagramsPerBurst, s.slot t b d < bound →
            ∃ x ∈ made, x.time = s.slot t b d) ∧
        ((∃ now, ClockedAction.elapse none now ∈ .elapse limit t :: later) → ended)) ∧
    (∀ (τ : Type) [RepairTransport τ] (network : τ) (actions : List ClockedAction),
      let sending := SendingRun.after tokens codec port timing enabled origin network actions
      let recorded := SendingRun.after tokens codec port timing enabled origin
        (⟨network, []⟩ : Recorder τ) actions
      recorded.network.heard = (run actions).made.map OwnedAttempt.attempt ∧
        recorded.requester = (run actions).requester ∧
        sending.requester = (run actions).requester ∧
        sending.network = recorded.network.network) ∧
    ∀ (η κ τ θ : Type) [SurfaceAllocator η] [VideoDecoder η] [DisplaySink κ] [RepairTransport τ]
      (network : τ) (commands : List ReceiverCommand),
      (∀ hasRuntime config items (board : η) (sink : κ) (receiver : Receiver η κ (Recorder τ)),
        Receiver.start hasRuntime config items board sink ⟨network, []⟩ = .ok receiver →
        let stage := receiver.session.stage
        let fresh := ReceiverRun.after stage.pool.capacity board stage.monitor items sink []
        let r := commands.foldl Receiver.perform receiver
        let changes := commands.filterMap ReceiverCommand.change?
        fresh.Heard changes r.session ∧
          (r.wait.session.ingest.phase ≠ .stalled → r.wait.session.ingest.phase ≠ .endless →
            fresh.Heard changes r.wait.session)) ∧
      ∀ receiver : Receiver η κ θ,
        let actual := commands.foldl Receiver.perform (receiver.onto network)
        let recorded := commands.foldl Receiver.perform (receiver.onto (⟨network, []⟩ : Recorder τ))
        let answered := commands.foldl Receiver.perform (receiver.onto ({} : Outbox))
        recorded.mapTransport Recorder.outbox = answered ∧
          recorded.wait.mapTransport Recorder.outbox = answered.wait ∧
          recorded.mapTransport Recorder.network = actual ∧
          recorded.wait.mapTransport Recorder.network = actual.wait := by
  intro run
  have hrun : ∀ before actions, run (before ++ actions) = (run before).performAll tokens actions :=
    performAll_append tokens _
  refine ⟨fun before a => ?_, fun before a quiet limit t later s hs hquiet => ?_,
    fun τ _ network actions => ?_, fun η κ τ θ _ _ _ _ network commands => ⟨?_, ?_⟩⟩
  · rw [hrun]
    exact (run before).dispatched_perform tokens a
  · intro r made ended
    obtain ⟨hport, htiming⟩ : (run before).requester.port = port ∧
        (run before).requester.timing = timing := config_performAll tokens _ before
    obtain ⟨hrequest, sender, hsender, hsequence⟩ := ClockedAction.of_dispatched? hs
    have htimed : s.timing = timing := (congrArg (·.timing) hsequence).trans htiming
    have hwaiting : (run (before ++ a :: quiet)).Waiting s :=
      waiting_after codec port timing enabled origin hs hquiet
    have hontime : r.OnTimetable s t :=
      onTimetable_after codec port timing enabled origin hs hquiet limit t later
    obtain ⟨letters, hfew, hmade, hwhole, hended⟩ := hontime.keeps.attempts
    have hr : r = (run (before ++ a :: quiet)).performAll tokens (.elapse limit t :: later) :=
      hrun (before ++ a :: quiet) _
    refine ⟨ClockedAction.id_of_dispatched? hs, hrequest, htimed, ?_, ⟨sender, hsender, ?_⟩,
      hwaiting.made, attempts_performAll tokens rfl _,
      ⟨letters, hfew, hmade, hwhole, fun h => hended (RepeatTask.tasksOf_eq_nil_iff.2 h)⟩,
      fun x hx => RepeatSequence.isPayload_of_mem_bursts (hmade.subset hx),
      fun earlier bound now hsplit hgoing b hb d hd hlt => ?_, fun hout => ?_⟩
    · rw [show s.tracking = _ from congrArg (·.tracking) hsequence]
      exact HealthState.raiseFor_eq_none_iff _ s.reason
    · rw [← hport]
      exact congrArg (·.target) hsequence
    · rw [← htimed] at hd
      have hlast : r = ((run (before ++ a :: quiet)).performAll tokens earlier).perform tokens
          (.elapse (some bound) now) := by
        rw [hr, hsplit, performAll_append]
        rfl
      simp only [made, ended, hlast] at hontime hgoing ⊢
      exact hontime.punctual hgoing hb hd hlt
    · show ∀ task ∈ r.requester.tasks, task.sequence.id ≠ s.id
      rw [hr]
      exact RepeatTask.tasksOf_eq_nil_iff.1 (ended_performAll hwaiting.id_le (.inr hout))
  · intro sending recorded
    have hsending : sending = .onto network (run actions) :=
      SendingRun.after_eq tokens network codec port timing enabled origin actions
    let recorder : Recorder τ := ⟨network, []⟩
    have hrecorded : recorded = .onto recorder (run actions) :=
      SendingRun.after_eq tokens recorder codec port timing enabled origin actions
    have hheard := recorder.sendAll_eq ((run actions).made.map OwnedAttempt.attempt)
    rw [hsending, hrecorded]
    exact ⟨congrArg Recorder.heard hheard, rfl, rfl, (congrArg Recorder.network hheard).symm⟩
  · intro hasRuntime config items board sink receiver hstart stage fresh r changes
    obtain ⟨hheard, hwaited⟩ := ReceiverRun.heard_performAll hstart commands
    exact ⟨hheard, fun hstalled hendless => hwaited (Receiver.isEnded_wait hstalled hendless)⟩
  · intro receiver actual recorded answered
    have hanswered : recorded.mapTransport Recorder.outbox = answered :=
      (Receiver.performAll_mapTransport Recorder.sendsAlike_outbox _ commands).symm
    have hactual : recorded.mapTransport Recorder.network = actual :=
      (Receiver.performAll_mapTransport Recorder.sendsAlike_network _ commands).symm
    refine ⟨hanswered, ?_, hactual, ?_⟩
    · rw [← hanswered, Receiver.wait_mapTransport Recorder.sendsAlike_outbox]
    · rw [← hactual, Receiver.wait_mapTransport Recorder.sendsAlike_network]

/-- A recording request finds another one under way. A third one is for a new sender, and a keyframe
arrives during the second burst. On a radio on which every attempt fails the sequence makes the same
attempts, and so does that of a receiver whose owner makes a request. -/
theorem timetable_law_of_three_requests :
    let known : Net.Endpoint := ⟨.v4 10 5 0 10, 5600⟩
    let other : Net.Endpoint := ⟨.v4 10 5 0 11, 5600⟩
    let before : List ClockedAction := [.setSender known, .request .rtpGap 2 false]
    let quiet : List ClockedAction := [.setSender other, .request .streamUp 2 false]
    let later : List ClockedAction :=
      [.observe [0, 0, 0, 1, 0x26, 0x01, 0xaf, 0x10, 0x42], .elapse none (Duration.ofMillis 500)]
    let actions := before ++ .request .recordStart 3 false :: quiet ++
      .elapse (some (Duration.ofMillis 500)) 0 :: later
    let r := after Token.counting .h265 11223 {} true 0 actions
    let s : RepeatSequence :=
      { id := 2
        reason := .recordStart
        tracking := some (.record, 1)
        target := ⟨.v4 10 5 0 10, 11223⟩
        timing := {}
        burstsLeft := 3 }
    let radio : Recorder Bench.Radio := ⟨{ failing := true }, []⟩
    let sent := (SendingRun.after Token.counting .h265 11223 {} true 0 radio actions).network
    let board : Bench.Board := {}
    let screen : Bench.Screen := {}
    let request : LinkMonitor → LinkMonitor := fun m =>
      let health := { m.requester.health with sender := some known }
      { m with requester := ({ m.requester with health }.request .recordStart 3 false).2 }
    (ClockedAction.dispatched? (after Token.counting .h265 11223 {} true 0 before).requester
        (.request .recordStart 3 false) = some s ∧
      (∀ b ∈ quiet, b.isElapse = false) ∧
      (∃ letters, attemptsBy 2 r.made = s.bursts 0 letters) ∧
      (attemptsBy 2 r.made).map Attempt.time =
        [0, 100, 200, 350, 450, 550].map Duration.ofMillis) ∧
    (sent.heard = r.made.map OwnedAttempt.attempt ∧ sent.network.sent = []) ∧
    ∃ receiver : Receiver Bench.Board Bench.Screen (Recorder Bench.Radio),
      Receiver.start true {} [] board screen radio = .ok receiver ∧
      let stage := receiver.session.stage
      let fresh := ReceiverRun.after stage.pool.capacity board stage.monitor [] screen []
      let waited := (receiver.perform (.modifyMonitor request)).wait
      fresh.Heard [request] waited.session ∧
        waited.session.transport.heard.map Attempt.time =
          [0, 100, 200, 350, 450, 550, 700, 800, 900].map Duration.ofMillis ∧
        waited.session.transport.network.sent = [] := by
  intro known other before quiet later actions r s radio sent board screen request
  have hs : ClockedAction.dispatched? (after Token.counting .h265 11223 {} true 0 before).requester
      (.request .recordStart 3 false) = some s := by decide +kernel
  have hquiet : ∀ b ∈ quiet, b.isElapse = false := by decide
  obtain ⟨-, hsequences, hnetworks, hreceivers⟩ :=
    timetable_law Token.counting .h265 11223 {} true 0
  obtain ⟨-, -, -, -, -, -, -, ⟨letters, -, -, -, hended⟩, -, -, hout⟩ :=
    hsequences before _ quiet (some (Duration.ofMillis 500)) 0 later s hs hquiet
  have hmade : attemptsBy 2 r.made = s.bursts 0 letters :=
    (hended (hout ⟨Duration.ofMillis 500, by simp [later]⟩)).1
  refine ⟨⟨hs, hquiet, ⟨letters, hmade⟩, by cbv⟩, ⟨?_, ?_⟩, ?_⟩
  · exact (hnetworks Bench.Radio { failing := true } actions).1
  · simp only [sent]
    cbv
  · obtain ⟨receiver, hstart, hphase, htimes, hfailed⟩ :
        ∃ receiver : Receiver Bench.Board Bench.Screen (Recorder Bench.Radio),
          Receiver.start true {} [] board screen radio = .ok receiver ∧
            let waited := (receiver.perform (.modifyMonitor request)).wait
            waited.session.ingest.phase = .ended .endOfStream ∧
              waited.session.transport.heard.map Attempt.time =
                [0, 100, 200, 350, 450, 550, 700, 800, 900].map Duration.ofMillis ∧
              waited.session.transport.network.sent = [] := by
      refine ⟨_, rfl, ?_, ?_, ?_⟩
      · cbv
      · cbv
      · cbv
    obtain ⟨hheard, -⟩ := hreceivers Bench.Board Bench.Screen Bench.Radio Bench.Radio
      { failing := true } [.modifyMonitor request]
    obtain ⟨-, hwaited⟩ := hheard true {} [] board screen receiver hstart
    obtain ⟨hstalled, hendless⟩ := Ingest.answered_of_ended hphase
    exact ⟨receiver, hstart, hwaited hstalled hendless, htimes, hfailed⟩

end ClockedRun

end VideoReceiver
