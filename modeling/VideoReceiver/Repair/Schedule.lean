import VideoReceiver.Repair.Sequence

/-!
# Running repeat sequences

Any number of repeat sequences may be under way at once. They are resumed in the order in which
their pauses end; pauses that end together are served in the order in which they began.

## Main definitions

- `RepeatTask`: a sequence with the instant at which it goes on
- `RepeatTask.takeDue`: the task that goes on next
- `RepeatRun`, `RepeatRun.untilLimit`: running the tasks on the clock

## Assumptions

- *Exact timer*: a pause lasts exactly as long as it should, to the nanosecond. A timer that wakes
  up at whole milliseconds only does the same as long as all pauses are whole milliseconds.
-/

namespace VideoReceiver

/-- A repeat sequence under way. -/
structure RepeatTask where
  sequence : RepeatSequence
  /-- When the sequence goes on; `none` if it has not been started yet. -/
  due : Option Instant := none
  deriving DecidableEq, Repr, Inhabited

/-- An attempt to send a datagram. -/
structure Attempt where
  time : Instant
  datagram : Datagram
  deriving DecidableEq, Repr, Inhabited

namespace RepeatTask

/-- A bound on how often a task can be resumed. -/
def work (t : RepeatTask) : Nat := t.sequence.work + 1

/-- A bound on how often the tasks of a list can be resumed. -/
def totalWork (tasks : List RepeatTask) : Nat := tasks.foldr (fun t n => t.work + n) 0

/-- The work of a task that joins the others at the end adds to theirs. -/
theorem totalWork_append_singleton (tasks : List RepeatTask) (t : RepeatTask) :
    totalWork (tasks ++ [t]) = totalWork tasks + t.work := by
  induction tasks with
  | nil => simp [totalWork]
  | cons u us ih =>
    simp only [totalWork, List.cons_append, List.foldr_cons] at ih ⊢
    omega

/-- Starts a task that has not been started. -/
def start (now : Instant) (t : RepeatTask) : RepeatTask :=
  { t with due := some (t.due.getD now) }

/-- Takes out the started task that goes on first, the earliest in the list of several, together
with its instant. -/
def takeFirst : List RepeatTask → Option (Instant × RepeatTask × List RepeatTask)
  | [] => none
  | t :: rest =>
    match t.due, takeFirst rest with
    | none, none => none
    | none, some (at', t', rest') => some (at', t', t :: rest')
    | some due, none => some (due, t, rest)
    | some due, some (at', t', rest') =>
      if due ≤ at' then some (due, t, rest) else some (at', t', t :: rest')

theorem totalWork_of_takeFirst {tasks rest : List RepeatTask} {time : Instant} {t : RepeatTask}
    (h : takeFirst tasks = some (time, t, rest)) : totalWork rest + t.work = totalWork tasks := by
  induction tasks generalizing time t rest with
  | nil => simp [takeFirst] at h
  | cons u us ih =>
    simp only [takeFirst] at h
    split at h
    · simp at h
    · rename_i heq
      have := ih heq
      simp only [Option.some.injEq, Prod.mk.injEq] at h
      obtain ⟨_, rfl, rfl⟩ := h
      simp only [totalWork, List.foldr_cons] at this ⊢
      omega
    · simp only [Option.some.injEq, Prod.mk.injEq] at h
      obtain ⟨_, rfl, rfl⟩ := h
      simp only [totalWork, List.foldr_cons]
      omega
    · rename_i heq
      have := ih heq
      split at h
      · simp only [Option.some.injEq, Prod.mk.injEq] at h
        obtain ⟨_, rfl, rfl⟩ := h
        simp only [totalWork, List.foldr_cons]
        omega
      · simp only [Option.some.injEq, Prod.mk.injEq] at h
        obtain ⟨_, rfl, rfl⟩ := h
        simp only [totalWork, List.foldr_cons] at this ⊢
        omega

/-- Takes out the task that goes on next, if that is before `limit`; no limit means at any time. -/
def takeDue (limit : Option Instant) (tasks : List RepeatTask) :
    Option (Instant × RepeatTask × List RepeatTask) :=
  match takeFirst tasks with
  | some (time, t, rest) =>
    if limit.all (time < ·) then some (time, t, rest) else none
  | none => none

theorem totalWork_of_takeDue {limit : Option Instant} {tasks rest : List RepeatTask}
    {time : Instant} {t : RepeatTask} (h : takeDue limit tasks = some (time, t, rest)) :
    totalWork rest + t.work = totalWork tasks := by
  unfold takeDue at h
  split at h
  · rename_i heq
    split at h
    · simp only [Option.some.injEq, Prod.mk.injEq] at h
      obtain ⟨rfl, rfl, rfl⟩ := h
      exact totalWork_of_takeFirst heq
    · simp at h
  · simp at h

end RepeatTask

/-- The repeat sequences of a receiver on the clock. -/
structure RepeatRun where
  now : Instant
  health : HealthState
  /-- How many tokens have been drawn from the supply. -/
  drawn : Nat
  /-- The sequences under way, in the order in which their pauses began. -/
  tasks : List RepeatTask
  /-- What has been sent, in order. -/
  attempts : List Attempt

namespace RepeatRun

/-- Notes what a task has done at the given instant. A sequence that pauses again goes behind the
others; by the assumption of an exact timer it goes on when its pause is over, not later. -/
def note (r : RepeatRun) (time : Instant) (rest : List RepeatTask) (p : RepeatSequence.Progress) :
    RepeatRun where
  now := time
  health := p.health
  drawn := p.drawn
  tasks :=
    match p.next with
    | some (pause, s) => rest ++ [⟨s, some (time + pause)⟩]
    | none => rest
  attempts := r.attempts ++ p.sent.map (Attempt.mk time)

/-- Resumes a task at the given instant. -/
def resume (tokens : Nat → Token) (r : RepeatRun) (time : Instant) (t : RepeatTask)
    (rest : List RepeatTask) : RepeatRun :=
  r.note time rest (t.sequence.resume tokens r.drawn r.health)

theorem totalWork_resume_lt (tokens : Nat → Token) (r : RepeatRun) (time : Instant) (t : RepeatTask)
    (rest : List RepeatTask) :
    RepeatTask.totalWork (r.resume tokens time t rest).tasks
      < RepeatTask.totalWork rest + t.work := by
  unfold resume note
  dsimp only
  split
  · rename_i pause s heq
    have := RepeatSequence.work_lt_of_resume heq
    rw [RepeatTask.totalWork_append_singleton]
    simp only [RepeatTask.work]
    omega
  · simp [RepeatTask.work]

/-- Runs the started tasks as long as one goes on before `limit`. The clock stops at the last one
that went on. -/
def untilLimit (tokens : Nat → Token) (limit : Option Instant) (r : RepeatRun) : RepeatRun :=
  match _h : RepeatTask.takeDue limit r.tasks with
  | some (time, t, rest) => untilLimit tokens limit (r.resume tokens time t rest)
  | none => r
termination_by RepeatTask.totalWork r.tasks
decreasing_by
  have := RepeatTask.totalWork_of_takeDue _h
  have := totalWork_resume_lt tokens r time t rest
  omega

end RepeatRun

end VideoReceiver
