import VideoReceiver.Error
import VideoReceiver.Repair.Requester

/-!
# Sending keyframe request datagrams

On a network every datagram of a repeat sequence gets an answer. A failure is reported and nothing
else: the datagram is not sent again, and the sequence goes on as if it had been sent.

## Main definitions

- `RepairTransport`: a network that datagrams are sent on
- `RepeatSequence.stepOn`, `RepeatSequence.resumeOn`: a sequence on a network
- `RepeatRun.untilLimitOn`, `Requester.runLimitedOn`: any number of sequences on a network
-/

namespace VideoReceiver

/-- A network that datagrams are sent on. -/
class RepairTransport (τ : Type) where
  send : τ → Attempt → Except ReceiverError Unit × τ

variable {τ : Type} [RepairTransport τ]

/-- What becomes of a network on which several attempts are made in order, whatever it answers. -/
def RepairTransport.sendAll (network : τ) (attempts : List Attempt) : τ :=
  attempts.foldl (fun network a => (send network a).2) network

theorem RepairTransport.sendAll_append (network : τ) (attempts later : List Attempt) :
    sendAll network (attempts ++ later) = sendAll (sendAll network attempts) later :=
  List.foldl_append

namespace RepeatSequence

/-- The sequence once the network has answered to the first of the datagrams that are left. -/
def answered (s : RepeatSequence) : Except ReceiverError Unit → RepeatSequence
  | .ok () => { s with datagramsLeft := s.datagramsLeft - 1 }
  | .error _ => { s with datagramsLeft := s.datagramsLeft - 1 }

/-- A failure is no reason to stop, or to send a datagram again. -/
theorem answered_eq (s : RepeatSequence) (answer : Except ReceiverError Unit) :
    s.answered answer = { s with datagramsLeft := s.datagramsLeft - 1 } := by
  rcases answer with e | ⟨⟩ <;> rfl

/-- Between two bursts nothing is sent. -/
theorem sent_step_of_datagramsLeft {s : RepeatSequence} (h : s.datagramsLeft = 0)
    (tokens : Nat → Token) (drawn : Nat) (health : HealthState) :
    (s.step tokens drawn health).sent = [] := by
  unfold step
  rw [h]
  rcases s.burstsLeft with _ | b
  · rfl
  · dsimp only
    split <;> rfl

/-- One step on a network. If datagrams of the current burst are left, the first one is sent, and
the answer says how the sequence goes on. -/
def stepOn (tokens : Nat → Token) (time : Instant) (drawn : Nat) (health : HealthState)
    (network : τ) (s : RepeatSequence) : Progress × τ :=
  if s.datagramsLeft = 0 then (s.step tokens drawn health, network)
  else
    let datagram : Datagram := ⟨s.target, s.token.payload⟩
    let reply := RepairTransport.send network ⟨time, datagram⟩
    let s' := s.answered reply.1
    ({ sent := [datagram], health, drawn, next := some (s'.pause, s') }, reply.2)

/-- Whatever the network answers, a sequence makes the step that it would make without one, and the
network is asked to send what the step sends. -/
theorem stepOn_eq (tokens : Nat → Token) (time : Instant) (drawn : Nat) (health : HealthState)
    (network : τ) (s : RepeatSequence) :
    s.stepOn tokens time drawn health network =
      (s.step tokens drawn health,
        RepairTransport.sendAll network
          ((s.step tokens drawn health).sent.map (Attempt.mk time))) := by
  unfold stepOn
  split
  · next hd =>
    rw [sent_step_of_datagramsLeft hd tokens drawn health]
    rfl
  · next hd =>
    obtain ⟨d, hd⟩ := Nat.exists_eq_succ_of_ne_zero hd
    have hstep : s.step tokens drawn health =
        { sent := [⟨s.target, s.token.payload⟩], health, drawn,
          next := some (pause { s with datagramsLeft := d }, { s with datagramsLeft := d }) } := by
      unfold step
      rw [hd]
    dsimp only
    rw [hstep, answered_eq, hd]
    rfl

/-- Takes steps on a network until the sequence pauses or ends. -/
def resumeOn (tokens : Nat → Token) (time : Instant) (drawn : Nat) (health : HealthState)
    (network : τ) (s : RepeatSequence) : Progress × τ :=
  match _h : (s.stepOn tokens time drawn health network).1.next with
  | some (0, s') =>
    let o := s.stepOn tokens time drawn health network
    let r := resumeOn tokens time o.1.drawn o.1.health o.2 s'
    ({ r.1 with sent := o.1.sent ++ r.1.sent }, r.2)
  | _ => s.stepOn tokens time drawn health network
termination_by s.work
decreasing_by
  rw [stepOn_eq] at _h
  exact work_lt_of_step _h

theorem resumeOn_eq (tokens : Nat → Token) (time : Instant) (drawn : Nat) (health : HealthState)
    (network : τ) (s : RepeatSequence) :
    s.resumeOn tokens time drawn health network =
      (s.resume tokens drawn health,
        RepairTransport.sendAll network
          ((s.resume tokens drawn health).sent.map (Attempt.mk time))) := by
  fun_induction resumeOn tokens time drawn health network s with
  | case1 drawn health network s s' hnext o r ih =>
    simp only [o, r, stepOn_eq] at hnext ih ⊢
    rw [resume]
    split
    · next s'' hnext' =>
      rw [hnext] at hnext'
      cases hnext'
      rw [ih]
      simp only [List.map_append, RepairTransport.sendAll_append]
    · next hnone => exact absurd hnext (hnone s')
  | case2 drawn health network s hnext =>
    rw [stepOn_eq] at hnext ⊢
    rw [resume]
    split
    · next s' hnext' => exact absurd hnext' (hnext s')
    · rfl

end RepeatSequence

namespace RepeatRun

/-- Resumes a task at the given instant on a network. -/
def resumeOn (tokens : Nat → Token) (network : τ) (r : RepeatRun) (time : Instant) (t : RepeatTask)
    (rest : List RepeatTask) : RepeatRun × τ :=
  let (p, network) := t.sequence.resumeOn tokens time r.drawn r.health network
  (r.note time rest p, network)

theorem resumeOn_eq (tokens : Nat → Token) (network : τ) (r : RepeatRun) (time : Instant)
    (t : RepeatTask) (rest : List RepeatTask) :
    r.resumeOn tokens network time t rest =
      (r.resume tokens time t rest,
        RepairTransport.sendAll network
          ((t.sequence.resume tokens r.drawn r.health).sent.map (Attempt.mk time))) := by
  rw [resumeOn, RepeatSequence.resumeOn_eq]
  rfl

/-- Runs the started tasks on a network as long as one goes on before `limit`. -/
def untilLimitOn (tokens : Nat → Token) (limit : Option Instant) (network : τ) (r : RepeatRun) :
    RepeatRun × τ :=
  match _h : RepeatTask.takeDue limit r.tasks with
  | some (time, t, rest) =>
    let o := r.resumeOn tokens network time t rest
    untilLimitOn tokens limit o.2 o.1
  | none => (r, network)
termination_by RepeatTask.totalWork r.tasks
decreasing_by
  have := RepeatTask.totalWork_of_takeDue _h
  have := totalWork_resume_lt tokens r time t rest
  rw [resumeOn_eq]
  dsimp only
  omega

end RepeatRun

namespace Requester

/-- Lets the sequences run on a network as long as one goes on before `limit`. Returns the network
and the time at which the last one went on. -/
def runLimitedOn (tokens : Nat → Token) (limit : Option Instant) (now : Instant) (network : τ)
    (r : Requester) : τ × Instant × Requester :=
  let (run, network) := (r.clocked now).untilLimitOn tokens limit network
  (network, run.now, r.resumed run)

end Requester

end VideoReceiver
