import VideoReceiver.Config.Timing
import VideoReceiver.Health.State
import VideoReceiver.Repair.Token

/-!
# Repeat sequences

A keyframe request is repeated: it is sent in bursts of datagrams, with a pause between the bursts
and a shorter one between the datagrams of a burst. Before each burst the sequence looks whether
its request has been answered, and after the last one it gives up.

## Main definitions

- `RepeatSequence`: what is still to be sent
- `RepeatSequence.step`: the next look, datagram or end
- `RepeatSequence.resume`: all steps up to the next pause
-/

namespace VideoReceiver

/-- A datagram on its way to the sender of the stream. -/
structure Datagram where
  target : Net.Endpoint
  payload : Bytes
  deriving DecidableEq, Repr, Inhabited

/-- A request that is being repeated. -/
structure RepeatSequence where
  id : Nat
  reason : RepairReason
  /-- The flag that the request raised, with the generation of that raise. -/
  tracking : Option (PendingFlag × Nat)
  target : Net.Endpoint
  timing : RepairTiming
  /-- Bursts that have not begun. -/
  burstsLeft : Nat
  /-- Datagrams of the current burst that have not been sent. -/
  datagramsLeft : Nat := 0
  /-- The token of the current burst. -/
  token : Token := default
  deriving DecidableEq, Repr

namespace RepeatSequence

instance : Inhabited RepeatSequence :=
  ⟨{ id := 0
     reason := .integrity
     tracking := none
     target := default
     timing := {}
     burstsLeft := 0 }⟩

/-- The pause between two bursts. -/
def gap (s : RepeatSequence) : Duration :=
  if s.reason.isRecording then s.timing.recordBurstGap else s.timing.burstGap

/-- The pause before what comes next, once a datagram has been sent or an empty burst has passed.
There is none before giving up. -/
def pause (s : RepeatSequence) : Duration :=
  if 0 < s.datagramsLeft then s.timing.datagramSpacing
  else if 0 < s.burstsLeft then s.gap
  else 0

/-- Whether the sequence's request no longer waits. A request that raised no flag always does. -/
def isAnswered (s : RepeatSequence) (health : HealthState) : Bool :=
  match s.tracking with
  | some (flag, generation) => !health.isAwaiting flag generation
  | none => false

/-- Giving up: the sequence lowers its own flag. -/
def giveUp (s : RepeatSequence) (health : HealthState) : HealthState :=
  match s.tracking with
  | some (flag, generation) => health.withdraw flag generation
  | none => health

/-- What one step, or all steps up to a pause, have done. -/
structure Progress where
  /-- The datagrams sent, in order. -/
  sent : List Datagram
  health : HealthState
  /-- How many tokens have been drawn from the supply. -/
  drawn : Nat
  /-- The pause that follows and the rest of the sequence; `none` once it has ended. -/
  next : Option (Duration × RepeatSequence)

/-- One step: send the next datagram of the current burst, or begin a burst if the request still
waits, or give up after the last one. -/
def step (tokens : Nat → Token) (drawn : Nat) (health : HealthState) (s : RepeatSequence) :
    Progress :=
  match s.datagramsLeft, s.burstsLeft with
  | d + 1, _ =>
    let s' := { s with datagramsLeft := d }
    { sent := [⟨s.target, s.token.payload⟩], health, drawn, next := some (s'.pause, s') }
  | 0, b + 1 =>
    if s.isAnswered health then { sent := [], health, drawn, next := none }
    else
      let n := s.timing.datagramsPerBurst
      let s' := { s with burstsLeft := b, datagramsLeft := n, token := tokens drawn }
      { sent := [], health, drawn := drawn + 1, next := some (if n = 0 then s'.pause else 0, s') }
  | 0, 0 => { sent := [], health := s.giveUp health, drawn, next := none }

/-- How many steps are left before the sequence gives up. -/
def work (s : RepeatSequence) : Nat :=
  s.burstsLeft * (s.timing.datagramsPerBurst + 1) + s.datagramsLeft

theorem work_lt_of_step {tokens : Nat → Token} {drawn : Nat} {health : HealthState}
    {s s' : RepeatSequence} {p : Duration}
    (h : (s.step tokens drawn health).next = some (p, s')) : s'.work < s.work := by
  unfold step at h
  split at h
  · rename_i d _ hd
    simp only [Option.some.injEq, Prod.mk.injEq] at h
    obtain ⟨_, rfl⟩ := h
    simp only [work, hd]
    omega
  · rename_i b hd hb
    split at h
    · simp at h
    · simp only [Option.some.injEq, Prod.mk.injEq] at h
      obtain ⟨_, rfl⟩ := h
      simp only [work, hd, hb, Nat.succ_mul]
      omega
  · simp at h

/-- Takes steps until the sequence pauses or ends. A pause of no length is none. -/
def resume (tokens : Nat → Token) (drawn : Nat) (health : HealthState) (s : RepeatSequence) :
    Progress :=
  match _h : (s.step tokens drawn health).next with
  | some (0, s') =>
    let o := s.step tokens drawn health
    let r := resume tokens o.drawn o.health s'
    { r with sent := o.sent ++ r.sent }
  | _ => s.step tokens drawn health
termination_by s.work
decreasing_by exact work_lt_of_step _h

theorem work_lt_of_resume {tokens : Nat → Token} {drawn : Nat} {health : HealthState}
    {s s' : RepeatSequence} {p : Duration}
    (h : (s.resume tokens drawn health).next = some (p, s')) : s'.work < s.work := by
  fun_induction resume tokens drawn health s with
  | case1 drawn health s s'' hs o r ih => exact Nat.lt_trans (ih h) (work_lt_of_step hs)
  | case2 drawn health s hs => exact work_lt_of_step h

end RepeatSequence

end VideoReceiver
