import VideoReceiver.AnnexB
import VideoReceiver.Config.Settings
import VideoReceiver.Repair.Schedule

/-!
# The keyframe requester

The requester asks the sender of the stream for a keyframe and recognises the keyframe when it
arrives. Every request that finds a sender starts a repeat sequence of its own.

## Main definitions

- `Requester`: configuration, kill-switch, and the sequences under way
- `Requester.request`, `Requester.retryDeferred`: making a request
- `Requester.observe`: looking for the keyframe in an access unit
- `Requester.runLimited`, `Requester.runOut`: letting time pass for the sequences
-/

namespace VideoReceiver

/-- What became of a request. -/
inductive RequestOutcome where
  | disabled
  | deferred
  | noSender
  | dispatched
  deriving DecidableEq, Repr

/-- Makes keyframe requests. -/
structure Requester where
  health : HealthState := {}
  codec : Codec := .h265
  /-- The port of the sender that requests go to. -/
  port : UInt16 := 11223
  timing : RepairTiming := {}
  /-- The kill-switch. -/
  enabled : Bool := true
  /-- How many sequences have been dispatched. -/
  dispatched : Nat := 0
  /-- The sequences under way. -/
  tasks : List RepeatTask := []
  /-- How many burst tokens have been drawn. -/
  drawn : Nat := 0
  deriving DecidableEq, Repr

namespace Requester

instance : Inhabited Requester := ⟨{}⟩

/-- The requester of a configuration. Its sequences run in the background, so there has to be a
runtime that runs them. -/
def create (hasRuntime : Bool) (config : ReceiverConfig) (health : HealthState) :
    Except ReceiverError Requester :=
  if hasRuntime then
    .ok
      { health
        codec := config.codec
        port := config.repairPort
        enabled := config.keyframeRequests }
  else .error (.noRuntime "KeyframeRequester::new")

/-- Makes a request that is repeated `repeats` times. The flag of the reason is raised even if no
sender is known; such a request is deferred if that is allowed, and lost otherwise. -/
def request (r : Requester) (reason : RepairReason) (repeats : Nat) (allowDeferred : Bool) :
    RequestOutcome × Requester :=
  if !r.enabled then (.disabled, r)
  else
    let (tracking, health) :=
      match reason.tracking with
      | some flag =>
        let (generation, health) := r.health.raise flag
        (some (flag, generation), health)
      | none => (none, r.health)
    match health.sender with
    | none =>
      if allowDeferred then (.deferred, { r with health := { health with recordDeferred := true } })
      else (.noSender, { r with health })
    | some sender =>
      let sequence : RepeatSequence :=
        { id := r.dispatched + 1
          reason
          tracking
          target := sender.withPort r.port
          timing := r.timing
          burstsLeft := repeats }
      (.dispatched,
        { r with
          health
          dispatched := r.dispatched + 1
          tasks := r.tasks ++ [{ sequence := sequence }] })

/-- Makes a deferred recording request again, if there is one. -/
def retryDeferred (r : Requester) (repeats : Nat) : Option RequestOutcome × Requester :=
  if r.enabled && r.health.recordDeferred then
    let r := { r with health := { r.health with recordDeferred := false } }
    let (outcome, r) := r.request .recordStartDeferred repeats false
    (some outcome, r)
  else (none, r)

/-- Looks for a keyframe in the data of an access unit if one is awaited, and lowers the flags
that it confirms. A confirmed recording is no longer deferred. All this is taken as one action: no
request and no sequence comes between the look at the flags and their lowering. -/
def observe (r : Requester) (data : Bytes) : Option UInt8 × Requester :=
  if r.enabled && (r.health.isPending .stream || r.health.isPending .record) then
    match AnnexB.findKeyframe r.codec data with
    | none => (none, r)
    | some nalType =>
      let (_, health) := r.health.confirm .stream
      let (recorded, health) := health.confirm .record
      let health := if recorded then { health with recordDeferred := false } else health
      (some nalType, { r with health })
  else (none, r)

/-- The sequences of a requester on the clock; those that have not been started start at `now`. -/
def clocked (now : Instant) (r : Requester) : RepeatRun :=
  { now, health := r.health, drawn := r.drawn, tasks := r.tasks.map (.start now), attempts := [] }

/-- The requester once its sequences have run. -/
def resumed (r : Requester) (run : RepeatRun) : Requester :=
  { r with health := run.health, drawn := run.drawn, tasks := run.tasks }

/-- Lets the sequences run on the clock as long as one goes on before `limit`. Returns what was
sent and the time at which the last one went on. -/
def runLimited (tokens : Nat → Token) (limit : Option Instant) (now : Instant) (r : Requester) :
    List Attempt × Instant × Requester :=
  let run := (r.clocked now).untilLimit tokens limit
  (run.attempts, run.now, r.resumed run)

/-- Lets the sequences run until none is under way. Returns what was sent and the time at which
the last one ended. -/
def runOut (tokens : Nat → Token) (now : Instant) (r : Requester) :
    List Attempt × Instant × Requester :=
  r.runLimited tokens none now

/-- The diagnostic text of a requester. -/
def debugText (r : Requester) : String :=
  "KeyframeRequester \x7b codec: " ++ r.codec.debugName ++ ", port: " ++ Nat.repr r.port.toNat
    ++ ", enabled: " ++ (if r.enabled then "true" else "false")
    ++ ", dispatched: " ++ Nat.repr r.dispatched
    ++ ", in_flight: " ++ Nat.repr r.tasks.length ++ " \x7d"

end Requester

end VideoReceiver
