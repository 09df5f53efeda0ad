import VideoReceiver.Proofs.Repair.Clock

/-!
# Requesters on a network

A network answers to every attempt, and a sequence may look at the answer. Here a requester is left
to its sequences on a network, and what the network is asked to send is recorded on the way. Whatever
the network answers, the sequences do what they do when nobody answers.

## Main definitions

- `Recorder`: a network that keeps the attempts made on another one
- `SendingRun`: a requester and the network on which its sequences send

## Main statements

- `SendingRun.after_eq`: the answers do not matter to a requester, and the network is asked to send
  what its sequences attempt
-/

namespace VideoReceiver

variable {τ : Type}

/-- A network that keeps what it is asked to send and leaves it to another one, whose answers it
passes on. -/
structure Recorder (τ : Type) where
  network : τ
  heard : List Attempt := []

namespace Recorder

variable [RepairTransport τ]

instance : RepairTransport (Recorder τ) where
  send r a :=
    let (answer, network) := RepairTransport.send r.network a
    (answer, { network, heard := r.heard ++ [a] })

theorem sendAll_eq (r : Recorder τ) (attempts : List Attempt) :
    RepairTransport.sendAll r attempts =
      { network := RepairTransport.sendAll r.network attempts, heard := r.heard ++ attempts } := by
  induction attempts generalizing r with
  | nil =>
    rw [List.append_nil]
    rfl
  | cons a attempts ih =>
    show RepairTransport.sendAll (RepairTransport.send r a).2 attempts = _
    rw [ih]
    exact congrArg (Recorder.mk _) (List.append_cons r.heard a attempts).symm

end Recorder

/-- A requester and the network on which its sequences send. -/
structure SendingRun (τ : Type) where
  requester : Requester
  network : τ

namespace SendingRun

variable [RepairTransport τ]

/-- Performs an action. When time passes, the sequences send on the network. -/
def perform (tokens : Nat → Token) (r : SendingRun τ) : ClockedAction → SendingRun τ
  | .elapse limit now =>
    let (network, _, requester) := r.requester.runLimitedOn tokens limit now r.network
    { requester, network }
  | a => { r with requester := (ClockedRun.perform tokens { requester := r.requester } a).requester }

/-- What has become of a fresh requester on a network. -/
def after (tokens : Nat → Token) (codec : Codec) (port : UInt16) (timing : RepairTiming)
    (enabled : Bool) (origin : Instant) (network : τ) (actions : List ClockedAction) :
    SendingRun τ :=
  actions.foldl (perform tokens) { requester := .fresh codec port timing enabled origin, network }

/-- A requester whose sequences have been attempting all along to send on a network. -/
def onto (network : τ) (r : ClockedRun) : SendingRun τ where
  requester := r.requester
  network := RepairTransport.sendAll network (r.made.map OwnedAttempt.attempt)

variable (tokens : Nat → Token) (network : τ)

theorem perform_onto (r : ClockedRun) (a : ClockedAction) :
    (onto network r).perform tokens a = onto network (r.perform tokens a) := by
  cases a with
  | elapse limit now =>
    simp only [perform, onto, ClockedRun.perform, Requester.runLimitedOn_eq, List.map_append,
      RepairTransport.sendAll_append, ← Requester.attempts_runLimited]
  | _ => rfl

theorem performAll_onto (r : ClockedRun) (actions : List ClockedAction) :
    actions.foldl (perform tokens) (onto network r) = onto network (r.performAll tokens actions) := by
  induction actions generalizing r with
  | nil => rfl
  | cons a actions ih =>
    rw [List.foldl_cons, perform_onto]
    exact ih _

/-- Whatever the network answers, the requester does what it does when nobody answers, and the
network is asked to send what the sequences attempt. -/
theorem after_eq (codec : Codec) (port : UInt16) (timing : RepairTiming) (enabled : Bool)
    (origin : Instant) (actions : List ClockedAction) :
    after tokens codec port timing enabled origin network actions =
      onto network (ClockedRun.after tokens codec port timing enabled origin actions) :=
  performAll_onto tokens network { requester := .fresh codec port timing enabled origin } actions

end SendingRun

end VideoReceiver
