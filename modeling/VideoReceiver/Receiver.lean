import VideoReceiver.Display
import VideoReceiver.Session

/-!
# The receiver

A receiver is a receiving session together with the display stage.

## Main definitions

- `Receiver`, `Receiver.start`
- `Receiver.advance`, `Receiver.advanceTo`: letting time pass
- `Receiver.wait`, `Receiver.shutdown`, `Receiver.abandon`: the three ways to end it
-/

namespace VideoReceiver

/-- A running receiver over a board, a display and a network. -/
structure Receiver (η κ τ : Type) where
  session : Session η τ
  sink : κ
  presented : DisplayStats := {}

namespace Receiver

variable {η κ τ : Type}

/-- Starts a receiver at instant zero with the default timing. -/
def start (hasRuntime : Bool) (config : ReceiverConfig) (items : List SourceItem) (hardware : η)
    (sink : κ) (transport : τ) : Except ReceiverError (Receiver η κ τ) := do
  let requester ← Requester.create hasRuntime config {}
  let stage : DecodeStage η := { hardware, monitor := { requester } }
  return { session := .start stage items transport, sink }

/-- The published state of the link. -/
def linkState (r : Receiver η κ τ) : LinkState := r.session.stage.monitor.link.state

/-- Whether the receiver has ended or has been asked to. -/
def isFinished (r : Receiver η κ τ) : Bool := r.session.cancelled

section Display

variable [DisplaySink κ]

/-- Lets the display stage present the pending frame, if there is one. -/
def present (r : Receiver η κ τ) : Receiver η κ τ :=
  let mailbox := r.session.stage.mailbox
  let display : DisplayStage κ := { sink := r.sink, mailbox, stats := r.presented }
  let display := (display.run (fun _ m => m) (fun _ => r.session.now) 1).stage
  { session := { r.session with stage := { r.session.stage with mailbox := display.mailbox } }
    sink := display.sink
    presented := display.stats }

end Display

variable [SurfaceAllocator η] [VideoDecoder η] [RepairTransport τ] [DisplaySink κ]

/-- Moves the clock to the instant `target`. -/
def advanceTo (target : Instant) (r : Receiver η κ τ) : Receiver η κ τ :=
  { r with session := r.session.advanceTo target }.present

/-- Moves the clock forward. -/
def advance (d : Duration) (r : Receiver η κ τ) : Receiver η κ τ :=
  r.advanceTo (r.session.now + d)

/-- Waits until the ingest loop, the display and every repeat sequence have ended. -/
def wait (r : Receiver η κ τ) : Receiver η κ τ :=
  let session := r.session.joinIngest
  let stage := { session.stage with mailbox := session.stage.mailbox.finish }
  let r := { r with session := { session with stage } }.present
  { r with session := r.session.shutdown }

/-- Cancels the receiver and waits until everything has ended. -/
def shutdown (r : Receiver η κ τ) : Receiver η κ τ := { r with session := r.session.cancel }.wait

/-- Cancels the receiver and leaves it to itself: nothing is waited for. -/
def abandon (r : Receiver η κ τ) : Receiver η κ τ :=
  let session := r.session.cancel
  let stage := { session.stage with mailbox := session.stage.mailbox.finish }
  { r with session := { session with stage } }

end Receiver

end VideoReceiver
