import VideoReceiver.Picture
import VideoReceiver.Time

/-!
# The mailbox between decoder and display

The decode stage never waits for the display: posting a frame replaces one that has not been taken
yet, so the display always presents the newest picture, and a slow display drops frames instead of
adding latency.

## Main definitions

- `PendingFrame`, `Delivery`: what is posted and what a consumer receives
- `Mailbox`: one slot, an end-of-stream mark, and the counters of posted and dropped frames
- `Mailbox.post`, `Mailbox.take?`, `Mailbox.discard`, `Mailbox.finish`: the operations
- `Mailbox.takeWaiting`: a consumer that waits while another party acts
- `MailboxAction`, `Mailbox.act`, `Mailbox.actAll`: the operations as data
-/

namespace VideoReceiver

/-- A decoded picture on its way to the display. -/
structure PendingFrame where
  surface : SurfaceId
  decodedAt : Instant
  deriving DecidableEq, Repr, Inhabited

/-- What a consumer of the mailbox receives. -/
inductive Delivery where
  | frame (f : PendingFrame)
  | endOfStream
  deriving DecidableEq, Repr

/-- A slot for one frame. The counters have no range here; 64-bit ones agree with them as long as
they are below `2 ^ 64`. -/
structure Mailbox where
  /-- The frame that waits to be taken. -/
  pending : Option PendingFrame := none
  /-- Whether the end of the stream has been signalled. -/
  finished : Bool := false
  /-- How many frames have been posted. -/
  posted : Nat := 0
  /-- How many of them were replaced or discarded before anyone took them. -/
  dropped : Nat := 0
  deriving DecidableEq, Repr

namespace Mailbox

instance : Inhabited Mailbox := ⟨{}⟩

/-- Posts a frame, in place of one that is still waiting. -/
def post (m : Mailbox) (f : PendingFrame) : Mailbox :=
  { m with
    pending := some f
    posted := m.posted + 1
    dropped := if m.pending.isSome then m.dropped + 1 else m.dropped }

/-- Takes the pending frame, or learns of the end of the stream; `none` means that a consumer
would have to wait. -/
def take? (m : Mailbox) : Option Delivery × Mailbox :=
  match m.pending with
  | some f => (some (.frame f), { m with pending := none })
  | none => (if m.finished then some .endOfStream else none, m)

/-- Drops the pending frame and returns it. -/
def discard (m : Mailbox) : Option PendingFrame × Mailbox :=
  match m.pending with
  | some f => (some f, { m with pending := none, dropped := m.dropped + 1 })
  | none => (none, m)

/-- Signals the end of the stream. A pending frame can still be taken. -/
def finish (m : Mailbox) : Mailbox := { m with finished := true }

/-- A consumer that waits for a delivery while another party performs `act`: it is served at once
if there is something to deliver, and otherwise after `act`. -/
def takeWaiting (m : Mailbox) (act : Mailbox → Mailbox) : Option Delivery × Mailbox :=
  match m.take? with
  | (some d, m) => (some d, act m)
  | (none, m) => (act m).take?

end Mailbox

/-- What a party does to a mailbox. A consumer that finds nothing goes on waiting. -/
inductive MailboxAction where
  | post (f : PendingFrame)
  | discard
  | finish
  | take
  deriving DecidableEq, Repr

namespace Mailbox

/-- Performs an action. -/
def act (m : Mailbox) : MailboxAction → Mailbox
  | .post f => m.post f
  | .discard => m.discard.2
  | .finish => m.finish
  | .take => m.take?.2

/-- Performs actions one after the other. -/
def actAll (m : Mailbox) (actions : List MailboxAction) : Mailbox := actions.foldl act m

end Mailbox

end VideoReceiver
