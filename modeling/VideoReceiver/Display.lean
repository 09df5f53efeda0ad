import VideoReceiver.Hardware
import VideoReceiver.Mailbox

/-!
# The display stage

The display stage takes frames from the mailbox and commits them to the display, until the stream
ends. While a commit runs, other parties may use the mailbox.

## Main definitions

- `DisplayStats`, `DisplayStats.meanLatency`
- `DisplayStage`: the display, the mailbox, and what has been presented
- `DisplayStage.present`: one frame; `DisplayStage.run`: all of them
-/

namespace VideoReceiver

/-- The name of the thread that presents frames. -/
def displayThreadName : String := "fpv-display"

/-- Counters of the display stage. The latency of a frame is the time from its decode timestamp to
its being taken. The counters have no range here; 64-bit ones agree with them as long as they are
below `2 ^ 64`. -/
structure DisplayStats where
  presented : Nat := 0
  commitErrors : Nat := 0
  maxLatency : Duration := 0
  totalLatency : Duration := 0
  deriving DecidableEq, Repr

namespace DisplayStats

instance : Inhabited DisplayStats := ⟨{}⟩

/-- The mean latency of the presented frames, rounded down; zero if there is none, or if there are
too many to count in 32 bits. -/
def meanLatency (s : DisplayStats) : Duration :=
  if s.presented < 0x100000000 then s.totalLatency / s.presented else 0

/-- Counts a commit. Only frames that were presented count towards the latency. -/
def record (s : DisplayStats) (latency : Duration) : Except ReceiverError Unit → DisplayStats
  | .ok () =>
    { s with
      presented := s.presented + 1
      totalLatency := s.totalLatency + latency
      maxLatency := max s.maxLatency latency }
  | .error _ => { s with commitErrors := s.commitErrors + 1 }

end DisplayStats

/-- The display stage over a display in state `sink`. -/
structure DisplayStage (κ : Type) where
  sink : κ
  mailbox : Mailbox := {}
  stats : DisplayStats := {}

/-- What the display stage can do next. -/
inductive DisplayProgress (κ : Type) where
  /-- A frame has been committed. -/
  | presented (stage : DisplayStage κ)
  /-- There is nothing to take yet. -/
  | waiting (stage : DisplayStage κ)
  /-- The stream has ended. -/
  | ended (stage : DisplayStage κ)

namespace DisplayStage

variable {κ : Type} [DisplaySink κ]

/-- Takes the next frame, if there is one, and commits it. `meanwhile` is what other parties do to
the mailbox while the commit runs, given the state of the display after it. -/
def present (meanwhile : κ → Mailbox → Mailbox) (now : Instant) (s : DisplayStage κ) :
    DisplayProgress κ :=
  match s.mailbox.take? with
  | (none, _) => .waiting s
  | (some .endOfStream, _) => .ended s
  | (some (.frame f), mailbox) =>
    let (outcome, sink) := DisplaySink.commit s.sink f.surface
    .presented
      { sink
        mailbox := meanwhile sink mailbox
        stats := s.stats.record (now.since f.decodedAt) outcome }

/-- Presents up to `frames` frames; stops before that when there is nothing to take or the stream
has ended. A frame is taken at the time that the clock shows, given the state of the display. -/
def run (meanwhile : κ → Mailbox → Mailbox) (clock : κ → Instant) : (frames : Nat) →
    DisplayStage κ → DisplayProgress κ
  | 0, s => .presented s
  | frames + 1, s =>
    match s.present meanwhile (clock s.sink) with
    | .presented s => run meanwhile clock frames s
    | stopped => stopped

end DisplayStage

/-- The stage itself, however far it has come. -/
def DisplayProgress.stage {κ : Type} : DisplayProgress κ → DisplayStage κ
  | presented s | waiting s | ended s => s

end VideoReceiver
