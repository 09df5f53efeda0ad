import VideoReceiver.Decode

/-!
# The ingest loop

The ingest loop reads access units from a source, shows each one to the link monitor and feeds it
to the decode stage. Failures of the source are retried after a growing pause, unless they are
permanent or too many come in a row.

## Main definitions

- `SourceItem`: what a source does at a read
- `Ingest`: the loop between two reads
- `Ingest.proceed`: everything up to the next pause
- `IngestEnd`: how the loop ends
-/

namespace VideoReceiver

/-- What a source does when it is read. -/
inductive SourceItem where
  | unit (u : AccessUnit)
  | fault (e : ReceiverError)
  /-- The read takes some time before it goes on to the next item. -/
  | wait (d : Duration)
  /-- The read never returns. -/
  | stall
  /-- The stream ends, whatever items follow. -/
  | finish
  deriving DecidableEq, Repr

/-- How the ingest loop ends. -/
inductive IngestEnd where
  | endOfStream
  | cancelled
  | sourceFailed (e : ReceiverError)
  | fatal (e : ReceiverError)
  deriving DecidableEq, Repr

/-- What the ingest loop is doing. -/
inductive IngestPhase where
  /-- It goes on at the given instant. -/
  | sleeping (until' : Instant)
  /-- It waits for a read that never returns. -/
  | stalled
  /-- It is caught in a decoder that never runs out of events. -/
  | endless
  | ended (how : IngestEnd)
  deriving DecidableEq, Repr

/-- The ingest loop between two reads. -/
structure Ingest where
  /-- What the source will do. -/
  items : List SourceItem
  /-- How many access units have been read. -/
  units : Nat := 0
  /-- How many faults have come in a row. -/
  faults : Nat := 0
  phase : IngestPhase := .sleeping 0
  deriving DecidableEq, Repr

namespace Ingest

instance : Inhabited Ingest := ⟨{ items := [] }⟩

/-- So many faults in a row end the loop. -/
def maxFaults : Nat := 10

/-- The pause after the `n`-th fault in a row: it doubles with each of the first five. -/
def backoff (n : Nat) : Duration := .ofMillis (50 <<< min n 5)

/-- Whether the loop has ended. -/
def isEnded (i : Ingest) : Bool :=
  match i.phase with
  | .ended _ => true
  | _ => false

/-- A bound on how often the loop can go on. -/
def work (i : Ingest) : Nat := if i.isEnded then 0 else i.items.length + 1

variable {η : Type} [SurfaceAllocator η] [VideoDecoder η]

/-- Ends the loop: the mailbox learns of the end of the stream, and the decode stage is torn
down. -/
def finish (units faults : Nat) (items : List SourceItem) (how : IngestEnd)
    (stage : DecodeStage η) : Ingest × DecodeStage η :=
  ({ items, units, faults, phase := .ended how },
    { stage with mailbox := stage.mailbox.finish }.teardown)

/-- Reads the items of the source one after the other, at one instant, until a read takes time or
the loop ends. -/
def proceed (now : Instant) (units faults : Nat) (stage : DecodeStage η) :
    List SourceItem → Ingest × DecodeStage η
  | [] => finish units faults [] .endOfStream stage
  | .finish :: rest => finish units faults rest .endOfStream stage
  | .stall :: rest => ({ items := rest, units, faults, phase := .stalled }, stage)
  | .wait d :: rest =>
    if d = 0 then proceed now units faults stage rest
    else ({ items := rest, units, faults, phase := .sleeping (now + d) }, stage)
  | .fault e :: rest =>
    if e.isRetryable && faults + 1 < maxFaults then
      ({ items := rest, units, faults := faults + 1,
         phase := .sleeping (now + backoff (faults + 1)) }, stage)
    else finish units faults rest (.sourceFailed e) stage
  | .unit u :: rest =>
    let stage := { stage with monitor := (stage.monitor.onAccessUnit now u).2 }
    match stage.feed now u with
    | (.done, stage) => proceed now (units + 1) 0 stage rest
    | (.failed e, stage) => finish (units + 1) 0 rest (.fatal e) stage
    | (.endless, stage) =>
      ({ items := rest, units := units + 1, faults := 0, phase := .endless }, stage)

omit [VideoDecoder η] in
theorem work_finish (units faults : Nat) (items : List SourceItem) (how : IngestEnd)
    (stage : DecodeStage η) : (finish units faults items how stage).1.work = 0 := rfl

theorem work_proceed_le (now : Instant) (units faults : Nat) (stage : DecodeStage η)
    (items : List SourceItem) : (proceed now units faults stage items).1.work ≤ items.length := by
  fun_induction proceed now units faults stage items with
  | case1 => simp [work_finish]
  | case2 => simp [work_finish]
  | case3 => simp [work, isEnded]
  | case4 _ _ _ _ ih => exact Nat.le_succ_of_le ih
  | case5 => simp [work, isEnded]
  | case6 => simp [work, isEnded]
  | case7 => simp [work_finish]
  | case8 units faults stage u rest _ _ _ ih => exact Nat.le_succ_of_le ih
  | case9 => simp [work_finish]
  | case10 => simp [work, isEnded]

/-- Goes on after a pause, or for the first time. -/
def resume (i : Ingest) (now : Instant) (stage : DecodeStage η) : Ingest × DecodeStage η :=
  proceed now i.units i.faults stage i.items

theorem work_resume_lt (i : Ingest) (now : Instant) (stage : DecodeStage η)
    (h : i.isEnded = false) : (i.resume now stage).1.work < i.work := by
  have hw : i.work = i.items.length + 1 := by simp [work, h]
  rw [hw]
  exact Nat.lt_succ_of_le (work_proceed_le now i.units i.faults stage i.items)

/-- Cancels the loop while it pauses. -/
def cancel (i : Ingest) (stage : DecodeStage η) : Ingest × DecodeStage η :=
  match i.phase with
  | .sleeping _ | .stalled => finish i.units i.faults i.items .cancelled stage
  | .endless | .ended _ => (i, stage)

/-- The instant at which the loop goes on, if it does so by itself. -/
def due? (i : Ingest) : Option Instant :=
  match i.phase with
  | .sleeping t => some t
  | _ => none

end Ingest

end VideoReceiver
