import VideoReceiver.Ingest
import VideoReceiver.Repair.Transport

/-!
# Receiving sessions

A session is the ingest loop, the periodic health check and the repeat sequences on one clock. The
clock moves only when it is told to. At one instant the check comes first, then the ingest loop,
then the repeat sequences.

## Main definitions

- `Ticker`: the periodic check
- `Session`: the state of a session
- `Session.advance`, `Session.joinIngest`, `Session.shutdown`: letting time pass
- `Session.cancel`: asking the ingest loop to end
-/

namespace VideoReceiver

/-- The periodic check of a session. -/
structure Ticker where
  period : Duration
  /-- When the next check is made. -/
  next : Instant
  period_pos : 0 < period

/-- A receiving session over a board in state `η` and a network in state `τ`. -/
structure Session (η τ : Type) where
  now : Instant := 0
  stage : DecodeStage η
  ingest : Ingest
  /-- The periodic check, while it runs. -/
  ticker : Option Ticker
  /-- Whether the ingest loop has ended or has been asked to. -/
  cancelled : Bool := false
  transport : τ
  /-- The link states that an observer has seen, each with its instant. -/
  links : List (Instant × LinkState) := [(0, .down)]
  /-- How many published link states the observer has seen. -/
  linksSeen : Nat := 0

namespace Session

/-- The supply of burst tokens. -/
def tokens : Nat → Token := Token.counting

variable {η τ : Type}

/-- A session that begins at instant zero. There is no check with a period of no length. -/
def start (stage : DecodeStage η) (items : List SourceItem) (transport : τ) : Session η τ :=
  let period := stage.monitor.timing.tickInterval
  { stage
    ingest := { items }
    ticker := if h : 0 < period then some ⟨period, 0, h⟩ else none
    transport }

/-- A session without a source: no ingest loop and no check runs, only repeat sequences do. -/
def idle (stage : DecodeStage η) (transport : τ) : Session η τ :=
  { stage, ingest := { items := [], phase := .stalled }, ticker := none, transport }

/-- Asks the ingest loop and the check to end; they do so when time passes. -/
def cancel (s : Session η τ) : Session η τ := { s with cancelled := true }

/-- The observer of the link notices a state published since it last looked. -/
def observeLink (s : Session η τ) : Session η τ :=
  let link := s.stage.monitor.link
  if s.linksSeen = link.changes then s
  else { s with links := s.links ++ [(s.now, link.state)], linksSeen := link.changes }

/-- Changes the monitor. -/
def modifyMonitor (s : Session η τ) (f : LinkMonitor → LinkMonitor) : Session η τ :=
  { s with stage := { s.stage with monitor := f s.stage.monitor } }

/-- Changes the requester. -/
def modifyRequester (s : Session η τ) (f : Requester → Requester) : Session η τ :=
  s.modifyMonitor fun m => { m with requester := f m.requester }

section Sequences

variable [RepairTransport τ]

/-- Lets the repeat sequences run up to, but not including, the instant `limit`. -/
def runSequences (limit : Instant) (s : Session η τ) : Session η τ :=
  let (transport, _, requester) :=
    s.stage.monitor.requester.runLimitedOn tokens (some limit) s.now s.transport
  { s.modifyRequester (fun _ => requester) with transport }

@[simp] theorem ticker_runSequences (limit : Instant) (s : Session η τ) :
    (s.runSequences limit).ticker = s.ticker := rfl

@[simp] theorem ingest_runSequences (limit : Instant) (s : Session η τ) :
    (s.runSequences limit).ingest = s.ingest := rfl

/-- Lets time pass until no repeat sequence is under way. -/
def shutdown (s : Session η τ) : Session η τ :=
  let s := s.observeLink
  let (transport, now, requester) :=
    s.stage.monitor.requester.runLimitedOn tokens none s.now s.transport
  { s.modifyRequester (fun _ => requester) with now, transport }

end Sequences

/-! ## Events -/

/-- What happens next on the clock, apart from the repeat sequences. -/
inductive Event where
  | check
  | ingest
  deriving DecidableEq, Repr

/-- The next event up to the instant `target`; the check comes first if both fall together. -/
def nextEvent (target : Instant) (s : Session η τ) : Option (Instant × Event) :=
  let check := (s.ticker.map Ticker.next).filter (· ≤ target)
  let ingest := s.ingest.due?.filter (· ≤ target)
  match check, ingest with
  | none, none => none
  | some t, none => some (t, .check)
  | none, some t => some (t, .ingest)
  | some t, some u => if t ≤ u then some (t, .check) else some (u, .ingest)

/-- Makes the periodic check. -/
def check (s : Session η τ) : Session η τ :=
  { s.modifyMonitor (fun m => (m.tick s.now).2) with
    ticker := s.ticker.map fun t => { t with next := t.next + t.period } }

/-- Once the ingest loop has ended, the session counts as cancelled and the check ends. -/
def afterIngest (s : Session η τ) : Session η τ :=
  if s.ingest.isEnded then { s with cancelled := true, ticker := none } else s

/-- A bound on how many events there can be up to the instant `target`. -/
def eventBound (target : Instant) (s : Session η τ) : Nat :=
  (match s.ticker with
    | some t => target + 1 - t.next
    | none => 0) + s.ingest.work

@[simp] theorem eventBound_observeLink (target : Instant) (s : Session η τ) :
    eventBound target s.observeLink = eventBound target s := by
  unfold observeLink; dsimp only; split <;> rfl

theorem isEnded_of_due {i : Ingest} {t : Instant} (h : i.due? = some t) : i.isEnded = false := by
  unfold Ingest.due? at h; unfold Ingest.isEnded; split at h <;> simp_all

variable [SurfaceAllocator η] [VideoDecoder η] [RepairTransport τ]

/-- Lets the ingest loop go on. -/
def goOn (s : Session η τ) : Session η τ :=
  let (ingest, stage) := s.ingest.resume s.now s.stage
  { s with ingest, stage }.afterIngest

/-- Lets the ingest loop and the check notice that they have been asked to end. -/
def noticeCancel (s : Session η τ) : Session η τ :=
  if s.cancelled then
    let (ingest, stage) := s.ingest.cancel s.stage
    { s with ingest, stage, ticker := none }
  else s

/-- Performs an event at its instant, after the repeat sequences that come before it. -/
def perform (s : Session η τ) (time : Instant) (e : Event) : Session η τ :=
  let s := { s.runSequences time with now := time }
  match e with
  | .check => s.check.observeLink
  | .ingest => s.goOn.observeLink

theorem eventBound_perform_lt {target time : Instant} {s : Session η τ} {e : Event}
    (h : s.nextEvent target = some (time, e)) :
    eventBound target (s.perform time e) < eventBound target s := by
  cases e with
  | check =>
    obtain ⟨t, ht, hle⟩ : ∃ t, s.ticker = some t ∧ t.next ≤ target := by
      unfold nextEvent at h
      cases ht : s.ticker with
      | none => simp [ht] at h; split at h <;> simp_all
      | some t =>
        refine ⟨t, rfl, ?_⟩
        by_cases hle : t.next ≤ target
        · exact hle
        · simp [ht, Option.filter, hle] at h
          split at h <;> simp_all
    have hpos := t.period_pos
    simp only [perform, eventBound_observeLink]
    simp only [eventBound, check, ticker_runSequences, ht, Option.map_some, modifyMonitor,
      ingest_runSequences]
    dsimp only [Instant, Duration] at *
    omega
  | ingest =>
    obtain ⟨t, ht⟩ : ∃ t, s.ingest.due? = some t := by
      unfold nextEvent at h
      cases ht : s.ingest.due? with
      | none => simp [ht] at h; split at h <;> simp_all
      | some t => exact ⟨t, rfl⟩
    have hw := Ingest.work_resume_lt s.ingest time (s.runSequences time).stage (isEnded_of_due ht)
    simp only [perform, eventBound_observeLink, goOn, ingest_runSequences]
    unfold afterIngest
    dsimp only
    split
    · simp only [eventBound]
      omega
    · simp only [eventBound, ticker_runSequences]
      omega

/-- Performs all events up to the instant `target`. -/
def performUntil (target : Instant) (s : Session η τ) : Session η τ :=
  match _h : s.nextEvent target with
  | some (time, e) => performUntil target (s.perform time e)
  | none => s
termination_by eventBound target s
decreasing_by exact eventBound_perform_lt _h

/-- Moves the clock to the instant `target`. Everything that is due by then has happened on
return. -/
def advanceTo (target : Instant) (s : Session η τ) : Session η τ :=
  let s := s.observeLink.noticeCancel.performUntil target
  { s.runSequences (target + 1) with now := target }

/-- Moves the clock forward. -/
def advance (d : Duration) (s : Session η τ) : Session η τ := s.advanceTo (s.now + d)

/-- Lets time pass until the ingest loop has ended, or cannot go on by itself. -/
def joinIngest (s : Session η τ) : Session η τ := go s.ingest.work s.observeLink.noticeCancel
where
  /-- Every pause of the loop that passes leaves it with less to do. -/
  go : Nat → Session η τ → Session η τ
    | 0, s => s
    | n + 1, s =>
      match s.ingest.due? with
      | some t => go n (s.advanceTo (max t s.now))
      | none => s

end Session

end VideoReceiver
