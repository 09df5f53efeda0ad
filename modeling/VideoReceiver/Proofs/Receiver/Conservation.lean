import Mathlib.Data.List.Permutation
import VideoReceiver.Bench.Board
import VideoReceiver.Bench.Radio
import VideoReceiver.Bench.Screen
import VideoReceiver.Proofs.Receiver.Steps
import VideoReceiver.Receiver

/-!
# What becomes of the frames of a receiver

The ingest loop and the display use the mailbox at the same time. A posted frame is committed, with
or without success, or it is dropped, because another frame overwrites it or the decode stage
discards it. Once both parties have ended, no frame is left.

## Main definitions

- `ReceiverRun`, `ReceiverAction`: the two parties and what they do, in any order
- `ReceiverRun.Accounted`: what ties the counters to the uses of the mailbox
- `ReceiverCommand`: what the owner of a receiver does to it

## Main statements

- `ReceiverRun.Accounted.act`: every action keeps the account
- `ReceiverRun.Follows.wait`: waiting for a receiver is a run of the two parties
- `ReceiverRun.frames_conserved`: the account of a receiver that has ended
-/

namespace VideoReceiver

variable {η κ τ : Type}

/-- An ingest loop and a display that share a mailbox. -/
structure ReceiverRun (η κ : Type) where
  ingest : IngestRun η
  sink : κ
  stats : DisplayStats := {}
  /-- The frame that the display has taken and not committed yet. -/
  held : Option PendingFrame := none
  /-- The display has received the end of the stream. -/
  displayEnded : Bool := false
  /-- How the mailbox has been used so far. -/
  uses : List MailboxAction := []
  /-- The frames that the display has tried to commit. -/
  attempts : List PendingFrame := []

/-- A step of one of the parties, or what others do to what they share. -/
inductive ReceiverAction where
  | ingest (a : IngestAction)
  /-- The display looks into the mailbox. -/
  | take
  /-- The display commits the frame that it has taken. -/
  | commit (now : Instant)
  /-- The end of the stream is signalled again, when the ingest loop has ended. -/
  | signal

namespace ReceiverRun

def stage (r : ReceiverRun η κ) : DecodeStage η := r.ingest.decode.stage

def mailbox (r : ReceiverRun η κ) : Mailbox := r.stage.mailbox

/-- Uses the mailbox. -/
def useMailbox (r : ReceiverRun η κ) (a : MailboxAction) : ReceiverRun η κ :=
  let stage := { r.stage with mailbox := r.mailbox.act a }
  { r with
    ingest := { r.ingest with decode := { r.ingest.decode with stage } }
    uses := r.uses ++ [a] }

/-- The display takes what there is, unless it holds a frame or has ended. -/
def take (r : ReceiverRun η κ) : ReceiverRun η κ :=
  match r.held, r.displayEnded, r.mailbox.take?.1 with
  | none, false, some (.frame f) => { r.useMailbox .take with held := some f }
  | none, false, some .endOfStream => { r.useMailbox .take with displayEnded := true }
  | _, _, _ => r

/-- The display commits the frame that it holds. -/
def commit [DisplaySink κ] (r : ReceiverRun η κ) (now : Instant) : ReceiverRun η κ :=
  match r.held with
  | some f =>
    let (outcome, sink) := DisplaySink.commit r.sink f.surface
    { r with
      sink
      stats := r.stats.record (now.since f.decodedAt) outcome
      held := none
      attempts := r.attempts ++ [f] }
  | none => r

def signal (r : ReceiverRun η κ) : ReceiverRun η κ :=
  match r.ingest.task with
  | .ended _ => r.useMailbox .finish
  | _ => r

/-- What is done with the link monitor in an action. -/
def traceOf (r : ReceiverRun η κ) : ReceiverAction → MonitorTrace
  | .ingest a => r.ingest.traceOf a
  | _ => {}

/-- Both parties have ended. -/
def Ended (r : ReceiverRun η κ) : Prop :=
  (∃ how, r.ingest.task = .ended how) ∧ r.displayEnded = true

variable [SurfaceAllocator η] [VideoDecoder η] [DisplaySink κ]

/-- Performs an action. -/
def act (r : ReceiverRun η κ) : ReceiverAction → ReceiverRun η κ
  | .ingest a =>
    { r with ingest := r.ingest.act a, uses := r.uses ++ (r.ingest.mailboxAction? a).toList }
  | .take => r.take
  | .commit now => r.commit now
  | .signal => r.signal

def actAll (r : ReceiverRun η κ) (actions : List ReceiverAction) : ReceiverRun η κ :=
  actions.foldl act r

/-- What is done with the link monitor in a run. -/
def trace (r : ReceiverRun η κ) : List ReceiverAction → MonitorTrace
  | [] => {}
  | a :: actions => r.traceOf a ++ (r.act a).trace actions

theorem trace_append (r : ReceiverRun η κ) (actions later : List ReceiverAction) :
    r.trace (actions ++ later) = r.trace actions ++ (r.actAll actions).trace later := by
  induction actions generalizing r with
  | nil => rfl
  | cons a actions ih =>
    show r.traceOf a ++ (r.act a).trace (actions ++ later) = _
    rw [ih, ← MonitorTrace.append_assoc]
    rfl

/-- What has become of a fresh receiver. -/
def after (capacity : Nat) (board : η) (monitor : LinkMonitor) (items : List SourceItem) (sink : κ)
    (actions : List ReceiverAction) : ReceiverRun η κ :=
  let stage : DecodeStage η := { hardware := board, pool := { capacity }, monitor }
  actAll { ingest := { decode := { stage }, items }, sink } actions

end ReceiverRun

/-! ## The account -/

/-- The ingest loop takes nothing out of the mailbox. -/
theorem IngestRun.mailboxAction?_ne_take (r : IngestRun η) (a : IngestAction) :
    r.mailboxAction? a ≠ some .take := by
  have hdecode : ∀ now, r.decode.mailboxAction? now ≠ some .take := by
    intro now
    unfold StageRun.mailboxAction?
    split
    · nofun
    · cases (r.decode.stage.pool.resolve _).bind r.decode.stage.pool.slot? <;> nofun
    · nofun
  unfold mailboxAction?
  split
  · split
    · exact hdecode _
    · exact hdecode _
    · nofun
    · nofun
  · nofun

namespace ReceiverRun

/-- What the counters count, and what has become of the frames that were posted. -/
structure Accounted (r : ReceiverRun η κ) : Prop where
  ingest : r.ingest.Sound
  mailbox_eq : r.mailbox = ({} : Mailbox).actAll r.uses
  pictures_eq : r.stage.stats.pictures = (r.uses.filterMap MailboxAction.frame?).length
  received_eq :
    Departure.received (({} : Mailbox).departures r.uses) = r.attempts ++ r.held.toList
  attempts_eq : r.stats.presented + r.stats.commitErrors = r.attempts.length
  held_eq : r.displayEnded = true → r.held = none

/-- The mailbox has been used, and nothing has been committed. -/
theorem Accounted.used {r r' : ReceiverRun η κ} (h : r.Accounted) {a : Option MailboxAction}
    (hsound : r'.ingest.Sound) (hstage : r.stage.Uses r'.stage a)
    (huses : r'.uses = r.uses ++ a.toList) (hstats : r'.stats = r.stats)
    (hattempts : r'.attempts = r.attempts)
    (hheld : r'.held.toList =
      r.held.toList ++ if a = some .take then r.mailbox.pending.toList else [])
    (hended : r'.displayEnded = true → r'.held = none) : r'.Accounted where
  ingest := hsound
  mailbox_eq := by
    rw [huses, Mailbox.actAll_append, ← h.mailbox_eq]
    exact hstage.mailbox_eq
  pictures_eq := by
    rw [hstage.pictures_eq, huses, h.pictures_eq, List.filterMap_append, List.length_append]
  received_eq := by
    have hleft : Departure.received (r.mailbox.departures a.toList) =
        if a = some .take then r.mailbox.pending.toList else [] := by
      cases a with
      | none => rfl
      | some a =>
        show Departure.received ((r.mailbox.departure? a).toList ++ []) = _
        rw [List.append_nil, Mailbox.received_departure?]
        simp
    rw [huses, Mailbox.departures_append, Departure.received_append, h.received_eq,
      ← h.mailbox_eq, hleft, hattempts, hheld, List.append_assoc]
  attempts_eq := by rw [hstats, hattempts, h.attempts_eq]
  held_eq := hended

theorem Accounted.take {r : ReceiverRun η κ} (h : r.Accounted) : r.take.Accounted := by
  have hsound : (r.useMailbox .take).ingest.Sound :=
    h.ingest.of_mailbox (fun f => Mailbox.pending_take?)
      ((Mailbox.finished_take? _).trans h.ingest.finished_eq)
  have hstage : r.stage.Uses (r.useMailbox .take).stage (some .take) := ⟨rfl, rfl⟩
  unfold ReceiverRun.take
  split
  · next f hheld hended htake =>
    have hpending := (Mailbox.take?_eq_frame_iff _ f).1 htake
    refine h.used (a := some .take) hsound hstage rfl rfl rfl ?_ ?_
    · rw [hheld, if_pos rfl, hpending]
      rfl
    · show r.displayEnded = true → _
      rw [hended]
      nofun
  · next hheld hended htake =>
    have hpending := ((Mailbox.take?_eq_endOfStream_iff _).1 htake).1
    refine h.used (a := some .take) hsound hstage rfl rfl rfl ?_ fun _ => hheld
    show r.held.toList = _
    rw [hheld, if_pos rfl, hpending]
    rfl
  · exact h

theorem Accounted.commit [DisplaySink κ] {r : ReceiverRun η κ} (h : r.Accounted) (now : Instant) :
    (r.commit now).Accounted := by
  unfold ReceiverRun.commit
  split
  · next f hheld =>
    refine ⟨h.ingest, h.mailbox_eq, h.pictures_eq, ?_, ?_, fun _ => rfl⟩
    · rw [h.received_eq, hheld]
      simp
    · have hattempts := h.attempts_eq
      dsimp only
      rw [List.length_append, List.length_singleton, ← hattempts]
      -- a commit is counted once, whether it succeeds or not
      cases (DisplaySink.commit r.sink f.surface).1 with
      | ok _ => exact Nat.add_right_comm _ _ _
      | error e => rfl
  · exact h

theorem Accounted.signal {r : ReceiverRun η κ} (h : r.Accounted) : r.signal.Accounted := by
  unfold ReceiverRun.signal
  split
  · next how htask =>
    have hover : r.ingest.task.isOver = true := by
      rw [htask]
      rfl
    have hsound : (r.useMailbox .finish).ingest.Sound :=
      h.ingest.of_mailbox (fun f => id) hover.symm
    refine h.used (a := some .finish) hsound ⟨rfl, rfl⟩ rfl rfl rfl ?_ h.held_eq
    exact (List.append_nil _).symm
  · exact h

theorem Accounted.ledger {r : ReceiverRun η κ} (h : r.Accounted) :
    r.mailbox.Ledger (r.uses.filterMap MailboxAction.frame?)
      (({} : Mailbox).departures r.uses) := by
  rw [h.mailbox_eq]
  exact Mailbox.ledger_actAll r.uses

/-- A torn down decode stage has discarded what the display has not taken. -/
theorem Accounted.pending_eq_none {r : ReceiverRun η κ} (h : r.Accounted) {how : IngestEnd}
    (htask : r.ingest.task = .ended how) : r.mailbox.pending = none := by
  have hidle : r.ingest.decode.Idle := h.ingest.resting (by rw [htask]; rfl)
  have hteardown := h.ingest.closing (by rw [htask]; rfl)
  exact h.ingest.decode.pending_eq_none hidle (.inr hteardown)

/-- The counters of a receiver that has ended. -/
structure Settled (stage : DecodeStage η) (stats : DisplayStats) : Prop where
  pictures_eq : stage.stats.pictures = stage.mailbox.posted
  posted_eq : stage.mailbox.posted =
    stats.presented + stats.commitErrors + stage.mailbox.dropped
  pending_eq : stage.mailbox.pending = none

theorem Accounted.settled {r : ReceiverRun η κ} (h : r.Accounted) (hended : r.Ended) :
    Settled r.stage r.stats := by
  obtain ⟨⟨how, htask⟩, hdisplay⟩ := hended
  have hpending := h.pending_eq_none htask
  have hposted := h.ledger.posted_eq
  have hconserved := h.ledger.conserved
  have hattempts := h.attempts_eq
  rw [h.received_eq, h.held_eq hdisplay, hpending] at hconserved
  simp only [Option.toList_none, List.append_nil, List.length_nil] at hconserved
  refine ⟨h.pictures_eq.trans hposted.symm, ?_, hpending⟩
  show r.mailbox.posted = _ + r.mailbox.dropped
  omega

variable [SurfaceAllocator η] [VideoDecoder η] [DisplaySink κ]

theorem Accounted.act {r : ReceiverRun η κ} (h : r.Accounted) (a : ReceiverAction) :
    (r.act a).Accounted := by
  cases a with
  | ingest a =>
    refine h.used (h.ingest.act a) (r.ingest.uses_act a) rfl rfl rfl ?_ h.held_eq
    rw [if_neg (r.ingest.mailboxAction?_ne_take a), List.append_nil]
    rfl
  | take => exact h.take
  | commit now => exact h.commit now
  | signal => exact h.signal

theorem Accounted.actAll {r : ReceiverRun η κ} (h : r.Accounted) (actions : List ReceiverAction) :
    (r.actAll actions).Accounted := by
  induction actions generalizing r with
  | nil => exact h
  | cons a actions ih => exact ih (h.act a)

theorem accounted_after (capacity : Nat) (board : η) (monitor : LinkMonitor)
    (items : List SourceItem) (sink : κ) (actions : List ReceiverAction) :
    (after capacity board monitor items sink actions).Accounted := by
  apply Accounted.actAll
  exact ⟨⟨StageRun.sound_after capacity board monitor [], fun _ => ⟨rfl, rfl⟩, rfl, nofun⟩,
    rfl, rfl, rfl, rfl, nofun⟩

end ReceiverRun

/-! ## Receivers -/

/-- What the owner of a receiver does before it ends. -/
inductive ReceiverCommand where
  | advanceTo (target : Instant)
  | modifyMonitor (f : LinkMonitor → LinkMonitor)
  | cancel

/-- The change to the link monitor that a command makes. -/
def ReceiverCommand.change? : ReceiverCommand → Option (LinkMonitor → LinkMonitor)
  | modifyMonitor f => some f
  | _ => none

namespace Receiver

theorem present_of_pending_eq_none [DisplaySink κ] {r : Receiver η κ τ}
    (h : r.session.stage.mailbox.pending = none) : r.present = r := by
  cases hfin : r.session.stage.mailbox.finished <;>
    simp [present, DisplayStage.run, DisplayStage.present, Mailbox.take?, h, hfin,
      DisplayProgress.stage]

theorem present_of_pending [DisplaySink κ] {r : Receiver η κ τ} {f : PendingFrame}
    (h : r.session.stage.mailbox.pending = some f) :
    r.present =
      { session :=
          { r.session with
            stage := { r.session.stage with mailbox := r.session.stage.mailbox.act .take } }
        sink := (DisplaySink.commit r.sink f.surface).2
        presented :=
          r.presented.record (r.session.now.since f.decodedAt)
            (DisplaySink.commit r.sink f.surface).1 } := by
  simp [present, DisplayStage.run, DisplayStage.present, Mailbox.act, Mailbox.take?, h,
    DisplayProgress.stage]

variable [SurfaceAllocator η] [VideoDecoder η] [RepairTransport τ] [DisplaySink κ]

/-- Performs a command. -/
def perform (r : Receiver η κ τ) : ReceiverCommand → Receiver η κ τ
  | .advanceTo target => r.advanceTo target
  | .modifyMonitor f => { r with session := r.session.modifyMonitor f }
  | .cancel => { r with session := r.session.cancel }

omit [DisplaySink κ] in
theorem ingest_wait [DisplaySink κ] (r : Receiver η κ τ) :
    r.wait.session.ingest = r.session.joinIngest.ingest := by
  rw [wait, Session.ingest_shutdown]
  rfl

/-- Waiting returns once the ingest loop has ended, so never if the source or the decoder does not
answer. -/
theorem isEnded_wait {r : Receiver η κ τ} (hstalled : r.wait.session.ingest.phase ≠ .stalled)
    (hendless : r.wait.session.ingest.phase ≠ .endless) :
    r.wait.session.ingest.isEnded = true := by
  rw [ingest_wait] at hstalled hendless ⊢
  exact Ingest.isEnded_of_due? r.session.due?_joinIngest hstalled hendless

/-- Shutting down does not wait for the source. -/
theorem isEnded_shutdown {r : Receiver η κ τ}
    (hendless : r.shutdown.session.ingest.phase ≠ .endless) :
    r.shutdown.session.ingest.isEnded = true := by
  rw [shutdown, ingest_wait] at hendless ⊢
  exact (Session.phase_joinIngest_of_cancelled rfl).resolve_right hendless

end Receiver

namespace ReceiverRun

/-- The two parties are those of a receiver, between two commands. -/
structure Follows (r : ReceiverRun η κ) (receiver : Receiver η κ τ) : Prop where
  ingest : r.ingest.Follows receiver.session.ingest receiver.session.stage
  sink_eq : r.sink = receiver.sink
  stats_eq : r.stats = receiver.presented
  held_eq : r.held = none
  displayEnded_eq : r.displayEnded = false

variable [SurfaceAllocator η] [VideoDecoder η] [DisplaySink κ]

/-- Actions lead from one state to another, and this is what is done with the link monitor. -/
def Reaches (trace : MonitorTrace) (r r' : ReceiverRun η κ) : Prop :=
  ∃ actions, r.actAll actions = r' ∧ r.trace actions = trace

namespace Reaches

variable {trace trace' : MonitorTrace}

theorem refl (r : ReceiverRun η κ) : Reaches {} r r := ⟨[], rfl, rfl⟩

theorem trans {r₁ r₂ r₃ : ReceiverRun η κ} (h₁ : Reaches trace r₁ r₂)
    (h₂ : Reaches trace' r₂ r₃) : Reaches (trace ++ trace') r₁ r₃ := by
  obtain ⟨actions, rfl, rfl⟩ := h₁
  obtain ⟨later, rfl, rfl⟩ := h₂
  exact ⟨actions ++ later, List.foldl_append, r₁.trace_append actions later⟩

theorem goes {r₁ r₂ r₃ : ReceiverRun η κ} (h₁ : Reaches trace r₁ r₂) (h₂ : Reaches {} r₂ r₃) :
    Reaches trace r₁ r₃ := by
  have h := h₁.trans h₂
  rwa [MonitorTrace.append_empty] at h

theorem accounted {r r' : ReceiverRun η κ} (h : Reaches trace r r') (hr : r.Accounted) :
    r'.Accounted := by
  obtain ⟨actions, rfl, -⟩ := h
  exact hr.actAll actions

theorem ingest (r : ReceiverRun η κ) {ingest : IngestRun η} (h : r.ingest.Reaches trace ingest) :
    ∃ uses, r.Reaches trace { r with ingest, uses } := by
  obtain ⟨actions, rfl, rfl⟩ := h
  induction actions generalizing r with
  | nil => exact ⟨r.uses, [], rfl, rfl⟩
  | cons a actions ih =>
    obtain ⟨uses, later, hlater, htrace⟩ := ih (r.act (.ingest a))
    exact ⟨uses, .ingest a :: later, hlater, congrArg (r.ingest.traceOf a ++ ·) htrace⟩

end Reaches

/-- What the session does is done by the ingest loop. -/
theorem Follows.leads [RepairTransport τ] {r : ReceiverRun η κ} {receiver : Receiver η κ τ}
    (h : r.Follows receiver) (hr : r.Accounted) {changes : List (LinkMonitor → LinkMonitor)}
    {session : Session η τ} (hleads : receiver.session.Leads changes session) :
    ∃ r' trace, r.Reaches trace r' ∧ r'.Follows { receiver with session } ∧
      receiver.session.Traced changes trace session := by
  obtain ⟨ingest, trace, hreach, hingest, htrace⟩ := hleads r.ingest hr.ingest h.ingest
  obtain ⟨uses, hr'⟩ := Reaches.ingest r hreach
  exact ⟨_, trace, hr', ⟨hingest, h.sink_eq, h.stats_eq, h.held_eq, h.displayEnded_eq⟩, htrace⟩

omit [SurfaceAllocator η] [VideoDecoder η] [DisplaySink κ] in
theorem take_of_pending {r : ReceiverRun η κ} {f : PendingFrame} (hheld : r.held = none)
    (hended : r.displayEnded = false) (hpending : r.mailbox.pending = some f) :
    r.take = { r.useMailbox .take with held := some f } := by
  unfold take
  rw [hheld, hended, (Mailbox.take?_eq_frame_iff _ f).2 hpending]

/-- Presenting a frame is taking and committing it. -/
theorem Follows.present {r : ReceiverRun η κ} {receiver : Receiver η κ τ} (h : r.Follows receiver) :
    ∃ r', r.Reaches {} r' ∧ r'.Follows receiver.present := by
  cases hpending : receiver.session.stage.mailbox.pending with
  | none =>
    rw [Receiver.present_of_pending_eq_none hpending]
    exact ⟨r, .refl r, h⟩
  | some f =>
    have hmailbox : r.mailbox = receiver.session.stage.mailbox := by
      rw [← h.ingest.stage_eq]
      rfl
    have htake := take_of_pending h.held_eq h.displayEnded_eq (hmailbox ▸ hpending)
    have hact : r.actAll [.take, .commit receiver.session.now] =
        r.take.commit receiver.session.now := rfl
    rw [Receiver.present_of_pending hpending]
    refine ⟨_, ⟨[.take, .commit receiver.session.now], rfl, rfl⟩, ?_⟩
    rw [hact, htake]
    simp only [commit]
    refine ⟨⟨?_, h.ingest.items_eq, h.ingest.units_eq, h.ingest.faults_eq, h.ingest.task_eq⟩,
      ?_, ?_, rfl, h.displayEnded_eq⟩
    · show { r.stage with mailbox := r.mailbox.act .take } = _
      rw [hmailbox, ← h.ingest.stage_eq]
      rfl
    · show (DisplaySink.commit r.sink f.surface).2 = _
      rw [h.sink_eq]
    · show r.stats.record _ (DisplaySink.commit r.sink f.surface).1 = _
      rw [h.stats_eq, h.sink_eq]

variable [RepairTransport τ]

/-- A command is performed by the two parties. -/
theorem Follows.perform {r : ReceiverRun η κ} {receiver : Receiver η κ τ} (h : r.Follows receiver)
    (hr : r.Accounted) (command : ReceiverCommand) :
    ∃ r' trace, r.Reaches trace r' ∧ r'.Follows (receiver.perform command) ∧
      receiver.session.Traced command.change?.toList trace (receiver.perform command).session := by
  cases command with
  | advanceTo target =>
    obtain ⟨r₁, trace, hreach, h₁, htrace⟩ := h.leads hr (receiver.session.leads_advanceTo target)
    obtain ⟨r₂, hreach', h₂⟩ := h₁.present
    exact ⟨r₂, _, hreach.goes hreach', h₂, htrace.of_same rfl rfl rfl rfl⟩
  | modifyMonitor f => exact h.leads hr (.of_use (.change f) rfl rfl rfl)
  | cancel => exact h.leads hr (.of_eq rfl rfl rfl)

theorem Follows.performAll {r : ReceiverRun η κ} {receiver : Receiver η κ τ}
    (h : r.Follows receiver) (hr : r.Accounted) (commands : List ReceiverCommand) :
    ∃ r' trace, r.Reaches trace r' ∧ r'.Follows (commands.foldl Receiver.perform receiver) ∧
      receiver.session.Traced (commands.filterMap ReceiverCommand.change?) trace
        (commands.foldl Receiver.perform receiver).session := by
  induction commands generalizing r receiver with
  | nil => exact ⟨r, {}, .refl r, h, .of_eq {} rfl rfl rfl⟩
  | cons command commands ih =>
    obtain ⟨r₁, trace, hreach, h₁, htrace⟩ := h.perform hr command
    obtain ⟨r₂, trace', hreach', h₂, htrace'⟩ := ih h₁ (hreach.accounted hr)
    have hchanges : (command :: commands).filterMap ReceiverCommand.change? =
        command.change?.toList ++ commands.filterMap ReceiverCommand.change? := by
      cases command <;> rfl
    rw [hchanges]
    exact ⟨r₂, _, hreach.trans hreach', h₂, htrace.trans htrace'⟩

omit [SurfaceAllocator η] [VideoDecoder η] [RepairTransport τ] [DisplaySink κ] in
/-- The end of the stream may be signalled again. -/
theorem Follows.signal {r : ReceiverRun η κ} {receiver : Receiver η κ τ} (h : r.Follows receiver)
    {how : IngestEnd} (hended : receiver.session.ingest.phase = .ended how) :
    let stage := { receiver.session.stage with mailbox := receiver.session.stage.mailbox.finish }
    r.signal.Follows { receiver with session := { receiver.session with stage } } := by
  intro stage
  have htask : r.ingest.task = .ended how := by
    rw [h.ingest.task_eq, hended]
    rfl
  have hsignal : r.signal = r.useMailbox .finish := by
    unfold ReceiverRun.signal
    rw [htask]
  rw [hsignal]
  refine ⟨⟨?_, h.ingest.items_eq, h.ingest.units_eq, h.ingest.faults_eq, h.ingest.task_eq⟩,
    h.sink_eq, h.stats_eq, h.held_eq, h.displayEnded_eq⟩
  show { r.stage with mailbox := r.stage.mailbox.finish } = stage
  have hstage : r.stage = receiver.session.stage := h.ingest.stage_eq
  rw [hstage]

/-- Once the ingest loop has ended, the display receives the end of the stream. -/
theorem reaches_ended {r : ReceiverRun η κ} (hr : r.Accounted) {how : IngestEnd}
    (htask : r.ingest.task = .ended how) (hheld : r.held = none) (hended : r.displayEnded = false) :
    ∃ r', r.Reaches {} r' ∧ r'.Ended ∧ r'.stage = r.stage ∧ r'.stats = r.stats := by
  have hfinished : r.mailbox.finished = true := by
    show r.ingest.decode.stage.mailbox.finished = true
    rw [hr.ingest.finished_eq, htask]
    rfl
  have hpending := hr.pending_eq_none htask
  have htake : r.take = { r.useMailbox .take with displayEnded := true } := by
    unfold ReceiverRun.take
    rw [hheld, hended, (Mailbox.take?_eq_endOfStream_iff _).2 ⟨hpending, hfinished⟩]
  have hsame : r.mailbox.act .take = r.mailbox := by
    simp only [Mailbox.act, Mailbox.take?, hpending]
  refine ⟨r.take, ⟨[.take], rfl, rfl⟩, ?_⟩
  rw [htake]
  refine ⟨⟨⟨how, htask⟩, rfl⟩, ?_, rfl⟩
  show { r.stage with mailbox := r.mailbox.act .take } = r.stage
  rw [hsame]
  rfl

/-- Waiting for a receiver whose ingest loop ends is a run at whose end both parties have ended. -/
theorem Follows.wait {r : ReceiverRun η κ} {receiver : Receiver η κ τ} (h : r.Follows receiver)
    (hr : r.Accounted) (hended : receiver.wait.session.ingest.isEnded = true) :
    ∃ r' trace, r.Reaches trace r' ∧ r'.Ended ∧ r'.stage = receiver.wait.session.stage ∧
      r'.stats = receiver.wait.presented ∧
      receiver.session.Traced [] trace receiver.wait.session := by
  obtain ⟨how, hphase⟩ : ∃ how, receiver.session.joinIngest.ingest.phase = .ended how := by
    rw [Receiver.ingest_wait] at hended
    exact Ingest.isEnded_eq_true_iff.1 hended
  obtain ⟨r₁, _, hreach₁, h₁, htrace₁⟩ := h.leads hr receiver.session.leads_joinIngest
  have h₂ := h₁.signal hphase
  have hreach₂ : r₁.Reaches {} r₁.signal := ⟨[.signal], rfl, rfl⟩
  obtain ⟨r₃, hreach₃, h₃⟩ := h₂.present
  have hreach := (hreach₁.goes hreach₂).goes hreach₃
  obtain ⟨r₄, _, hreach₄, h₄, htrace₄⟩ :=
    h₃.leads (hreach.accounted hr) (Session.leads_shutdown _)
  have hreach' := hreach.trans hreach₄
  have htask : r₄.ingest.task = .ended how := by
    rw [h₄.ingest.task_eq, Session.ingest_shutdown]
    show receiver.session.joinIngest.ingest.phase.task = _
    rw [hphase]
    rfl
  obtain ⟨r₅, hreach₅, hended₅, hstage, hstats⟩ :=
    reaches_ended (hreach'.accounted hr) htask h₄.held_eq h₄.displayEnded_eq
  refine ⟨r₅, _, hreach'.goes hreach₅, hended₅, hstage.trans h₄.ingest.stage_eq,
    hstats.trans h₄.stats_eq, ?_⟩
  -- between the end of the loop and the last sequences only the mailbox changes
  exact htrace₁.trans (htrace₄.of_same rfl rfl rfl rfl)

omit [RepairTransport τ] in
/-- A receiver that has just been started. -/
theorem follows_start {hasRuntime : Bool} {config : ReceiverConfig} {items : List SourceItem}
    {board : η} {sink : κ} {transport : τ} {receiver : Receiver η κ τ}
    (h : Receiver.start hasRuntime config items board sink transport = .ok receiver) :
    let stage := receiver.session.stage
    (after stage.pool.capacity board stage.monitor items sink []).Follows receiver ∧
      receiver.session = .start stage items transport := by
  cases hrequester : Requester.create hasRuntime config {} with
  | error e =>
    simp only [Receiver.start, hrequester] at h
    cases h
  | ok requester =>
    simp only [Receiver.start, hrequester] at h
    cases h
    exact ⟨⟨⟨rfl, rfl, rfl, rfl, rfl⟩, rfl, rfl, rfl, rfl⟩, rfl⟩

/-- **Every frame is accounted for.** In every run of the ingest loop and the display, on any board,
source and display and in any order of their steps, the frames posted are those that have left the
mailbox, in order, and then the pending one; so each of them leaves once and in one way. Those that
were delivered are the ones that the display has tried to commit, in order, and the one it holds.
When both parties have ended, the pictures counted by the decode stage are the frames posted, which
are those presented, those rejected by the display and those dropped, and nothing is pending. The
counters of a receiver say so as well, whatever its owner has done before: once it has been waited
for, unless its source or its decoder never answers, and once it has been shut down, unless its
decoder never answers. -/
theorem frames_conserved (board : η) (items : List SourceItem) (sink : κ) :
    (∀ capacity monitor actions,
      let r := after capacity board monitor items sink actions
      let posts := r.uses.filterMap MailboxAction.frame?
      let left := ({} : Mailbox).departures r.uses
      r.mailbox = ({} : Mailbox).actAll r.uses ∧ r.mailbox.Ledger posts left ∧
        r.stage.stats.pictures = posts.length ∧
        Departure.received left = r.attempts ++ r.held.toList ∧ r.attempts.Sublist posts ∧
        (r.Ended → Settled r.stage r.stats ∧ Departure.received left = r.attempts)) ∧
      ∀ hasRuntime config (transport : τ) (receiver : Receiver η κ τ),
        Receiver.start hasRuntime config items board sink transport = .ok receiver →
        ∀ commands : List ReceiverCommand,
          let r := commands.foldl Receiver.perform receiver
          (r.wait.session.ingest.phase ≠ .stalled → r.wait.session.ingest.phase ≠ .endless →
            r.wait.session.ingest.isEnded = true ∧ Settled r.wait.session.stage r.wait.presented) ∧
          (r.shutdown.session.ingest.phase ≠ .endless →
            r.shutdown.session.ingest.isEnded = true ∧
              Settled r.shutdown.session.stage r.shutdown.presented) := by
  constructor
  · intro capacity monitor actions r posts left
    have hr : r.Accounted := accounted_after capacity board monitor items sink actions
    refine ⟨hr.mailbox_eq, hr.ledger, hr.pictures_eq, hr.received_eq, ?_, fun hended => ?_⟩
    · have hattempts : r.attempts.Sublist (Departure.received left) := by
        rw [hr.received_eq]
        exact List.sublist_append_left _ _
      exact hattempts.trans hr.ledger.received_sublist
    · refine ⟨hr.settled hended, ?_⟩
      rw [hr.received_eq, hr.held_eq hended.2]
      exact List.append_nil _
  · intro hasRuntime config transport receiver hstart commands r
    obtain ⟨hfresh, -⟩ := follows_start hstart
    have hr := accounted_after receiver.session.stage.pool.capacity board
      receiver.session.stage.monitor items sink []
    have hwait : ∀ commands : List ReceiverCommand,
        (commands.foldl Receiver.perform receiver).wait.session.ingest.isEnded = true →
          Settled (commands.foldl Receiver.perform receiver).wait.session.stage
            (commands.foldl Receiver.perform receiver).wait.presented := by
      intro commands hended
      obtain ⟨r₁, _, hreach₁, h₁, -⟩ := hfresh.performAll hr commands
      have hr₁ := hreach₁.accounted hr
      obtain ⟨r₂, _, hreach₂, hended₂, hstage, hstats, -⟩ := h₁.wait hr₁ hended
      rw [← hstage, ← hstats]
      exact (hreach₂.accounted hr₁).settled hended₂
    refine ⟨fun hstalled hendless => ?_, fun hendless => ?_⟩
    · have hended := Receiver.isEnded_wait hstalled hendless
      exact ⟨hended, hwait commands hended⟩
    · have hended := Receiver.isEnded_shutdown hendless
      -- shutting down is waiting after a cancellation
      have hshutdown : (commands ++ [ReceiverCommand.cancel]).foldl Receiver.perform receiver =
          { r with session := r.session.cancel } := List.foldl_append
      have hsettled := hwait (commands ++ [ReceiverCommand.cancel])
      rw [hshutdown] at hsettled
      exact ⟨hended, hsettled hended⟩

/-- Four pictures: the display rejects the first one, presents the second one, and is too slow for
the third one, which the fourth one overwrites; that is discarded when the stream ends. A receiver
whose display looks into the mailbox only once rejects the last picture. It can be waited for, and
shut down before its source goes on. -/
theorem frames_conserved_four_pictures :
    let board : Bench.Board :=
      { events := [.formatChanged (.unpadded 64 48 .nv12), .picture ⟨0x1001⟩ 7,
          .picture ⟨0x1001⟩ 8, .picture ⟨0x1001⟩ 9, .picture ⟨0x1001⟩ 10] }
    let items : List SourceItem := [.unit ⟨[], 7, none, none⟩, .wait 1000]
    let screen : Bench.Screen := { script := [{ fails := true }] }
    let steps : Nat → List ReceiverAction := fun n => List.replicate n (.ingest (.proceed 0))
    let r := after 1 board {} items screen
      (steps 13 ++ [.take] ++ steps 2 ++ [.commit 0, .take, .commit 0] ++ steps 15 ++ [.take])
    (r.Ended ∧ r.mailbox.dropped = 2 ∧ r.stats.presented = 1 ∧ r.stats.commitErrors = 1 ∧
        Settled r.stage r.stats) ∧
      ∃ receiver, Receiver.start true {} items board screen ({} : Bench.Radio) = .ok receiver ∧
        let waited := (receiver.perform (.advanceTo 0)).wait
        let stopped := (receiver.perform (.advanceTo 0)).shutdown
        (waited.session.ingest.phase = .ended .endOfStream ∧
            Settled waited.session.stage waited.presented) ∧
          stopped.session.ingest.phase = .ended .cancelled ∧
            Settled stopped.session.stage stopped.presented := by
  intro board items screen steps r
  have hcounts : (r.ingest.task = .ended .endOfStream ∧ r.displayEnded = true) ∧
      r.mailbox.dropped = 2 ∧ r.stats.presented = 1 ∧ r.stats.commitErrors = 1 := by
    decide +kernel +revert
  obtain ⟨⟨htask, hdisplay⟩, hdropped, hpresented, herrors⟩ := hcounts
  have hended : r.Ended := ⟨⟨_, htask⟩, hdisplay⟩
  obtain ⟨receiver, hstart, hwaited, hstopped⟩ : ∃ receiver,
      Receiver.start true {} items board screen ({} : Bench.Radio) = .ok receiver ∧
        (receiver.perform (.advanceTo 0)).wait.session.ingest.phase = .ended .endOfStream ∧
        (receiver.perform (.advanceTo 0)).shutdown.session.ingest.phase = .ended .cancelled := by
    refine ⟨_, rfl, ?_, ?_⟩
    · cbv
    · cbv
  obtain ⟨hruns, hreceivers⟩ := frames_conserved (τ := Bench.Radio) board items screen
  obtain ⟨-, -, -, -, -, hsettled⟩ := hruns 1 {} _
  obtain ⟨hwait, hshutdown⟩ := hreceivers true {} {} receiver hstart [.advanceTo 0]
  obtain ⟨hstalled, hendless⟩ := Ingest.answered_of_ended hwaited
  exact ⟨⟨hended, hdropped, hpresented, herrors, (hsettled hended).1⟩, receiver, hstart,
    ⟨hwaited, (hwait hstalled hendless).2⟩, hstopped, (hshutdown (Ingest.answered_of_ended hstopped).2).2⟩

end ReceiverRun

end VideoReceiver
