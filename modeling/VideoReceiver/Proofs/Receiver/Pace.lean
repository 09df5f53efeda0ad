import VideoReceiver.Proofs.Decode.Backlog
import VideoReceiver.Proofs.Receiver.Ingestion

/-!
# The pace of the ingest loop

The instants at which the ingest loop reads are known from what it has read. In a session it has
read what was due when the clock was moved, and so the loop of a receiver is a loop whose account is
true and that shows every access unit to the link monitor when it is due.

## Main definitions

- `Ingest.Paced`: the loop has read what was due, and nothing before its time
- `ReceiverRun.JoinOutcome`: what becomes of a loop that is waited for

## Main statements

- `Ingest.Paced.resume`: what the loop reads at one instant
- `Session.Paced.advanceTo`: letting time pass keeps the pace
- `Session.Paced.joinIngest`: waiting for the loop keeps the pace
- `ReceiverRun.ingest_law`: the account of the loop of a receiver
-/

namespace VideoReceiver

variable {η κ τ : Type}

namespace Ingest

/-- One of the instants to which the clock is moved is not before `t`. -/
def Reached (allowed : List Instant) (t : Instant) : Prop := ∃ target ∈ allowed, t ≤ target

/-- What the loop has read of its source: every item at an instant that the clock is allowed to
reach, and all that was due at the instants that the clock has passed. -/
structure Paced (items : List SourceItem) (passed allowed : List Instant) (i : Ingest)
    (read : List SourceItem) : Prop extends i.Timely items read where
  reached : Each (fun before _ => Reached allowed (pauses before)) read
  later (t : Instant) : i.phase = .sleeping t → ∀ target ∈ passed, target < t
  end_reached : i.phase = .ended .endOfStream → Reached allowed (pauses read)
  ne_cancelled : i.phase ≠ .ended .cancelled

/-- A loop that goes on when its pause is over keeps its pace. -/
theorem Paced.resume [SurfaceAllocator η] [VideoDecoder η] {items read : List SourceItem}
    {passed allowed : List Instant} {i : Ingest} (h : i.Paced items passed allowed read)
    {now : Instant} (hphase : i.phase = .sleeping now) (hreached : Reached allowed now)
    (stage : DecodeStage η) :
    ∃ read', (i.resume now stage).1.Paced items passed allowed read' := by
  obtain ⟨recent, hrecent⟩ := h.toTimely.resume hphase stage
  refine ⟨read ++ recent, hrecent.timely h.toTimely rfl, ?_, ?_, ?_, hrecent.ne_cancelled⟩
  · refine hrecent.reads.each h.reached fun before item hnow => ?_
    rwa [hnow]
  · intro t ht target htarget
    exact Nat.lt_of_lt_of_le (h.later now hphase target htarget) (hrecent.due t ht).1
  · intro hend
    rwa [hrecent.end_eq hend]

/-- The loop is not caught in a decoder that keeps to its backlog. -/
theorem phase_proceed_ne_endless [SurfaceAllocator η] [VideoDecoder η] (h : BoundedBacklog η)
    (now : Instant) (units faults : Nat) (stage : DecodeStage η) (items : List SourceItem) :
    (proceed now units faults stage items).1.phase ≠ .endless := by
  fun_induction proceed now units faults stage items with
  | case4 _ _ _ _ ih => exact ih
  | case8 _ _ _ _ _ _ _ _ ih => exact ih
  | case10 units faults stage u rest stage' stage'' hfeed =>
    exact absurd (congrArg Prod.fst hfeed) (h.feed_ne_endless _ now u)
  | _ => rintro ⟨⟩

end Ingest

/-! ## Sessions -/

namespace Session

open Ingest

variable [SurfaceAllocator η] [VideoDecoder η]

/-- The loop of a session keeps its pace, and the session counts as cancelled once it has ended. -/
structure Paced (items : List SourceItem) (passed allowed : List Instant) (s : Session η τ) :
    Prop where
  ingest : ∃ read, s.ingest.Paced items passed allowed read
  cancelled_eq : s.cancelled = s.ingest.isEnded
  bounded : BoundedBacklog η → s.ingest.phase ≠ .endless

namespace Paced

variable {items : List SourceItem} {passed allowed : List Instant} {s s' : Session η τ}

theorem ne_cancelled (h : s.Paced items passed allowed) : s.ingest.phase ≠ .ended .cancelled := by
  obtain ⟨_, hread⟩ := h.ingest
  exact hread.ne_cancelled

theorem of_eq (h : s.Paced items passed allowed) (hingest : s'.ingest = s.ingest)
    (hcancelled : s'.cancelled = s.cancelled) : s'.Paced items passed allowed where
  ingest := by
    rw [hingest]
    exact h.ingest
  cancelled_eq := by rw [hcancelled, hingest, h.cancelled_eq]
  bounded := by
    rw [hingest]
    exact h.bounded

theorem start (stage : DecodeStage η) (items : List SourceItem) (transport : τ) :
    (Session.start stage items transport).Paced items [] [] where
  ingest := by
    exact ⟨[], .start items, .nil, nofun, nofun, nofun⟩
  cancelled_eq := rfl
  bounded _ := nofun

theorem observeLink (h : s.Paced items passed allowed) : s.observeLink.Paced items passed allowed :=
  h.of_eq s.ingest_observeLink s.cancelled_observeLink

theorem allow (h : s.Paced items passed allowed) (more : List Instant) :
    s.Paced items passed (allowed ++ more) := by
  have hmore : ∀ {t : Instant}, Reached allowed t → Reached (allowed ++ more) t :=
    fun ⟨target, htarget, hle⟩ => ⟨target, List.mem_append_left _ htarget, hle⟩
  obtain ⟨read, hread⟩ := h.ingest
  refine ⟨⟨read, hread.toTimely, fun before item after hsplit => ?_, hread.later, fun hend => ?_,
    hread.ne_cancelled⟩, h.cancelled_eq, h.bounded⟩
  · exact hmore (hread.reached before item after hsplit)
  · exact hmore (hread.end_reached hend)

/-- Nobody has asked the loop to end while it goes on. -/
theorem ingest_noticeCancel (h : s.Paced items passed allowed) :
    s.noticeCancel.ingest = s.ingest := by
  unfold Session.noticeCancel
  split
  · next hcancelled =>
    have hended : s.ingest.isEnded = true := h.cancelled_eq ▸ hcancelled
    unfold isEnded at hended
    show (s.ingest.cancel s.stage).1 = s.ingest
    unfold Ingest.cancel
    split <;> simp_all
  · rfl

theorem noticeCancel (h : s.Paced items passed allowed) :
    s.noticeCancel.Paced items passed allowed := by
  refine h.of_eq h.ingest_noticeCancel ?_
  unfold Session.noticeCancel
  split <;> rfl

/-- The loop goes on when its pause is over. -/
theorem goOn (h : s.Paced items passed allowed) (hphase : s.ingest.phase = .sleeping s.now)
    (hreached : Reached allowed s.now) : s.goOn.Paced items passed allowed := by
  obtain ⟨read, hread⟩ := h.ingest
  have hresume := hread.resume hphase hreached s.stage
  have hendless := fun hbounded : BoundedBacklog η =>
    phase_proceed_ne_endless hbounded s.now s.ingest.units s.ingest.faults s.stage s.ingest.items
  have hgoing : s.cancelled = false := by
    rw [h.cancelled_eq, isEnded, hphase]
  unfold Session.goOn afterIngest
  dsimp only
  split
  · next hended => exact ⟨hresume, hended.symm, hendless⟩
  · next hended => exact ⟨hresume, hgoing.trans (Bool.eq_false_iff.2 hended).symm, hendless⟩

variable [RepairTransport τ]

theorem perform (h : s.Paced items passed allowed) {target time : Instant} {e : Event}
    (hnext : s.nextEvent target = some (time, e)) (htarget : target ∈ allowed) :
    (s.perform time e).Paced items passed allowed := by
  have hclock : Paced items passed allowed { s.runSequences time with now := time } :=
    h.of_eq rfl rfl
  cases e with
  | check =>
    have hcheck : Paced items passed allowed { s.runSequences time with now := time }.check :=
      hclock.of_eq rfl rfl
    exact hcheck.observeLink
  | ingest =>
    obtain ⟨hdue, hle⟩ := due?_of_nextEvent hnext
    exact (hclock.goOn (Ingest.due?_eq_some_iff.1 hdue) ⟨target, htarget, hle⟩).observeLink

theorem performUntil (h : s.Paced items passed allowed) {target : Instant}
    (htarget : target ∈ allowed) :
    (s.performUntil target).Paced items (passed ++ [target]) allowed := by
  fun_induction Session.performUntil target s with
  | case1 s time e hnext ih => exact ih (h.perform hnext htarget)
  | case2 s hnone =>
    obtain ⟨read, hread⟩ := h.ingest
    refine ⟨⟨read, hread.toTimely, hread.reached, fun t ht target' htarget' => ?_,
      hread.end_reached, hread.ne_cancelled⟩, h.cancelled_eq, h.bounded⟩
    rcases List.mem_append.1 htarget' with hpassed | hlast
    · exact hread.later t ht target' hpassed
    · rw [List.mem_singleton.1 hlast]
      exact lt_of_nextEvent_eq_none hnone (Ingest.due?_eq_some_iff.2 ht)

/-- Letting time pass keeps the pace. -/
theorem advanceTo (h : s.Paced items passed allowed) (target : Instant) :
    (s.advanceTo target).Paced items (passed ++ [target]) (allowed ++ [target]) := by
  have hperform := (h.observeLink.noticeCancel.allow [target]).performUntil
    (List.mem_append_right _ (List.mem_singleton.2 rfl))
  exact hperform.of_eq rfl rfl

theorem joinIngest_go (n : Nat) (h : s.Paced items passed allowed) :
    ∃ more, (Session.joinIngest.go n s).Paced items (passed ++ more) (allowed ++ more) := by
  induction n generalizing s passed allowed with
  | zero =>
    refine ⟨[], ?_⟩
    rw [List.append_nil, List.append_nil]
    exact h
  | succ n ih =>
    unfold Session.joinIngest.go
    split
    · next t hdue =>
      obtain ⟨more, hmore⟩ := ih (h.advanceTo (max t s.now))
      refine ⟨max t s.now :: more, ?_⟩
      rw [List.append_assoc, List.append_assoc] at hmore
      exact hmore
    · next hdue =>
      refine ⟨[], ?_⟩
      rw [List.append_nil, List.append_nil]
      exact h

/-- Waiting for the loop keeps the pace. -/
theorem joinIngest (h : s.Paced items passed allowed) :
    ∃ more, s.joinIngest.Paced items (passed ++ more) (allowed ++ more) :=
  h.observeLink.noticeCancel.joinIngest_go _

end Paced

end Session

/-! ## Receivers -/

/-- The instant to which a command moves the clock. -/
def ReceiverCommand.target? : ReceiverCommand → Option Instant
  | advanceTo target => some target
  | _ => none

namespace Receiver

variable [SurfaceAllocator η] [VideoDecoder η] [RepairTransport τ] [DisplaySink κ]

theorem paced_perform {r : Receiver η κ τ} {items : List SourceItem} {instants : List Instant}
    (h : r.session.Paced items instants instants) {command : ReceiverCommand}
    (hcommand : command ≠ .cancel) :
    let instants' := instants ++ command.target?.toList
    (r.perform command).session.Paced items instants' instants' := by
  cases command with
  | advanceTo target => exact (h.advanceTo target).of_eq rfl rfl
  | modifyMonitor f =>
    dsimp only [ReceiverCommand.target?, Option.toList_none]
    rw [List.append_nil]
    exact h.of_eq rfl rfl
  | cancel => exact absurd rfl hcommand

theorem paced_performAll {r : Receiver η κ τ} {items : List SourceItem} {instants : List Instant}
    (h : r.session.Paced items instants instants) {commands : List ReceiverCommand}
    (hcommands : .cancel ∉ commands) :
    let instants' := instants ++ commands.filterMap ReceiverCommand.target?
    (commands.foldl perform r).session.Paced items instants' instants' := by
  induction commands generalizing r instants with
  | nil =>
    dsimp only [List.filterMap_nil]
    rw [List.append_nil]
    exact h
  | cons command commands ih =>
    have hcommand : command ≠ .cancel := fun heq => hcommands (heq ▸ List.mem_cons_self)
    have hlater := ih (paced_perform h hcommand) fun hmem => hcommands (List.mem_cons_of_mem _ hmem)
    have htargets : (command :: commands).filterMap ReceiverCommand.target? =
        command.target?.toList ++ commands.filterMap ReceiverCommand.target? := by
      cases command <;> rfl
    dsimp only at hlater ⊢
    rw [List.append_assoc] at hlater
    rw [htargets]
    exact hlater

end Receiver

namespace ReceiverRun

variable [SurfaceAllocator η] [VideoDecoder η] [RepairTransport τ] [DisplaySink κ]

/-- The loop of a session is that of a run from the given state whose account is true. In the run
the owner makes the given changes to the link monitor, and otherwise it is used only by the periodic
check, by the repeat sequences, and by the loop itself, which shows it the access units that it has
read, each at the instant at which it was due. -/
def Explained (fresh : ReceiverRun (Recorded η) κ) (items : List SourceItem)
    (changes : List (LinkMonitor → LinkMonitor)) (s : Session (Recorded η) τ) : Prop :=
  ∃ actions read,
    (fresh.actAll actions).ingest.Follows s.ingest s.stage ∧ items = read ++ s.ingest.items ∧
      (fresh.trace actions).changes = changes ∧
      (fresh.trace actions).shown = Ingest.arrivals read ∧
      (fresh.actAll actions).IngestAccount items (fresh.log actions)

omit [RepairTransport τ] in
theorem explained_of_follows {capacity : Nat} {board : η} {monitor : LinkMonitor}
    {items read : List SourceItem} {sink : κ} {changes : List (LinkMonitor → LinkMonitor)}
    {trace : MonitorTrace} {r : ReceiverRun (Recorded η) κ} {s : Session (Recorded η) τ}
    (hreach : (after capacity (⟨board, []⟩ : Recorded η) monitor items sink []).Reaches trace r)
    (hr : r.ingest.Follows s.ingest s.stage) (hread : s.ingest.Timely items read)
    (hchanges : trace.changes = changes) (hshown : trace.shown = Ingest.arrivals read)
    (hphase : s.ingest.phase ≠ .ended .cancelled) :
    Explained (after capacity (⟨board, []⟩ : Recorded η) monitor items sink []) items changes s := by
  obtain ⟨actions, rfl, rfl⟩ := hreach
  refine ⟨actions, read, hr, hread.items_eq, hchanges, hshown,
    ingestAccount_after capacity board monitor items sink actions fun htask => hphase ?_⟩
  have htask' : s.ingest.phase.task.how? = some .cancelled := hr.task_eq ▸ htask
  cases hs : s.ingest.phase with
  | ended how =>
    rw [hs] at htask'
    cases htask'
    rfl
  | _ =>
    rw [hs] at htask'
    cases htask'

/-- What becomes of a loop that is waited for: it ends and leaves everything in order, or it waits
for a read that never returns, or it is caught in a decoder that never runs out of events. -/
inductive JoinOutcome (items : List SourceItem) (s : Session (Recorded η) τ) : Prop
  | ended (how : IngestEnd) (hphase : s.ingest.phase = .ended how) (hcancelled : s.cancelled = true)
      (hclosed : s.stage.Closed)
  | stalled (hphase : s.ingest.phase = .stalled) (hitem : .stall ∈ items)
  | endless (hphase : s.ingest.phase = .endless) (hbacklog : ¬ BoundedBacklog η)

omit [RepairTransport τ] in
theorem joinOutcome_of_explained {fresh : ReceiverRun (Recorded η) κ} {items : List SourceItem}
    {changes : List (LinkMonitor → LinkMonitor)} {s : Session (Recorded η) τ}
    {instants : List Instant} (hexplained : Explained fresh items changes s)
    (hpaced : s.Paced items instants instants) (hdue : s.ingest.due? = none) :
    JoinOutcome items s := by
  obtain ⟨actions, -, hfollows, -, -, -, haccount⟩ := hexplained
  have htask := hfollows.task_eq
  cases hphase : s.ingest.phase with
  | sleeping t =>
    rw [Ingest.due?_eq_some_iff.2 hphase] at hdue
    cases hdue
  | stalled =>
    rw [hphase] at htask
    obtain ⟨handled, last, events, hingested, -⟩ := haccount.ingested
    exact .stalled hphase (hingested.stall_mem htask)
  | endless => exact .endless hphase fun hbacklog => hpaced.bounded hbacklog.recorded hphase
  | ended how =>
    rw [hphase] at htask
    have hclosed := haccount.closed how htask
    refine .ended how hphase ?_ (hfollows.stage_eq ▸ hclosed)
    rw [hpaced.cancelled_eq, Ingest.isEnded, hphase]

/-- **The ingest loop does as its source says.** On any board, whatever the display and the users of
the link monitor do between any two of its steps, a loop that nobody asks to end deals with the
items of its source in order. It stops exactly at the end of the stream, at a permanent fault, at
the tenth fault in a row, or at an access unit with which the decode stage has failed. Every access
unit up to there is shown to the monitor and then fed, once and in order, and the counter of units
is their number. When the loop has ended, the end of the stream has been signalled, nothing is
pending, the pool is empty and all that the board has handed out has been given back; nothing has
been posted since the signal.

The loop of a receiver is such a loop. Its monitor is what becomes of the one it was started with
when it is shown these units, each at the instant that the pauses before it lead to, and used
besides only by the owner's changes, the periodic check and the repeat sequences. The loop has read
what was due at the instants to which the clock was moved, and nothing that was not. The receiver
counts as cancelled from the moment at which its loop ends, and a loop that is waited for ends,
unless its source or its decoder never answers. -/
theorem ingest_law (board : η) (items : List SourceItem) (sink : κ) :
    (∀ capacity monitor actions, Uncancelled actions →
      let fresh := after capacity (⟨board, []⟩ : Recorded η) monitor items sink []
      (fresh.actAll actions).IngestAccount items (fresh.log actions)) ∧
    ∀ hasRuntime config (transport : τ) (receiver : Receiver (Recorded η) κ τ),
      Receiver.start hasRuntime config items ⟨board, []⟩ sink transport = .ok receiver →
      ∀ commands : List ReceiverCommand, .cancel ∉ commands →
        let fresh := after receiver.session.stage.pool.capacity (⟨board, []⟩ : Recorded η)
          receiver.session.stage.monitor items sink []
        let session := (commands.foldl Receiver.perform receiver).session
        let targets := commands.filterMap ReceiverCommand.target?
        let changes := commands.filterMap ReceiverCommand.change?
        session.Paced items targets targets ∧ Explained fresh items changes session ∧
          Explained fresh items changes session.joinIngest ∧
          JoinOutcome items session.joinIngest := by
  constructor
  · intro capacity monitor actions hactions fresh
    exact ingestAccount_after capacity board monitor items sink actions
      (how?_after_ne_cancelled capacity _ monitor items sink hactions)
  · intro hasRuntime config transport receiver hstart commands hcommands fresh session targets
      changes
    obtain ⟨hfresh, hsession⟩ := follows_start hstart
    have hr := accounted_after receiver.session.stage.pool.capacity (⟨board, []⟩ : Recorded η)
      receiver.session.stage.monitor items sink []
    have hstarted : receiver.session.Paced items [] [] := by
      rw [hsession]
      exact .start _ items transport
    have htimely : receiver.session.ingest.Timely items [] := by
      rw [hsession]
      exact .start items
    have hpaced : session.Paced items targets targets :=
      Receiver.paced_performAll hstarted hcommands
    obtain ⟨more, hjoined⟩ := hpaced.joinIngest
    obtain ⟨r, trace, hreach, hfollows, htrace⟩ := hfresh.performAll hr commands
    obtain ⟨r', trace', hreach', hfollows', htrace'⟩ :=
      hfollows.leads (hreach.accounted hr) session.leads_joinIngest
    have htraces := htrace.trans htrace'
    rw [List.append_nil] at htraces
    obtain ⟨read, hread, hshown⟩ := htrace.timely htimely
    obtain ⟨read', hread', hshown'⟩ := htraces.timely htimely
    have hexplained := explained_of_follows (hreach.trans hreach') hfollows'.ingest hread'
      htraces.changes_eq hshown'.symm hjoined.ne_cancelled
    exact ⟨hpaced, explained_of_follows hreach hfollows.ingest hread htrace.changes_eq hshown.symm
      hpaced.ne_cancelled, hexplained,
      joinOutcome_of_explained hexplained hjoined session.due?_joinIngest⟩

/-- A fault that is retried, an access unit, and a permanent fault: the loop pauses for 100 ms after
the first one, shows the unit to the monitor, for which the link is up from then on, and stops at
the last one. -/
theorem ingest_law_of_two_faults :
    let board : Bench.Board :=
      { events := [.formatChanged (.unpadded 64 48 .nv12), .picture ⟨0x1001⟩ 7] }
    let items : List SourceItem :=
      [.fault (.source "read" none), .unit ⟨[], 7, none, none⟩, .fault (.noRuntime "read"), .stall]
    let steps : List ReceiverAction := List.replicate 40 (.ingest (.proceed 0))
    let fresh := after 1 (⟨board, []⟩ : Recorded Bench.Board) {} items ({} : Bench.Screen) []
    let stopped : IngestEnd := .sourceFailed (.noRuntime "read")
    ((fresh.actAll steps).ingest.task = .ended stopped ∧
        (fresh.actAll steps).IngestAccount items (fresh.log steps)) ∧
      ∃ receiver, Receiver.start true {} items (⟨board, []⟩ : Recorded Bench.Board)
          ({} : Bench.Screen) ({} : Bench.Radio) = .ok receiver ∧
        let session := (receiver.perform (.advanceTo 0)).session
        session.ingest.phase = .sleeping (Duration.ofMillis 100) ∧ session.Paced items [0] [0] ∧
          session.joinIngest.ingest.phase = .ended stopped ∧
          session.joinIngest.stage.monitor.link.state = .up ∧
          JoinOutcome items session.joinIngest := by
  intro board items steps fresh stopped
  have hended : (fresh.actAll steps).ingest.task = .ended stopped := by
    decide +kernel +revert
  obtain ⟨receiver, hstart, hsleeping, hjoined, hup⟩ : ∃ receiver,
      Receiver.start true {} items (⟨board, []⟩ : Recorded Bench.Board) ({} : Bench.Screen)
          ({} : Bench.Radio) = .ok receiver ∧
        (receiver.perform (.advanceTo 0)).session.ingest.phase = .sleeping (Duration.ofMillis 100) ∧
        (receiver.perform (.advanceTo 0)).session.joinIngest.ingest.phase = .ended stopped ∧
        (receiver.perform (.advanceTo 0)).session.joinIngest.stage.monitor.link.state = .up := by
    refine ⟨_, rfl, ?_, ?_, ?_⟩
    · cbv
    · cbv
    · cbv
  obtain ⟨hruns, hreceivers⟩ :=
    ingest_law (τ := Bench.Radio) board items ({} : Bench.Screen)
  obtain ⟨hpaced, -, -, houtcome⟩ :=
    hreceivers true {} {} receiver hstart [.advanceTo 0] (by simp)
  refine ⟨⟨hended, hruns 1 {} steps fun a ha => ?_⟩, receiver, hstart, hsleeping, hpaced, hjoined,
    hup, houtcome⟩
  rw [List.eq_of_mem_replicate ha]
  rintro ⟨⟩

end ReceiverRun

end VideoReceiver
