import VideoReceiver.Proofs.Receiver.Conservation
import VideoReceiver.Proofs.Repair.Sending

/-!
# Receivers on different networks

A receiver does not mind what becomes of a datagram. On every network it makes the same attempts at
the same times, and apart from the network it does the same.

## Main definitions

- `Outbox`: a network on which every attempt succeeds
- `SendsAlike`: a translation of networks under which attempts do the same
- `Session.mapTransport`, `Receiver.mapTransport`: a session or receiver on a translated network
- `ReceiverRun.Heard`: what the network of a session has heard

## Main statements

- `Session.advanceTo_mapTransport`, `Session.joinIngest_mapTransport`,
  `Session.shutdown_mapTransport`: time passes alike on translated networks
- `Receiver.performAll_mapTransport`, `Receiver.wait_mapTransport`: so does a receiver
- `ReceiverRun.heard_performAll`: a network hears what the repeat sequences attempt
-/

namespace VideoReceiver

variable {η κ τ θ : Type}

/-! ## Networks -/

/-- A network on which every attempt succeeds. -/
structure Outbox where
  attempts : List Attempt := []
  deriving DecidableEq, Repr

instance : RepairTransport Outbox where
  send o a := (.ok (), ⟨o.attempts ++ [a]⟩)

/-- An attempt does the same before and after the translation. Whether it fails may differ. -/
def SendsAlike [RepairTransport τ] [RepairTransport θ] (f : τ → θ) : Prop :=
  ∀ t a, (RepairTransport.send (f t) a).2 = f (RepairTransport.send t a).2

namespace SendsAlike

variable [RepairTransport τ] [RepairTransport θ]

theorem sendAll_eq {f : τ → θ} (h : SendsAlike f) (t : τ) (attempts : List Attempt) :
    RepairTransport.sendAll (f t) attempts = f (RepairTransport.sendAll t attempts) := by
  induction attempts generalizing t with
  | nil => rfl
  | cons a attempts ih =>
    show RepairTransport.sendAll (RepairTransport.send (f t) a).2 attempts = _
    rw [h t a, ih]
    rfl

end SendsAlike

namespace Recorder

/-- What a recorder has kept, as a network. -/
def outbox (r : Recorder τ) : Outbox := ⟨r.heard⟩

variable [RepairTransport τ]

theorem sendsAlike_network : SendsAlike fun r : Recorder τ => r.network := fun _ _ => rfl

theorem sendsAlike_outbox : SendsAlike fun r : Recorder τ => r.outbox := fun _ _ => rfl

end Recorder

/-! ## Sessions -/

namespace Session

/-- The session on a translated network. -/
def mapTransport (f : τ → θ) (s : Session η τ) : Session η θ where
  now := s.now
  stage := s.stage
  ingest := s.ingest
  ticker := s.ticker
  cancelled := s.cancelled
  transport := f s.transport
  links := s.links
  linksSeen := s.linksSeen

variable {f : τ → θ}

theorem observeLink_mapTransport (s : Session η τ) :
    (s.mapTransport f).observeLink = s.observeLink.mapTransport f := by
  unfold observeLink
  dsimp only
  split
  · next h => rw [if_pos (show s.linksSeen = s.stage.monitor.link.changes from h)]
  · next h =>
    rw [if_neg (show ¬ s.linksSeen = s.stage.monitor.link.changes from h)]
    rfl

section Sequences

variable [RepairTransport τ] [RepairTransport θ] (h : SendsAlike f)

include h

theorem runSequences_mapTransport (limit : Instant) (s : Session η τ) :
    (s.mapTransport f).runSequences limit = (s.runSequences limit).mapTransport f := by
  simp only [runSequences_eq, mapTransport, h.sendAll_eq]

theorem shutdown_mapTransport (s : Session η τ) :
    (s.mapTransport f).shutdown = s.shutdown.mapTransport f := by
  simp only [shutdown_eq, observeLink_mapTransport]
  simp only [mapTransport, h.sendAll_eq]

end Sequences

theorem check_mapTransport (s : Session η τ) :
    (s.mapTransport f).check = s.check.mapTransport f := rfl

variable [SurfaceAllocator η]

theorem noticeCancel_mapTransport (s : Session η τ) :
    (s.mapTransport f).noticeCancel = s.noticeCancel.mapTransport f := by
  unfold noticeCancel
  split
  · next hc =>
    rw [if_pos (show s.cancelled = true from hc)]
    rfl
  · next hc => rw [if_neg (show ¬ s.cancelled = true from hc)]

variable [VideoDecoder η]

theorem goOn_mapTransport (s : Session η τ) :
    (s.mapTransport f).goOn = s.goOn.mapTransport f := by
  unfold goOn afterIngest
  dsimp only
  split
  · next he =>
    rw [if_pos (show (s.ingest.resume s.now s.stage).1.isEnded = true from he)]
    rfl
  · next he =>
    rw [if_neg (show ¬ (s.ingest.resume s.now s.stage).1.isEnded = true from he)]
    rfl

section Events

variable [RepairTransport τ] [RepairTransport θ] (h : SendsAlike f)

include h

theorem perform_mapTransport (s : Session η τ) (time : Instant) (e : Event) :
    (s.mapTransport f).perform time e = (s.perform time e).mapTransport f := by
  have hrun : { (s.mapTransport f).runSequences time with now := time } =
      ({ s.runSequences time with now := time } : Session η τ).mapTransport f := by
    rw [runSequences_mapTransport h]
    rfl
  cases e with
  | check => simp only [perform, hrun, check_mapTransport, observeLink_mapTransport]
  | ingest => simp only [perform, hrun, goOn_mapTransport, observeLink_mapTransport]

theorem performUntil_mapTransport (target : Instant) (s : Session η τ) :
    (s.mapTransport f).performUntil target = (s.performUntil target).mapTransport f := by
  fun_induction performUntil target s with
  | case1 s time e hnext ih =>
    have hnext' : (s.mapTransport f).nextEvent target = some (time, e) := hnext
    rw [performUntil]
    split
    · next time' e' heq =>
      rw [hnext'] at heq
      cases heq
      rw [perform_mapTransport h, ih]
    · next heq =>
      rw [hnext'] at heq
      cases heq
  | case2 s hnext =>
    have hnext' : (s.mapTransport f).nextEvent target = none := hnext
    rw [performUntil]
    split
    · next heq =>
      rw [hnext'] at heq
      cases heq
    · rfl

theorem advanceTo_mapTransport (target : Instant) (s : Session η τ) :
    (s.mapTransport f).advanceTo target = (s.advanceTo target).mapTransport f := by
  simp only [advanceTo, observeLink_mapTransport, noticeCancel_mapTransport,
    performUntil_mapTransport h, runSequences_mapTransport h]
  rfl

theorem joinIngest_mapTransport (s : Session η τ) :
    (s.mapTransport f).joinIngest = s.joinIngest.mapTransport f := by
  have hgo : ∀ n (s : Session η τ),
      joinIngest.go n (s.mapTransport f) = (joinIngest.go n s).mapTransport f := by
    intro n
    induction n with
    | zero => exact fun s => rfl
    | succ n ih =>
      intro s
      simp only [joinIngest.go]
      rcases hdue : s.ingest.due? with _ | t
      · have hdue' : (s.mapTransport f).ingest.due? = none := hdue
        simp only [hdue']
      · have hdue' : (s.mapTransport f).ingest.due? = some t := hdue
        simp only [hdue']
        rw [← ih, ← advanceTo_mapTransport h]
        rfl
  simp only [joinIngest, observeLink_mapTransport, noticeCancel_mapTransport, ← hgo]
  rfl

end Events

end Session

/-! ## Receivers -/

namespace Receiver

/-- The receiver on a translated network. -/
def mapTransport (f : τ → θ) (r : Receiver η κ τ) : Receiver η κ θ where
  session := r.session.mapTransport f
  sink := r.sink
  presented := r.presented

/-- The receiver on another network. -/
def onto (network : θ) (r : Receiver η κ τ) : Receiver η κ θ := r.mapTransport fun _ => network

variable [SurfaceAllocator η] [VideoDecoder η] [DisplaySink κ]

section Map

variable [RepairTransport τ] [RepairTransport θ] {f : τ → θ} (h : SendsAlike f)

include h

theorem perform_mapTransport (r : Receiver η κ τ) (command : ReceiverCommand) :
    (r.mapTransport f).perform command = (r.perform command).mapTransport f := by
  cases command with
  | advanceTo target =>
    simp only [perform, advanceTo, mapTransport, Session.advanceTo_mapTransport h]
    rfl
  | modifyMonitor g => rfl
  | cancel => rfl

theorem performAll_mapTransport (r : Receiver η κ τ) (commands : List ReceiverCommand) :
    commands.foldl perform (r.mapTransport f) = (commands.foldl perform r).mapTransport f := by
  induction commands generalizing r with
  | nil => rfl
  | cons command commands ih =>
    rw [List.foldl_cons, List.foldl_cons, perform_mapTransport h, ih]

theorem wait_mapTransport (r : Receiver η κ τ) :
    (r.mapTransport f).wait = r.wait.mapTransport f := by
  simp only [wait, mapTransport, Session.joinIngest_mapTransport h]
  rw [← Session.shutdown_mapTransport h]
  rfl

end Map

end Receiver

namespace ReceiverRun

/-- What the network of a session has heard is what the repeat sequences attempt in a run that leads
to the decode stage of the session. In the run the owner makes the given changes to the link
monitor. -/
def Heard [SurfaceAllocator η] [VideoDecoder η] [DisplaySink κ] (fresh : ReceiverRun η κ)
    (changes : List (LinkMonitor → LinkMonitor)) (s : Session η (Recorder τ)) : Prop :=
  ∃ actions, (fresh.actAll actions).stage = s.stage ∧ (fresh.trace actions).changes = changes ∧
    (fresh.trace actions).sent = s.transport.heard

variable [SurfaceAllocator η] [VideoDecoder η] [DisplaySink κ] [RepairTransport τ]

theorem heard_of_traced {r r' : ReceiverRun η κ} {trace : MonitorTrace}
    {changes : List (LinkMonitor → LinkMonitor)} {s s' : Session η (Recorder τ)}
    (hreach : r.Reaches trace r') (hstage : r'.stage = s'.stage)
    (htrace : s.Traced changes trace s') (hfresh : s.transport.heard = []) :
    r.Heard changes s' := by
  obtain ⟨actions, rfl, rfl⟩ := hreach
  refine ⟨actions, hstage, htrace.changes_eq, ?_⟩
  rw [htrace.transport_eq, Recorder.sendAll_eq, hfresh]
  rfl

/-- The network of a receiver hears what the repeat sequences attempt. -/
theorem heard_performAll {hasRuntime : Bool} {config : ReceiverConfig} {items : List SourceItem}
    {board : η} {sink : κ} {network : τ} {receiver : Receiver η κ (Recorder τ)}
    (h : Receiver.start hasRuntime config items board sink ⟨network, []⟩ = .ok receiver)
    (commands : List ReceiverCommand) :
    let stage := receiver.session.stage
    let fresh := after stage.pool.capacity board stage.monitor items sink []
    let r := commands.foldl Receiver.perform receiver
    let changes := commands.filterMap ReceiverCommand.change?
    fresh.Heard changes r.session ∧
      (r.wait.session.ingest.isEnded = true → fresh.Heard changes r.wait.session) := by
  intro stage fresh r changes
  obtain ⟨hfresh, hsession⟩ := follows_start h
  have hr : fresh.Accounted := accounted_after stage.pool.capacity board stage.monitor items sink []
  have hsilent : receiver.session.transport.heard = [] := by
    rw [hsession]
    rfl
  obtain ⟨r₁, _, hreach₁, h₁, htrace₁⟩ := hfresh.performAll hr commands
  refine ⟨heard_of_traced hreach₁ h₁.ingest.stage_eq htrace₁ hsilent, fun hended => ?_⟩
  obtain ⟨r₂, _, hreach₂, -, hstage₂, -, htrace₂⟩ := h₁.wait (hreach₁.accounted hr) hended
  have htrace := htrace₁.trans htrace₂
  rw [List.append_nil] at htrace
  exact heard_of_traced (hreach₁.trans hreach₂) hstage₂ htrace hsilent

end ReceiverRun

end VideoReceiver
