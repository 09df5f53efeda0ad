import VideoReceiver.Proofs.Decode.Backlog
import VideoReceiver.Proofs.Decode.Transcript

/-!
# The fates of access units and events

An operation of the decode stage is a conversation with the decoder. Its events are handled one by
one until there are no more or one of them cannot be; an access unit is offered until the decoder
answers anything but that it is busy, with a full round of events after every such answer. The calls
of an operation tell what became of its access unit, and the counters of the stage are counts of
calls and of fates.

## Main definitions

- `Drained`: the calls of a round of events
- `UnitFate`, `Offered`: what becomes of an access unit, with the calls in which it is offered
- `Episode`, `Episode.Conforms`: an operation that has returned, with the calls that it has made
- `Settled`: the counters of a stage whose operations have all returned

## Main statements

- `Underway.step`: a step of an operation continues its conversation or ends it
- `StageAccount.Tallies.step`, `StageRun.Chronicled.turn`: what holds at every moment of a run
- `StageRun.fate_law`: every access unit and every event has one fate, and it is counted once
-/

namespace VideoReceiver

open DecodeStage (maxBusyRetries)

/-! ## Conversations with a decoder -/

/-- The calls for events that have been handled, with all that they led to. -/
inductive Handled : List DecoderCall → Prop
  | start : Handled []
  | picture {calls : List DecoderCall} (identity : HardwareIdentity) (pts : UInt64)
      (h : Handled calls) : Handled (calls ++ [.poll (.ok (some (.picture identity pts)))])
  | rebuilt {calls : List DecoderCall} (format : PictureFormat) (buffers : List ExternalBuffer)
      (h : Handled calls) :
      Handled (calls ++ [.poll (.ok (some (.formatChanged format))), .register buffers (.ok ())])

/-- The calls of a round of events, which ends when there are no more, when a poll fails, or with
the error of a generation that could not be built. -/
inductive Drained : List DecoderCall → Option ReceiverError → Prop
  | exhausted {calls : List DecoderCall} (h : Handled calls) :
      Drained (calls ++ [.poll (.ok none)]) none
  | pollFailed {calls : List DecoderCall} (e : ReceiverError) (h : Handled calls) :
      Drained (calls ++ [.poll (.error e)]) none
  | unbuilt {calls : List DecoderCall} (format : PictureFormat) (e : ReceiverError)
      (h : Handled calls) :
      Drained (calls ++ [.poll (.ok (some (.formatChanged format)))]) (some e)
  | unregistered {calls : List DecoderCall} (format : PictureFormat)
      (buffers : List ExternalBuffer) (e : ReceiverError) (h : Handled calls) :
      Drained (calls ++ [.poll (.ok (some (.formatChanged format))), .register buffers (.error e)])
        (some e)

/-- The call that offers an access unit, with its answer. -/
def AccessUnit.offered (u : AccessUnit) (answer : Except ReceiverError SubmitOutcome) :
    DecoderCall := .submit u.data u.pts answer

/-- The calls in which an access unit has found the decoder busy `n` times, with a full round of
events after each. -/
inductive Refused (u : AccessUnit) : Nat → List DecoderCall → Prop
  | start : Refused u 0 []
  | again {n : Nat} {calls more : List DecoderCall} (h : Refused u n calls)
      (hmore : Drained more none) :
      Refused u (n + 1) (calls ++ u.offered (.ok .busy) :: more)

/-- What becomes of an access unit. -/
inductive UnitFate where
  | accepted
  /-- The decoder has answered with an error. -/
  | failed
  /-- The decoder was busy every time. -/
  | dropped
  /-- An error has ended the operation while the decoder was busy. -/
  | aborted
  deriving DecidableEq, Repr

/-- The calls in which an access unit is offered for the last time. -/
inductive Offered (u : AccessUnit) : UnitFate → List DecoderCall → Prop
  | accepted {n : Nat} {calls : List DecoderCall} (h : Refused u n calls)
      (hn : n ≤ maxBusyRetries) :
      Offered u .accepted (calls ++ [u.offered (.ok .accepted)])
  | failed {n : Nat} {calls : List DecoderCall} (e : ReceiverError) (h : Refused u n calls)
      (hn : n ≤ maxBusyRetries) :
      Offered u .failed (calls ++ [u.offered (.error e)])
  | dropped {calls : List DecoderCall} (h : Refused u (maxBusyRetries + 1) calls) :
      Offered u .dropped calls

/-- An operation that has returned: the calls that it has made, what became of its access unit, and
the error that it returned. -/
structure Episode where
  operation : StageOperation
  calls : List DecoderCall
  fate : Option UnitFate
  failure : Option ReceiverError

/-- The calls of an operation are what they should be. -/
inductive Episode.Conforms : Episode → Prop
  | fed {u : AccessUnit} {fate : UnitFate} {calls more : List DecoderCall}
      {failure : Option ReceiverError} (h : Offered u fate calls) (hmore : Drained more failure) :
      Conforms ⟨.feed u, calls ++ more, some fate, failure⟩
  | aborted {u : AccessUnit} {n : Nat} {calls more : List DecoderCall} {e : ReceiverError}
      (h : Refused u n calls) (hn : n ≤ maxBusyRetries) (hmore : Drained more (some e)) :
      Conforms ⟨.feed u, calls ++ u.offered (.ok .busy) :: more, some .aborted, some e⟩
  | drained {calls : List DecoderCall} {failure : Option ReceiverError}
      (h : Drained calls failure) :
      Conforms ⟨.drain, calls, none, failure⟩
  | tornDown : Conforms ⟨.teardown, [], none, none⟩

/-! ## Operations that are under way -/

/-- How far a round of events has come, before the tasks `rest`. -/
inductive Handling (rest : List StageTask) :
    Option ReturnGoal → List StageTask → List DecoderCall → Prop
  | polling {calls : List DecoderCall} (h : Handled calls) :
      Handling rest none (.poll :: rest) calls
  | presenting {calls : List DecoderCall} (identity : HardwareIdentity) (pts : UInt64)
      (h : Handled calls) :
      Handling rest none (.present identity pts :: .poll :: rest)
        (calls ++ [.poll (.ok (some (.picture identity pts)))])
  | acquiring {calls : List DecoderCall} (format : PictureFormat) (h : Handled calls) :
      Handling rest (some (.acquire format)) (.poll :: rest)
        (calls ++ [.poll (.ok (some (.formatChanged format)))])
  | failing {calls : List DecoderCall} {e : ReceiverError} (h : Drained calls (some e)) :
      Handling rest (some (.fail e)) (.poll :: rest) calls

/-- How far an operation has come: the calls that it has made, and what has become of its access
unit. -/
inductive Underway : StageOperation → Option ReturnGoal → List StageTask → List DecoderCall →
    Option UnitFate → Prop
  | offering {u : AccessUnit} {n left : Nat} {calls : List DecoderCall} (h : Refused u n calls)
      (hn : n + left = maxBusyRetries + 1) :
      Underway (.feed u) none [.offer u left, .observe u, .poll] calls none
  | retrying {u : AccessUnit} {n left : Nat} {calls more : List DecoderCall}
      {goal : Option ReturnGoal} {tasks : List StageTask} (h : Refused u n calls)
      (hn : n + left = maxBusyRetries)
      (hmore : Handling [.offer u left, .observe u, .poll] goal tasks more) :
      Underway (.feed u) goal tasks (calls ++ u.offered (.ok .busy) :: more) none
  | observing {u : AccessUnit} {fate : UnitFate} {calls : List DecoderCall}
      (h : Offered u fate calls) :
      Underway (.feed u) none [.observe u, .poll] calls (some fate)
  | finishing {u : AccessUnit} {fate : UnitFate} {calls more : List DecoderCall}
      {goal : Option ReturnGoal} {tasks : List StageTask} (h : Offered u fate calls)
      (hmore : Handling [] goal tasks more) :
      Underway (.feed u) goal tasks (calls ++ more) (some fate)
  | draining {calls : List DecoderCall} {goal : Option ReturnGoal} {tasks : List StageTask}
      (h : Handling [] goal tasks calls) :
      Underway .drain goal tasks calls none
  | forgetting : Underway .teardown (some .forget) [] [] none

variable {η : Type} {u : AccessUnit} {n : Nat} {calls more : List DecoderCall} {now : Instant}
  {s s' : DecodeStage η} {goal goal' : Option ReturnGoal}
  {tasks tasks' rest : List StageTask} {failure : Option ReceiverError}

/-- A step of a round of events continues or ends it, and gives up no access unit. -/
theorem Handling.step (h : Handling rest goal tasks calls)
    (hp : Progress now s s' goal tasks goal' tasks' failure more) :
    s'.account.stats.droppedUnits = s.account.stats.droppedUnits ∧
      (failure = none ∧ Handling rest goal' tasks' (calls ++ more) ∨
        Drained (calls ++ more) failure ∧ goal' = none ∧
          tasks' = if failure.isSome then [] else rest) := by
  cases h with
  | polling h =>
    cases hp with
    | worked _ heffect =>
      cases heffect with
      | pollFailed e h' => exact ⟨by rw [h'], .inr ⟨.pollFailed e h, rfl, rfl⟩⟩
      | exhausted h' => exact ⟨by rw [h'], .inr ⟨.exhausted h, rfl, rfl⟩⟩
      | picture identity pts h' => exact ⟨by rw [h'], .inl ⟨rfl, .presenting identity pts h⟩⟩
      | formatChanged format h' => exact ⟨by rw [h'], .inl ⟨rfl, .acquiring format h⟩⟩
  | presenting identity pts h =>
    cases hp with
    | worked _ heffect =>
      cases heffect with
      | unknown _ _ h' =>
        rw [List.append_nil]
        exact ⟨by rw [h'], .inl ⟨rfl, .polling (h.picture identity pts)⟩⟩
      | posted _ _ surface h' =>
        rw [List.append_nil]
        exact ⟨by rw [h'], .inl ⟨rfl, .polling (h.picture identity pts)⟩⟩
  | acquiring format h =>
    cases hp with
    | changed _ heffect =>
      rw [List.append_assoc]
      cases heffect with
      | goesOn _ h' => exact ⟨by rw [h'], .inl ⟨rfl, .acquiring format h⟩⟩
      | unbuilt _ e h' => exact ⟨by rw [h'], .inl ⟨rfl, .failing (.unbuilt format e h)⟩⟩
      | unregistered _ buffers e h' =>
        exact ⟨by rw [h'], .inl ⟨rfl, .failing (.unregistered format buffers e h)⟩⟩
      | registered _ buffers h' =>
        exact ⟨by rw [h'], .inl ⟨rfl, .polling (h.rebuilt format buffers)⟩⟩
    | ended _ heffect => cases heffect
  | failing h =>
    cases hp with
    | changed _ heffect =>
      cases heffect with
      | goesOn _ h' =>
        rw [List.append_nil]
        exact ⟨by rw [h'], .inl ⟨rfl, .failing h⟩⟩
    | ended _ heffect =>
      cases heffect with
      | failed e h' =>
        rw [List.append_nil]
        exact ⟨by rw [h'], .inr ⟨h, rfl, rfl⟩⟩

/-- How many access units a fate counts as dropped. -/
def UnitFate.drops (fate : Option UnitFate) : Nat := if fate = some .dropped then 1 else 0

/-- A step of an operation continues its conversation or ends it; an access unit is counted as
dropped when that becomes its fate. -/
theorem Underway.step {op : StageOperation} {fate : Option UnitFate}
    (h : Underway op goal tasks calls fate)
    (hp : Progress now s s' goal tasks goal' tasks' failure more) :
    ∃ fate',
      s'.account.stats.droppedUnits + UnitFate.drops fate =
        s.account.stats.droppedUnits + UnitFate.drops fate' ∧
      (failure = none ∧ Underway op goal' tasks' (calls ++ more) fate' ∨
        Episode.Conforms ⟨op, calls ++ more, fate', failure⟩ ∧ goal' = none ∧ tasks' = []) := by
  cases h with
  | offering h hn =>
    cases hp with
    | worked _ heffect =>
      cases heffect with
      | dropped _ h' =>
        refine ⟨some .dropped, by rw [h']; rfl, .inl ⟨rfl, ?_⟩⟩
        rw [List.append_nil]
        obtain rfl : _ = maxBusyRetries + 1 := hn
        exact .observing (.dropped h)
      | accepted _ left h' =>
        exact ⟨some .accepted, by rw [h']; rfl, .inl ⟨rfl, .observing (.accepted h (by omega))⟩⟩
      | rejected _ left e h' =>
        exact ⟨some .failed, by rw [h']; rfl, .inl ⟨rfl, .observing (.failed e h (by omega))⟩⟩
      | busy _ left h' =>
        exact ⟨none, by rw [h'], .inl ⟨rfl, .retrying h (by omega) (.polling .start)⟩⟩
  | retrying h hn hmore =>
    obtain ⟨hdropped, ⟨rfl, hnext⟩ | ⟨hdrained, rfl, rfl⟩⟩ := hmore.step hp
    · refine ⟨none, by rw [hdropped], .inl ⟨rfl, ?_⟩⟩
      rw [List.append_assoc]
      exact .retrying h hn hnext
    · rw [List.append_assoc]
      cases failure with
      | none =>
        exact ⟨none, by rw [hdropped], .inl ⟨rfl, .offering (h.again hdrained) (by omega)⟩⟩
      | some e =>
        exact ⟨some .aborted, by rw [hdropped]; rfl,
          .inr ⟨.aborted h (by omega) hdrained, rfl, rfl⟩⟩
  | @observing _ fate _ h =>
    cases hp with
    | worked _ heffect =>
      cases heffect with
      | observed _ h' =>
        exact ⟨some fate, by rw [h'], .inl ⟨rfl, .finishing h (.polling .start)⟩⟩
  | @finishing _ fate _ _ _ _ h hmore =>
    obtain ⟨hdropped, hnext⟩ := hmore.step hp
    refine ⟨some fate, by rw [hdropped], ?_⟩
    rw [List.append_assoc]
    obtain ⟨rfl, hnext⟩ | ⟨hdrained, rfl, rfl⟩ := hnext
    · exact .inl ⟨rfl, .finishing h hnext⟩
    · exact .inr ⟨.fed h hdrained, rfl, by cases failure <;> rfl⟩
  | draining h =>
    obtain ⟨hdropped, ⟨rfl, hnext⟩ | ⟨hdrained, rfl, rfl⟩⟩ := h.step hp
    · exact ⟨none, by rw [hdropped], .inl ⟨rfl, .draining hnext⟩⟩
    · exact ⟨none, by rw [hdropped], .inr ⟨.drained hdrained, rfl, by cases failure <;> rfl⟩⟩
  | forgetting =>
    cases hp with
    | changed _ heffect =>
      cases heffect with
      | goesOn _ h' => exact ⟨none, by rw [h'], .inl ⟨rfl, .forgetting⟩⟩
      | forgotten h' => exact ⟨none, by rw [h'], .inr ⟨.tornDown, rfl, rfl⟩⟩
    | ended _ heffect => cases heffect

/-! ## Counting calls -/

namespace DecoderCall

@[simp]
def isSubmit : DecoderCall → Bool
  | submit .. => true
  | _ => false

@[simp]
def accepts : DecoderCall → Bool
  | submit _ _ (.ok .accepted) => true
  | _ => false

@[simp]
def refuses : DecoderCall → Bool
  | submit _ _ (.ok .busy) => true
  | _ => false

@[simp]
def failsSubmit : DecoderCall → Bool
  | submit _ _ (.error _) => true
  | _ => false

@[simp]
def failsPoll : DecoderCall → Bool
  | poll (.error _) => true
  | _ => false

/-- The poll that ends a round of events. -/
@[simp]
def endsRound : DecoderCall → Bool
  | poll (.ok none) | poll (.error _) => true
  | _ => false

@[simp]
def announcesPicture : DecoderCall → Bool
  | poll (.ok (some (.picture ..))) => true
  | _ => false

@[simp]
def announcesFormat : DecoderCall → Bool
  | poll (.ok (some (.formatChanged _))) => true
  | _ => false

/-- Buffers that the decoder has taken. -/
@[simp]
def registers : DecoderCall → Bool
  | register _ (.ok _) => true
  | _ => false

end DecoderCall

open DecoderCall

@[simp]
def StageTask.isPresent : StageTask → Bool
  | present .. => true
  | _ => false

/-- The counters agree with the calls, while so many pictures wait to be posted. -/
structure StageAccount.Tallies (a : StageAccount) (waiting : Nat) (calls : List DecoderCall) :
    Prop where
  submitted : a.stats.submitted = calls.countP accepts
  busyRetries : a.stats.busyRetries = calls.countP refuses
  decoderErrors : a.stats.decoderErrors = calls.countP failsSubmit + calls.countP failsPoll
  pictures :
    a.stats.pictures + a.stats.unknownBuffers + waiting = calls.countP announcesPicture
  posted : a.posted + a.stats.unknownBuffers + waiting = calls.countP announcesPicture
  rebuilds : a.stats.rebuilds = calls.countP registers
  generation : a.generation = calls.countP registers

/-- A step counts its call, if it makes one. -/
theorem StageAccount.Tallies.step
    (h : s.account.Tallies (tasks.countP StageTask.isPresent) calls)
    (hquiet : goal ≠ none → tasks.countP StageTask.isPresent = 0)
    (hp : Progress now s s' goal tasks goal' tasks' failure more) :
    s'.account.Tallies (tasks'.countP StageTask.isPresent) (calls ++ more) := by
  obtain ⟨hsubmitted, hbusy, herrors, hpictures, hposted, hrebuilds, hgeneration⟩ := h
  cases hp with
  | changed _ heffect =>
    have hnone := hquiet nofun
    cases heffect with
    | goesOn _ h' | unbuilt _ _ h' | unregistered _ _ _ h' | registered _ _ h' | forgotten h' =>
      rw [h']
      constructor <;> simp <;> omega
  | ended _ heffect =>
    have hnone := hquiet nofun
    cases heffect with
    | failed _ h' =>
      rw [h']
      constructor <;> simp <;> omega
  | worked rest heffect =>
    clear hquiet
    cases heffect with
    | dropped _ h' | accepted _ _ h' | rejected _ _ _ h' | busy _ _ h' | observed _ h'
    | pollFailed _ h' | exhausted h' | picture _ _ h' | formatChanged _ h' | unknown _ _ h'
    | posted _ _ _ h' =>
      rw [List.countP_cons] at hpictures hposted
      rw [h']
      constructor <;> simp [List.countP_cons] at * <;> omega

/-- While a change of generation is under way, no picture waits to be posted. -/
theorem Underway.quiet {op : StageOperation} {fate : Option UnitFate}
    (h : Underway op goal tasks calls fate) (hgoal : goal ≠ none) :
    tasks.countP StageTask.isPresent = 0 := by
  have hhandling : ∀ {rest calls}, Handling rest goal tasks calls →
      rest.countP StageTask.isPresent = 0 → tasks.countP StageTask.isPresent = 0 := by
    intro rest calls hmore hrest
    cases hmore with
    | polling | presenting => exact absurd rfl hgoal
    | acquiring | failing => exact hrest
  cases h with
  | offering | observing => exact absurd rfl hgoal
  | retrying _ _ hmore => exact hhandling hmore rfl
  | finishing _ hmore => exact hhandling hmore rfl
  | draining hmore => exact hhandling hmore rfl
  | forgetting => rfl

theorem Underway.not_done {op : StageOperation} {fate : Option UnitFate} :
    ¬ Underway op none [] calls fate := by
  intro h
  cases h with
  | retrying _ _ hmore => cases hmore
  | finishing _ hmore => cases hmore
  | draining hmore => cases hmore

theorem Underway.not_idle {r : StageRun η} {op : StageOperation} {fate : Option UnitFate}
    (h : Underway op r.goal r.tasks calls fate) : ¬ r.Idle := by
  rintro ⟨hchange, htasks⟩
  rw [r.goal_eq_none_iff.2 hchange, htasks] at h
  exact Underway.not_done h

/-! ## The invariant of a run -/

namespace StageRun

/-- The operation that an action starts. -/
def started (r : StageRun η) : StageAction → List StageOperation
  | .start op => if r.Idle then [op] else []
  | .proceed _ | .take | .finish | .watch _ => []

/-- How the operations that a run has started stand: those that have returned, and the latest one
with its calls so far. -/
inductive Standing (r : StageRun η) (past : List Episode) :
    List StageOperation → List DecoderCall → Option UnitFate → Prop
  | returned (hidle : r.Idle) (hfailure : r.failure = past.getLast?.bind Episode.failure) :
      Standing r past (past.map Episode.operation) [] none
  | underway {op : StageOperation} {calls : List DecoderCall} {fate : Option UnitFate}
      (hop : r.operation = some op) (hfailure : r.failure = none)
      (h : Underway op r.goal r.tasks calls fate) :
      Standing r past (past.map Episode.operation ++ [op]) calls fate

/-- The invariant of a run that has started the given operations. -/
structure Chronicled (r : StageRun (Overheard η)) (operations : List StageOperation)
    (past : List Episode) (calls : List DecoderCall) (fate : Option UnitFate) : Prop where
  conforms : ∀ e ∈ past, e.Conforms
  heard : r.stage.hardware.calls = past.flatMap Episode.calls ++ calls
  droppedUnits :
    r.stage.account.stats.droppedUnits =
      past.countP (·.fate == some .dropped) + UnitFate.drops fate
  tallies :
    r.stage.account.Tallies (r.tasks.countP StageTask.isPresent) r.stage.hardware.calls
  standing : r.Standing past operations calls fate

variable {r : StageRun (Overheard η)} {operations : List StageOperation} {past : List Episode}
  {fate : Option UnitFate}

/-- An operation that starts has made no calls yet. -/
theorem Chronicled.start (h : r.Chronicled operations past [] none) (hidle : r.Idle)
    (op : StageOperation) :
    Chronicled ⟨r.stage, op.change, op.tasks, some op, none⟩
      (past.map Episode.operation ++ [op]) past [] none where
  conforms := h.conforms
  heard := h.heard
  droppedUnits := h.droppedUnits
  tallies := by
    have htallies := h.tallies
    rw [hidle.2] at htallies
    cases op <;> exact htallies
  standing := by
    cases op with
    | feed u => exact .underway rfl rfl (.offering .start (Nat.zero_add _))
    | drain => exact .underway rfl rfl (.draining (.polling .start))
    | teardown => exact .underway rfl rfl .forgetting

/-- What other parties do to the mailbox and to the monitor is not part of the account. -/
theorem Chronicled.aside {s : DecodeStage (Overheard η)}
    (h : r.Chronicled operations past calls fate) (hcalls : s.hardware = r.stage.hardware)
    (haccount : s.account = r.stage.account) :
    Chronicled { r with stage := s } operations past calls fate where
  conforms := h.conforms
  heard := by rw [hcalls, h.heard]
  droppedUnits := by rw [haccount, h.droppedUnits]
  tallies := by
    rw [hcalls, haccount]
    exact h.tallies
  standing := by
    cases h.standing with
    | returned hidle hfailure => exact .returned hidle hfailure
    | underway hop hfailure hunderway => exact .underway hop hfailure hunderway

/-- An operation that returns becomes part of the past. -/
theorem Chronicled.concat {op : StageOperation} {failure : Option ReceiverError}
    (hconforms : ∀ e ∈ past, e.Conforms) (hepisode : Episode.Conforms ⟨op, calls, fate, failure⟩)
    (hheard : r.stage.hardware.calls = past.flatMap Episode.calls ++ calls)
    (hdropped : r.stage.account.stats.droppedUnits =
      past.countP (·.fate == some .dropped) + UnitFate.drops fate)
    (htallies : r.stage.account.Tallies (r.tasks.countP StageTask.isPresent)
      r.stage.hardware.calls)
    (hidle : r.Idle) (hfailure : r.failure = failure) :
    r.Chronicled (past.map Episode.operation ++ [op]) (past ++ [⟨op, calls, fate, failure⟩]) []
      none where
  conforms := List.forall_mem_append.2 ⟨hconforms, List.forall_mem_singleton.2 hepisode⟩
  heard := by
    rw [hheard, List.flatMap_append, List.flatMap_singleton, List.append_nil]
  droppedUnits := by
    rw [hdropped, List.countP_append]
    simp [UnitFate.drops, List.countP_cons]
  tallies := htallies
  standing := by
    have hreturned := @Standing.returned _ r (past ++ [⟨op, calls, fate, failure⟩]) hidle
    simpa [hfailure] using hreturned

theorem Chronicled.turn {a : StageAction} {r' : StageRun (Overheard η)}
    (h : r.Chronicled operations past calls fate) (hturn : r.Turn a r') :
    ∃ past calls fate, r'.Chronicled (operations ++ r.started a) past calls fate := by
  cases hturn with
  | started op hidle =>
    rw [started, if_pos hidle]
    have hstanding := h.standing
    cases hstanding with
    | returned => exact ⟨past, [], none, h.start hidle op⟩
    | underway _ _ hunderway => exact absurd hidle hunderway.not_idle
  | aside _ hstart _ hhardware haccount =>
    have hnone : r.started a = [] := by
      cases a with
      | start op => rw [started, if_neg (hstart op rfl)]
      | _ => rfl
    rw [hnone, List.append_nil]
    exact ⟨past, calls, fate, h.aside hhardware haccount⟩
  | @advanced _ more failure now hidle hcalls hprogress hfailure hop =>
    rw [started, List.append_nil]
    obtain ⟨hconforms, hheard, hdropped, htallies, hstanding⟩ := h
    cases hstanding with
    | returned h => exact absurd h hidle
    | underway hop' hfailure' h =>
      have htallies' := htallies.step h.quiet hprogress
      rw [← hcalls] at htallies'
      rw [hop'] at hop
      rw [hfailure', Option.or_none] at hfailure
      rw [hheard, List.append_assoc] at hcalls
      obtain ⟨fate', hdrops, ⟨rfl, hnext⟩ | ⟨hepisode, hgoal, htasks⟩⟩ := h.step hprogress
      · refine ⟨past, _, fate', hconforms, hcalls, ?_, htallies', .underway hop hfailure hnext⟩
        omega
      · exact ⟨_, [], none, .concat hconforms hepisode hcalls (by omega) htallies'
          ⟨(goal_eq_none_iff _).1 hgoal, htasks⟩ hfailure⟩

variable [SurfaceAllocator η] [VideoDecoder η]

/-- The operations that a run starts. -/
def operationsOf (r : StageRun η) : List StageAction → List StageOperation
  | [] => []
  | a :: actions => r.started a ++ operationsOf (r.act a) actions

theorem Chronicled.actAll (h : r.Chronicled operations past calls fate)
    (actions : List StageAction) :
    ∃ past calls fate,
      (r.actAll actions).Chronicled (operations ++ r.operationsOf actions) past calls fate := by
  induction actions generalizing r operations past calls fate with
  | nil =>
    rw [operationsOf, List.append_nil]
    exact ⟨past, calls, fate, h⟩
  | cons a actions ih =>
    obtain ⟨past, calls, fate, hact⟩ := h.turn (r.act_turn a)
    rw [operationsOf, ← List.append_assoc]
    exact ih hact

end StageRun

/-! ## What the calls of an operation tell -/

def StageOperation.unit? : StageOperation → Option AccessUnit
  | feed u => some u
  | _ => none

theorem Handled.counts (h : Handled calls) :
    calls.filter isSubmit = [] ∧ calls.countP endsRound = 0 ∧
      calls.countP announcesFormat = calls.countP registers := by
  induction h with
  | start => exact ⟨rfl, rfl, rfl⟩
  | picture identity pts _ ih => simp [ih]
  | rebuilt format buffers _ ih => simp [ih, List.countP_cons]

theorem Drained.counts (h : Drained calls failure) :
    calls.filter isSubmit = [] ∧ calls.countP endsRound = (if failure.isSome then 0 else 1) ∧
      calls.countP announcesFormat =
        calls.countP registers + (if failure.isSome then 1 else 0) := by
  cases h with
  | exhausted h | pollFailed _ h | unbuilt _ _ h | unregistered _ _ _ h =>
    simp [h.counts, List.countP_cons]

theorem Refused.counts (h : Refused u n calls) :
    calls.filter isSubmit = List.replicate n (u.offered (.ok .busy)) ∧
      calls.countP endsRound = n ∧ calls.countP announcesFormat = calls.countP registers := by
  induction h with
  | start => exact ⟨rfl, rfl, rfl⟩
  | again _ hmore ih =>
    simp [ih, hmore.counts, AccessUnit.offered, List.filter_cons, List.replicate_succ']

/-- The offer that settles the fate of an access unit, unless the decoder was always busy. -/
inductive UnitFate.Settles (u : AccessUnit) : UnitFate → List DecoderCall → Prop
  | accepted : Settles u .accepted [u.offered (.ok .accepted)]
  | failed (e : ReceiverError) : Settles u .failed [u.offered (.error e)]
  | dropped : Settles u .dropped []
  | aborted : Settles u .aborted []

theorem Offered.offers {fate : UnitFate} (h : Offered u fate calls) :
    ∃ n last, n + last.length ≤ maxBusyRetries + 1 ∧
      calls.filter isSubmit = List.replicate n (u.offered (.ok .busy)) ++ last ∧
      fate.Settles u last := by
  cases h with
  | @accepted n _ h hn =>
    exact ⟨n, [_], Nat.succ_le_succ hn, by simp [h.counts, AccessUnit.offered], .accepted⟩
  | @failed n _ e h hn =>
    exact ⟨n, [_], Nat.succ_le_succ hn, by simp [h.counts, AccessUnit.offered], .failed e⟩
  | dropped h => exact ⟨_, [], Nat.le_refl _, by simp [h.counts], .dropped⟩

namespace Episode

variable {e : Episode}

/-- The offers of an access unit: some that found the decoder busy, and the last one. -/
theorem Conforms.offers (h : e.Conforms) (hu : e.operation.unit? = some u) :
    ∃ n fate last, e.fate = some fate ∧ n + last.length ≤ maxBusyRetries + 1 ∧
      e.calls.filter isSubmit = List.replicate n (u.offered (.ok .busy)) ++ last ∧
      fate.Settles u last := by
  cases h with
  | @fed _ fate _ _ _ h hmore =>
    cases hu
    obtain ⟨n, last, hle, hoffers, hlast⟩ := h.offers
    exact ⟨n, fate, last, rfl, hle, by simp [hoffers, hmore.counts], hlast⟩
  | @aborted _ n _ _ _ h hn hmore =>
    cases hu
    refine ⟨n + 1, .aborted, [], rfl, Nat.succ_le_succ hn, ?_, .aborted⟩
    simp [h.counts, hmore.counts, AccessUnit.offered, List.filter_cons, List.replicate_succ']
  | drained => cases hu
  | tornDown => cases hu

/-- Only a feed offers anything. -/
theorem Conforms.offers_eq_nil (h : e.Conforms) (hu : e.operation.unit? = none) :
    e.fate = none ∧ e.calls.filter isSubmit = [] := by
  cases h with
  | fed | aborted => cases hu
  | drained h => exact ⟨rfl, h.counts.1⟩
  | tornDown => exact ⟨rfl, rfl⟩

/-- Every format leads to a generation or to an error. -/
theorem Conforms.formats (h : e.Conforms) :
    e.calls.countP announcesFormat =
      e.calls.countP registers + (if e.failure.isSome then 1 else 0) := by
  cases h with
  | fed h hmore =>
    cases h with
    | accepted h | failed _ h | dropped h =>
      simp [h.counts, hmore.counts, AccessUnit.offered, Nat.add_assoc]
  | aborted h _ hmore =>
    simp [h.counts, hmore.counts, AccessUnit.offered, Nat.add_assoc]
  | drained h => exact h.counts.2.2
  | tornDown => rfl

theorem Conforms.offers_le (h : e.Conforms) : e.calls.countP isSubmit ≤ maxBusyRetries + 1 := by
  rw [List.countP_eq_length_filter]
  rcases hu : e.operation.unit? with _ | u
  · rw [(h.offers_eq_nil hu).2]
    exact Nat.zero_le _
  · obtain ⟨n, fate, last, -, hle, hoffers, -⟩ := h.offers hu
    rw [hoffers, List.length_append, List.length_replicate]
    exact hle

/-- An access unit is accepted once or not at all. -/
theorem Conforms.acceptances (h : e.Conforms) :
    e.calls.filter accepts =
      if e.fate = some .accepted then
        (e.operation.unit?.map (·.offered (.ok .accepted))).toList
      else [] := by
  have hsubmits : e.calls.filter accepts = (e.calls.filter isSubmit).filter accepts := by
    rw [List.filter_filter]
    congr
    funext call
    rcases call with ⟨_, _, _ | _ | _⟩ | _ | _ <;> rfl
  rw [hsubmits]
  rcases hu : e.operation.unit? with _ | u
  · simp [h.offers_eq_nil hu]
  · obtain ⟨n, fate, last, hfate, -, hoffers, hlast⟩ := h.offers hu
    rw [hoffers, hfate]
    cases hlast with
    | accepted | failed | dropped | aborted => simp [AccessUnit.offered]

theorem Conforms.failedOffers (h : e.Conforms) :
    e.calls.countP failsSubmit = if e.fate == some .failed then 1 else 0 := by
  have hsubmits : e.calls.countP failsSubmit = (e.calls.filter isSubmit).countP failsSubmit := by
    rw [List.countP_filter]
    congr
    funext call
    rcases call with ⟨_, _, _ | _ | _⟩ | _ | _ <;> rfl
  rw [hsubmits]
  rcases hu : e.operation.unit? with _ | u
  · simp [h.offers_eq_nil hu]
  · obtain ⟨n, fate, last, hfate, -, hoffers, hlast⟩ := h.offers hu
    rw [hoffers, hfate]
    cases hlast with
    | accepted | failed | dropped | aborted => simp [AccessUnit.offered]

/-- An access unit is dropped after as many complete rounds of events as it was offered; one that is
aborted has not seen so many. -/
theorem Conforms.rounds (h : e.Conforms) :
    (e.fate = some .dropped → maxBusyRetries < e.calls.countP endsRound) ∧
      (e.fate = some .aborted → e.calls.countP endsRound ≤ maxBusyRetries) := by
  cases h with
  | fed h hmore =>
    refine ⟨fun hfate => ?_, fun hfate => ?_⟩ <;> cases hfate
    · cases h with
      | dropped h =>
        rw [List.countP_append, h.counts.2.1]
        omega
    · cases h
  | aborted h hn hmore =>
    refine ⟨nofun, fun _ => ?_⟩
    rw [List.countP_append, h.counts.2.1, List.countP_cons, hmore.counts.2.1]
    exact hn
  | drained | tornDown => exact ⟨nofun, nofun⟩

/-- What becomes of an access unit, as the calls tell it. -/
def toldFate (calls : List DecoderCall) : UnitFate :=
  if calls.filter accepts ≠ [] then .accepted
  else if calls.countP failsSubmit ≠ 0 then .failed
  else if calls.countP endsRound ≤ maxBusyRetries then .aborted
  else .dropped

theorem Conforms.fate_eq (h : e.Conforms) :
    e.fate = e.operation.unit?.map fun _ => toldFate e.calls := by
  rcases hu : e.operation.unit? with _ | u
  · exact (h.offers_eq_nil hu).1
  · obtain ⟨n, fate, last, hfate, -⟩ := h.offers hu
    have haccepts := h.acceptances
    have hfails := h.failedOffers
    obtain ⟨hdropped, haborted⟩ := h.rounds
    rw [hfate, hu] at haccepts
    rw [hfate] at hfails hdropped haborted ⊢
    cases fate with
    | accepted => simp [toldFate, haccepts]
    | failed => simp [toldFate, haccepts, hfails]
    | dropped => simp [toldFate, haccepts, hfails, hdropped rfl]
    | aborted => simp [toldFate, haccepts, hfails, haborted rfl]

theorem Conforms.countP_accepts (h : e.Conforms) :
    e.calls.countP accepts = if e.fate == some .accepted then 1 else 0 := by
  rw [List.countP_eq_length_filter, h.acceptances]
  have hfate := h.fate_eq
  rcases hu : e.operation.unit? with _ | u <;> rw [hu] at hfate
  · simp [hfate]
  · by_cases haccepted : e.fate = some .accepted <;> simp [haccepted]

end Episode

theorem Handling.offers_eq_nil (h : Handling rest goal tasks calls) :
    calls.filter isSubmit = [] := by
  cases h with
  | polling h => exact h.counts.1
  | presenting _ _ h | acquiring _ h => simp [h.counts]
  | failing h => exact h.counts.1

/-- An operation that has not returned offers no more than one that has. -/
theorem Underway.offers_le {op : StageOperation} {fate : Option UnitFate}
    (h : Underway op goal tasks calls fate) : calls.countP isSubmit ≤ maxBusyRetries + 1 := by
  rw [List.countP_eq_length_filter]
  cases h with
  | offering h hn =>
    rw [h.counts.1, List.length_replicate]
    omega
  | retrying h hn hmore =>
    simp [h.counts, hmore.offers_eq_nil, AccessUnit.offered, List.filter_cons]
    omega
  | observing h =>
    obtain ⟨n, last, hle, hoffers, -⟩ := h.offers
    rw [hoffers, List.length_append, List.length_replicate]
    exact hle
  | finishing h hmore =>
    obtain ⟨n, last, hle, hoffers, -⟩ := h.offers
    rw [List.filter_append, hoffers, hmore.offers_eq_nil, List.append_nil, List.length_append,
      List.length_replicate]
    exact hle
  | draining h => simp [h.offers_eq_nil]
  | forgetting => exact Nat.zero_le _

/-! ## The account of a run -/

/-- The access units that operations were given. -/
def Episode.units (episodes : List Episode) : List AccessUnit :=
  episodes.filterMap (·.operation.unit?)

/-- A decode stage at rest after the given operations: every access unit and every event has met its
fate, and the counters have counted it. -/
structure Settled (s : DecodeStage (Overheard η)) (episodes : List Episode) : Prop where
  heard : s.hardware.calls = episodes.flatMap Episode.calls
  conforms : ∀ e ∈ episodes, e.Conforms
  /-- The calls allow of no other fate. -/
  fates : ∀ e ∈ episodes, ∀ fate failure,
    Episode.Conforms ⟨e.operation, e.calls, fate, failure⟩ → fate = e.fate
  accepted :
    s.hardware.calls.filter accepts =
      (Episode.units (episodes.filter (·.fate == some .accepted))).map (·.offered (.ok .accepted))
  inOrder :
    (s.hardware.calls.filter accepts).Sublist
      ((Episode.units episodes).map (·.offered (.ok .accepted)))
  submitted : s.stats.submitted = s.hardware.calls.countP accepts
  busyRetries : s.stats.busyRetries = s.hardware.calls.countP refuses
  decoderErrors :
    s.stats.decoderErrors =
      s.hardware.calls.countP failsSubmit + s.hardware.calls.countP failsPoll
  droppedUnits : s.stats.droppedUnits = episodes.countP (·.fate == some .dropped)
  units :
    (Episode.units episodes).length =
      s.stats.submitted + s.stats.droppedUnits + s.hardware.calls.countP failsSubmit +
        episodes.countP (·.fate == some .aborted)
  pictures :
    s.stats.pictures + s.stats.unknownBuffers = s.hardware.calls.countP announcesPicture
  posted : s.stats.pictures = s.mailbox.posted
  rebuilds : s.stats.rebuilds = s.pool.generation
  generation : s.pool.generation = s.hardware.calls.countP registers
  formats :
    s.hardware.calls.countP announcesFormat =
      s.stats.rebuilds + episodes.countP (·.failure.isSome)

namespace Episode

variable {episodes : List Episode}

theorem filter_accepts_calls (h : ∀ e ∈ episodes, e.Conforms) :
    (episodes.flatMap Episode.calls).filter accepts =
      (units (episodes.filter (·.fate == some .accepted))).map (·.offered (.ok .accepted)) := by
  induction episodes with
  | nil => rfl
  | cons e episodes ih =>
    rw [List.flatMap_cons, List.filter_append, (h e List.mem_cons_self).acceptances,
      ih fun e he => h e (List.mem_cons_of_mem _ he)]
    by_cases hfate : e.fate = some .accepted
    · rcases hu : e.operation.unit? with _ | u <;> simp [units, hfate, hu]
    · simp [units, hfate]

/-- Calls that an operation makes once when its access unit meets a fate, and never otherwise. -/
theorem countP_calls {p : DecoderCall → Bool} {fate : UnitFate}
    (hone : ∀ e : Episode, e.Conforms →
      e.calls.countP p = if e.fate == some fate then 1 else 0)
    (h : ∀ e ∈ episodes, e.Conforms) :
    (episodes.flatMap Episode.calls).countP p = episodes.countP (·.fate == some fate) := by
  induction episodes with
  | nil => rfl
  | cons e episodes ih =>
    rw [List.flatMap_cons, List.countP_append, hone e (h e List.mem_cons_self),
      ih fun e he => h e (List.mem_cons_of_mem _ he), List.countP_cons, Nat.add_comm]

theorem countP_announcesFormat_calls (h : ∀ e ∈ episodes, e.Conforms) :
    (episodes.flatMap Episode.calls).countP announcesFormat =
      (episodes.flatMap Episode.calls).countP registers + episodes.countP (·.failure.isSome) := by
  induction episodes with
  | nil => rfl
  | cons e episodes ih =>
    rw [List.flatMap_cons, List.countP_append, (h e List.mem_cons_self).formats,
      ih fun e he => h e (List.mem_cons_of_mem _ he), List.countP_append, List.countP_cons]
    omega

/-- Every access unit has one of the four fates. -/
theorem length_units (h : ∀ e ∈ episodes, e.Conforms) :
    (units episodes).length =
      episodes.countP (·.fate == some .accepted) + episodes.countP (·.fate == some .failed) +
        episodes.countP (·.fate == some .dropped) + episodes.countP (·.fate == some .aborted) := by
  induction episodes with
  | nil => rfl
  | cons e episodes ih =>
    have hrest := ih fun e he => h e (List.mem_cons_of_mem _ he)
    have hfate := (h e List.mem_cons_self).fate_eq
    simp only [units] at hrest
    simp only [units, List.filterMap_cons, List.countP_cons]
    rcases hu : e.operation.unit? with _ | u <;> rw [hu] at hfate <;> rw [hfate]
    · simpa using hrest
    · rw [Option.map_some]
      cases toldFate e.calls <;> simp [hrest] <;> omega

end Episode

namespace StageRun

variable {r : StageRun (Overheard η)} {operations : List StageOperation} {past : List Episode}
  {fate : Option UnitFate}

theorem Chronicled.settled (h : r.Chronicled operations past calls fate) (hidle : r.Idle) :
    r.failure = past.getLast?.bind Episode.failure ∧ Settled r.stage past := by
  obtain ⟨hconforms, hheard, hdropped, htallies, hstanding⟩ := h
  cases hstanding with
  | underway _ _ hunderway => exact absurd hidle hunderway.not_idle
  | returned _ hfailure =>
    rw [List.append_nil] at hheard
    rw [hidle.2] at htallies
    have haccepts := Episode.filter_accepts_calls hconforms
    have haccepted := Episode.countP_calls (fun _ => Episode.Conforms.countP_accepts) hconforms
    have hfailed := Episode.countP_calls (fun _ => Episode.Conforms.failedOffers) hconforms
    have hformats := Episode.countP_announcesFormat_calls hconforms
    have hunits := Episode.length_units hconforms
    rw [← hheard] at haccepts haccepted hfailed hformats
    refine ⟨hfailure, hheard, hconforms, fun e he fate failure he' => ?_, haccepts, ?_,
      htallies.submitted, htallies.busyRetries, htallies.decoderErrors, hdropped, ?_,
      htallies.pictures, ?_, ?_, htallies.generation, ?_⟩
    · exact he'.fate_eq.trans (hconforms e he).fate_eq.symm
    · rw [haccepts]
      exact (List.filter_sublist.filterMap _).map _
    · have hsubmitted : r.stage.stats.submitted = _ := htallies.submitted
      have hdropped : r.stage.stats.droppedUnits = _ := hdropped
      rw [hunits, hsubmitted, hdropped, haccepted, hfailed]
      change _ = _ + (_ + 0) + _ + _
      omega
    · exact Nat.add_right_cancel (htallies.pictures.trans htallies.posted.symm)
    · exact htallies.rebuilds.trans htallies.generation.symm
    · have hrebuilds : r.stage.stats.rebuilds = _ := htallies.rebuilds
      rw [hformats, hrebuilds]

theorem Standing.offers_le {r : StageRun η} (h : r.Standing past operations calls fate) :
    calls.countP isSubmit ≤ maxBusyRetries + 1 := by
  cases h with
  | returned => exact Nat.zero_le _
  | underway _ _ hunderway => exact hunderway.offers_le

theorem Standing.operations_eq {r : StageRun η} (h : r.Standing past operations calls fate) :
    operations =
      past.map Episode.operation ++ if r.Idle then [] else r.operation.toList := by
  cases h with
  | returned hidle => rw [if_pos hidle, List.append_nil]
  | underway hop _ hunderway => rw [if_neg hunderway.not_idle, hop, Option.toList_some]

/-- **Every access unit and every event has one fate.** A decode stage is fed, drained and torn down
on any board, while a consumer takes frames and others use the mailbox's end and the monitor,
between any two of its calls. A recorder of the decoder's calls does not change the run. Every
operation that has returned has made the calls that it should, and none, returned or not, offers its
access unit more than nine times. When the latest operation has returned, the decoder has accepted
some of the access units, in order, and the counters of the stage are the numbers of calls and of
fates. An operation that is performed without interruption, and has an end, is part of such a run;
it has an end if the decoder keeps to its backlog. -/
theorem fate_law (η : Type) [SurfaceAllocator η] [VideoDecoder η] (capacity : Nat) (board : η)
    (monitor : LinkMonitor) (actions : List StageAction) :
    let fresh : StageRun (Overheard η) :=
      { stage := { hardware := ⟨board, []⟩, pool := { capacity }, monitor } }
    let r := fresh.actAll actions
    r.map Overheard.board = after capacity board monitor actions ∧
    (∃ (episodes : List Episode) (calls : List DecoderCall),
      r.stage.hardware.calls = episodes.flatMap Episode.calls ++ calls ∧
      fresh.operationsOf actions =
        episodes.map Episode.operation ++ (if r.Idle then [] else r.operation.toList) ∧
      (∀ e ∈ episodes, e.Conforms ∧ e.calls.countP isSubmit ≤ 9) ∧ calls.countP isSubmit ≤ 9 ∧
      (r.Idle →
        r.failure = episodes.getLast?.bind Episode.failure ∧ Settled r.stage episodes)) ∧
    (r.Idle → ∀ (op : StageOperation) (now : Instant), (op.perform now r.stage).1 ≠ .endless →
      ∃ n, r.actAll (.start op :: List.replicate n (.proceed now)) =
        ⟨(op.perform now r.stage).2, none, [], some op, (op.perform now r.stage).1.error?⟩) ∧
    (BoundedBacklog η → ∀ (op : StageOperation) (now : Instant),
      (op.perform now r.stage).1 ≠ .endless) := by
  intro fresh r
  have hfresh : fresh.Chronicled [] [] [] none :=
    ⟨fun _ he => absurd he List.not_mem_nil, rfl, rfl, ⟨rfl, rfl, rfl, rfl, rfl, rfl, rfl⟩,
      .returned ⟨rfl, rfl⟩ rfl⟩
  obtain ⟨past, calls, fate, hrun⟩ := hfresh.actAll actions
  refine ⟨(actAll_map Overheard.answersAlike fresh actions).symm,
    ⟨past, calls, hrun.heard, hrun.standing.operations_eq, ?_, hrun.standing.offers_le,
      hrun.settled⟩,
    fun hidle => performed_actAll hidle, fun hbacklog op now => ?_⟩
  · exact fun e he => ⟨hrun.conforms e he, (hrun.conforms e he).offers_le⟩
  · exact (hbacklog.of_answersAlike Overheard.answersAlike).perform_ne_endless op now r.stage

end StageRun

end VideoReceiver
