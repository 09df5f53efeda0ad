import VideoReceiver.Proofs.Decode.Balance
import VideoReceiver.Proofs.Receiver.Conservation

/-!
# What the ingest loop makes of its source

The ingest loop deals with the items of its source in order and stops at the first one that leaves
it no choice. Whatever the other parties do meanwhile, every access unit is shown to the link
monitor and then fed to the decode stage, once.

## Main definitions

- `Ingest.Passes`, `Ingest.Stops`: after which items the loop reads on, and at which it stops
- `IngestEvent`, `ReceiverRun.log`: what it does with access units
- `IngestRun.Stands`, `IngestRun.Ingested`: how far it has come

## Main statements

- `IngestRun.Ingested.act`: what a step of the loop does with the items
- `ReceiverRun.ingested_after`: what has become of the items of a source
- `ReceiverRun.closed_of_ended`: what the loop leaves behind
- `ReceiverRun.ingestAccount_after`: the account of a loop that nobody has asked to end
-/

namespace VideoReceiver

variable {η κ : Type}

/-- What the ingest loop does with an access unit. -/
inductive IngestEvent where
  /-- It is shown to the link monitor. -/
  | shown (u : AccessUnit)
  /-- The decode stage has been fed with it, and may have failed. -/
  | fed (u : AccessUnit) (failure : Option ReceiverError)
  deriving DecidableEq, Repr

namespace Ingest

/-! ## Reading on -/

/-- An item after which the loop reads on: a fault that is not permanent and not the tenth in a row,
and whatever is no fault and does not end the stream. -/
inductive Passes (before : List SourceItem) : SourceItem → Prop
  | unit (u : AccessUnit) : Passes before (.unit u)
  | wait (d : Duration) : Passes before (.wait d)
  | fault (e : ReceiverError) (hretryable : e.isRetryable = true)
      (hfew : faultRun before + 1 < 10) : Passes before (.fault e)

theorem Passes.of_retried {before : List SourceItem} {e : ReceiverError}
    (h : (e.isRetryable && faultRun before + 1 < maxFaults) = true) : Passes before (.fault e) := by
  rw [Bool.and_eq_true, decide_eq_true_eq] at h
  exact .fault e h.1 h.2

/-- The loop reads on only while fewer than ten faults have come in a row. -/
theorem faultRun_lt {items : List SourceItem} (h : Each Passes items) : faultRun items < 10 := by
  induction items using List.reverseRecOn with
  | nil => decide
  | append_singleton items x ih =>
    rw [faultRun_append]
    cases h items x [] rfl with
    | unit u => exact Nat.zero_lt_succ 9
    | wait d => exact ih h.of_append
    | fault e hretryable hfew => exact hfew

/-- Why the loop stops, given the items that it has dealt with, the one at which it stops, those
that it does not read any more, and what it has done with the one at which it stops. -/
inductive Stops (handled : List SourceItem) :
    List SourceItem → List SourceItem → List IngestEvent → IngestEnd → Prop
  | exhausted : Stops handled [] [] [] .endOfStream
  | finish (rest : List SourceItem) : Stops handled [.finish] rest [] .endOfStream
  | permanent (e : ReceiverError) (hpermanent : e.isRetryable = false) (rest : List SourceItem) :
      Stops handled [.fault e] rest [] (.sourceFailed e)
  | tenth (e : ReceiverError) (hretryable : e.isRetryable = true) (hrun : faultRun handled = 9)
      (rest : List SourceItem) : Stops handled [.fault e] rest [] (.sourceFailed e)
  | failed (u : AccessUnit) (e : ReceiverError) (rest : List SourceItem) :
      Stops handled [.unit u] rest [.shown u, .fed u (some e)] (.fatal e)

/-- A fault that is not retried is permanent, or it is the tenth in a row. -/
theorem Stops.of_not_retried {handled : List SourceItem} (hpasses : Each Passes handled)
    {e : ReceiverError} (h : ¬ (e.isRetryable && faultRun handled + 1 < maxFaults) = true)
    (rest : List SourceItem) : Stops handled [.fault e] rest [] (.sourceFailed e) := by
  cases hretryable : e.isRetryable with
  | false => exact .permanent e hretryable rest
  | true =>
    have hlt := faultRun_lt hpasses
    rw [hretryable, Bool.true_and, decide_eq_true_eq, maxFaults] at h
    exact .tenth e hretryable (by omega) rest

end Ingest

open Ingest

/-- The reason of a loop that is on its way out or has ended. -/
def IngestTask.how? : IngestTask → Option IngestEnd
  | leaving how | closing how | ended how => some how
  | _ => none

theorem IngestTask.how?_eq_some_iff {task : IngestTask} {how : IngestEnd} :
    task.how? = some how ↔ task = .leaving how ∨ task = .closing how ∨ task = .ended how := by
  cases task <;> simp [how?]

theorem StageRun.operation_start {r : StageRun η} (h : r.Idle) (op : StageOperation) :
    (r.start op).operation = some op := by
  rw [start, if_pos h]

/-- The decode stage once the loop has ended: no frame is or will be pending, and everything that
was got has been given back. -/
structure DecodeStage.Closed (s : DecodeStage (Recorded η)) : Prop where
  finished_eq : s.mailbox.finished = true
  pending_eq : s.mailbox.pending = none
  slots_eq : s.pool.slots = []
  released : BalancedLog s.hardware.log [] []

namespace IngestRun

/-! ## The work of the loop -/

/-- What an action of the loop does with access units. -/
def events (r : IngestRun η) : IngestAction → List IngestEvent
  | .proceed _ =>
    match r.task, r.items, r.decode.operation with
    | .reading, .unit u :: _, _ => [.shown u]
    | .feeding, _, some (.feed u) => if r.decode.Idle then [.fed u r.decode.failure] else []
    | _, _, _ => []
  | _ => []

/-- How far the loop has come with the item that it has read last, if it is not done with it. -/
inductive Stands (r : IngestRun η) (handled : List SourceItem) :
    List SourceItem → List IngestEvent → Prop
  | reading (htask : r.task = .reading) (hfaults : r.faults = faultRun handled) :
      Stands r handled [] []
  | stalled (htask : r.task = .stalled) : Stands r handled [.stall] []
  | feeding (u : AccessUnit) (htask : r.task = .feeding) (hfaults : r.faults = 0)
      (hoperation : r.decode.operation = some (.feed u)) : Stands r handled [.unit u] [.shown u]
  | stopped (how : IngestEnd) (htask : r.task.how? = some how) {last : List SourceItem}
      {events : List IngestEvent} (hstops : Stops handled last r.items events how) :
      Stands r handled last events
  | cancelled (htask : r.task.how? = some .cancelled) {last : List SourceItem}
      (hlast : last = [] ∨ last = [.stall]) : Stands r handled last []

/-- What is done with access units that do not stop the loop. -/
def handledEvents (items : List SourceItem) : List IngestEvent :=
  (items.filterMap SourceItem.unit?).flatMap fun u => [.shown u, .fed u none]

/-- What has become of the items of a source. -/
structure Ingested (items : List SourceItem) (log : List IngestEvent) (r : IngestRun η)
    (handled last : List SourceItem) (events : List IngestEvent) : Prop where
  items_eq : items = handled ++ last ++ r.items
  passes : Each Passes handled
  stands : r.Stands handled last events
  log_eq : log = handledEvents handled ++ events
  units_eq : r.units = ((handled ++ last).filterMap SourceItem.unit?).length

namespace Ingested

variable {items handled last : List SourceItem} {log events : List IngestEvent} {r : IngestRun η}

/-- The loop is done with the item that it has read last, and reads on. -/
theorem done (h : Ingested items log r handled last events) (r' : IngestRun η)
    (added : List IngestEvent) {item : SourceItem} (hitem : Passes handled item)
    (hitems : items = handled ++ [item] ++ r'.items) (htask : r'.task = .reading)
    (hfaults : r'.faults = faultsAfter (faultRun handled) item)
    (hunits : r'.units = ((handled ++ [item]).filterMap SourceItem.unit?).length)
    (hlog : events ++ added = handledEvents [item]) :
    Ingested items (log ++ added) r' (handled ++ [item]) [] [] where
  items_eq := by rw [List.append_nil, hitems]
  passes := h.passes.append hitem
  stands := .reading htask (by rw [hfaults, faultRun_append])
  log_eq := by
    rw [h.log_eq, List.append_assoc, hlog, List.append_nil, handledEvents, handledEvents,
      handledEvents, List.filterMap_append, List.flatMap_append]
  units_eq := by rw [List.append_nil, hunits]

/-- The loop has not moved, whatever else has happened to its decode stage. -/
theorem of_frame (h : Ingested items log r handled last events) {r' : IngestRun η}
    (hitems : r'.items = r.items) (hunits : r'.units = r.units) (hfaults : r'.faults = r.faults)
    (htask : r'.task = r.task) (hoperation : r'.decode.operation = r.decode.operation) :
    Ingested items log r' handled last events where
  items_eq := by rw [hitems, h.items_eq]
  passes := h.passes
  stands := by
    cases h.stands with
    | reading ht hf => exact .reading (htask.trans ht) (hfaults.trans hf)
    | stalled ht => exact .stalled (htask.trans ht)
    | feeding u ht hf hop =>
      exact .feeding u (htask.trans ht) (hfaults.trans hf) (hoperation.trans hop)
    | stopped how ht hstops => exact .stopped how (htask ▸ ht) (hitems ▸ hstops)
    | cancelled ht hlast => exact .cancelled (htask ▸ ht) hlast
  log_eq := h.log_eq
  units_eq := by rw [hunits, h.units_eq]

/-- Nothing has been done with access units. -/
theorem quiet (h : Ingested items log r handled last events) {added : List IngestEvent}
    (hadded : added = []) : Ingested items (log ++ added) r handled last events := by
  rw [hadded, List.append_nil]
  exact h

/-- Unless it was asked to end, the loop has a reason to. -/
theorem stops (h : Ingested items log r handled last events) {how : IngestEnd}
    (hhow : r.task.how? = some how) (hcancelled : how ≠ .cancelled) :
    Stops handled last r.items events how := by
  have hnone : ∀ {task : IngestTask}, r.task = task → task.how? = none → False := by
    rintro task rfl hnone
    rw [hnone] at hhow
    cases hhow
  cases h.stands with
  | reading htask => exact (hnone htask rfl).elim
  | stalled htask => exact (hnone htask rfl).elim
  | feeding u htask => exact (hnone htask rfl).elim
  | stopped how' htask hstops =>
    rw [htask] at hhow
    cases hhow
    exact hstops
  | cancelled htask =>
    rw [htask] at hhow
    cases hhow
    exact absurd rfl hcancelled

/-- The loop waits for ever only where the source says so. -/
theorem stall_mem (h : Ingested items log r handled last events) (htask : r.task = .stalled) :
    .stall ∈ items := by
  have hlast : last = [.stall] := by
    cases h.stands with
    | stalled => rfl
    | reading hreading | feeding _ hreading =>
      rw [htask] at hreading
      cases hreading
    | stopped _ hhow | cancelled hhow =>
      rw [htask] at hhow
      cases hhow
  rw [h.items_eq, hlast]
  exact List.mem_append_left _ (List.mem_append_right _ (List.mem_singleton.2 rfl))

end Ingested

variable [SurfaceAllocator η] [VideoDecoder η]

/-- A loop that is on its way out neither reads nor feeds. -/
theorem how?_act {r : IngestRun η} {how : IngestEnd} (h : r.task.how? = some how)
    (a : IngestAction) :
    (r.act a).task.how? = some how ∧ (r.act a).items = r.items ∧ (r.act a).units = r.units ∧
      r.events a = [] := by
  obtain ⟨decode, items, units, faults, task⟩ := r
  cases a with
  | watch use => exact ⟨h, rfl, rfl, rfl⟩
  | cancel =>
    obtain rfl | rfl | rfl := IngestTask.how?_eq_some_iff.1 h
    · exact ⟨rfl, rfl, rfl, rfl⟩
    · exact ⟨rfl, rfl, rfl, rfl⟩
    · exact ⟨rfl, rfl, rfl, rfl⟩
  | proceed now =>
    obtain rfl | rfl | rfl := IngestTask.how?_eq_some_iff.1 h
    · exact ⟨rfl, rfl, rfl, rfl⟩
    · simp only [act, proceed]
      split <;> exact ⟨rfl, rfl, rfl, rfl⟩
    · exact ⟨rfl, rfl, rfl, rfl⟩

omit [SurfaceAllocator η] [VideoDecoder η] in
/-- What a read does. -/
theorem Ingested.read {items handled : List SourceItem} {log : List IngestEvent} {r : IngestRun η}
    (hr : r.Sound) (h : Ingested items log r handled [] []) (htask : r.task = .reading)
    (hfaults : r.faults = faultRun handled) (now : Instant) :
    ∃ handled' last' events', Ingested items (log ++ r.events (.proceed now)) (r.read now)
      handled' last' events' := by
  have hidle : r.decode.Idle := hr.resting (by rw [htask]; rfl)
  obtain ⟨decode, rest, units, faults, task⟩ := r
  cases htask
  obtain rfl : faults = faultRun handled := hfaults
  obtain ⟨hitems, hpasses, -, hlog, hunits⟩ := id h
  have hquiet : log ++ [] = handledEvents handled ++ [] := (List.append_nil log).trans hlog
  rw [List.append_nil] at hitems hunits
  cases rest with
  | nil => exact ⟨handled, [], [], by rw [List.append_nil]; exact hitems, hpasses,
      .stopped .endOfStream rfl .exhausted, hquiet, by rw [List.append_nil]; exact hunits⟩
  | cons item rest =>
    have hnext : items = handled ++ [item] ++ rest := by rw [hitems, List.append_assoc]; rfl
    have hunread : item.unit? = none →
        units = ((handled ++ [item]).filterMap SourceItem.unit?).length := by
      intro hitem
      rw [List.filterMap_append, List.filterMap_cons_none hitem, List.filterMap_nil,
        List.append_nil]
      exact hunits
    cases item with
    | finish => exact ⟨handled, [.finish], [], hnext, hpasses,
        .stopped .endOfStream rfl (.finish rest), hquiet, hunread rfl⟩
    | stall => exact ⟨handled, [.stall], [], hnext, hpasses, .stalled rfl, hquiet, hunread rfl⟩
    | wait d =>
      exact ⟨_, _, _, h.done ⟨decode, rest, units, faultRun handled, .reading⟩ [] (.wait d) hnext
        rfl rfl (hunread rfl) rfl⟩
    | fault e =>
      by_cases he : (e.isRetryable && faultRun handled + 1 < maxFaults) = true
      · have hread :
            IngestRun.read now ⟨decode, .fault e :: rest, units, faultRun handled, .reading⟩ =
              ⟨decode, rest, units, faultRun handled + 1, .reading⟩ := if_pos he
        rw [hread]
        exact ⟨_, _, _, h.done ⟨decode, rest, units, faultRun handled + 1, .reading⟩ []
          (.of_retried he) hnext rfl rfl (hunread rfl) rfl⟩
      · have hread :
            IngestRun.read now ⟨decode, .fault e :: rest, units, faultRun handled, .reading⟩ =
              ⟨decode, rest, units, faultRun handled, .leaving (.sourceFailed e)⟩ := if_neg he
        rw [hread]
        exact ⟨handled, [.fault e], [], hnext, hpasses,
          .stopped _ rfl (.of_not_retried hpasses he rest), hquiet, hunread rfl⟩
    | unit u =>
      refine ⟨handled, [.unit u], [.shown u], ?_⟩
      have hstart : ∀ stage : DecodeStage η,
          (StageRun.start { decode with stage } (.feed u)).operation = some (.feed u) :=
        fun stage => StageRun.operation_start (r := { decode with stage }) hidle (.feed u)
      refine ⟨hnext, hpasses, .feeding u rfl rfl (hstart _), ?_, ?_⟩
      · show log ++ [.shown u] = _
        rw [hlog, List.append_nil]
      · show units + 1 = _
        rw [List.filterMap_append, List.length_append, ← hunits]
        rfl

/-- What the loop does while the decode stage has an access unit. -/
theorem Ingested.feed {items handled : List SourceItem} {log : List IngestEvent} {r : IngestRun η}
    {u : AccessUnit} (h : Ingested items log r handled [.unit u] [.shown u])
    (htask : r.task = .feeding) (hfaults : r.faults = 0)
    (hoperation : r.decode.operation = some (.feed u)) (now : Instant) :
    ∃ handled' last' events', Ingested items (log ++ r.events (.proceed now)) (r.proceed now)
      handled' last' events' := by
  obtain ⟨decode, rest, units, faults, task⟩ := r
  cases htask
  obtain rfl : faults = 0 := hfaults
  obtain ⟨hitems, hpasses, -, hlog, hunits⟩ := id h
  by_cases hidle : decode.Idle
  · have hfed : (⟨decode, rest, units, 0, .feeding⟩ : IngestRun η).events (.proceed now) =
        [.fed u decode.failure] := by
      simp only [IngestRun.events, show decode.operation = some (.feed u) from hoperation,
        if_pos hidle]
    rw [hfed]
    simp only [IngestRun.proceed, if_pos hidle, fed]
    cases hfailure : decode.failure with
    | none =>
      exact ⟨_, _, _, h.done ⟨decode, rest, units, 0, .reading⟩ [.fed u none] (.unit u) hitems rfl
        rfl hunits rfl⟩
    | some e =>
      refine ⟨handled, [.unit u], [.shown u, .fed u (some e)], hitems, hpasses,
        .stopped _ rfl (.failed u e rest), ?_, hunits⟩
      rw [hlog, List.append_assoc]
      rfl
  · have hquiet :
        (⟨decode, rest, units, 0, .feeding⟩ : IngestRun η).events (.proceed now) = [] := by
      simp only [IngestRun.events, show decode.operation = some (.feed u) from hoperation,
        if_neg hidle]
    rw [hquiet, List.append_nil]
    simp only [IngestRun.proceed, if_neg hidle]
    exact ⟨handled, _, _, hitems, hpasses,
      .feeding u rfl rfl ((decode.operation_proceed now).trans hoperation), hlog, hunits⟩

/-- A loop that is on its way out or has ended has done what it does with its source. -/
theorem Ingested.act_of_how? {items handled last : List SourceItem} {log events : List IngestEvent}
    {r : IngestRun η} (h : Ingested items log r handled last events) {how : IngestEnd}
    (hhow : r.task.how? = some how) (a : IngestAction) :
    Ingested items (log ++ r.events a) (r.act a) handled last events := by
  obtain ⟨hhow', hitems, hunits, hnone⟩ := how?_act hhow a
  refine .quiet ⟨?_, h.passes, ?_, h.log_eq, ?_⟩ hnone
  · rw [hitems, h.items_eq]
  · rw [← hhow] at hhow'
    cases h.stands with
    | stopped how htask hstops => exact .stopped how (hhow'.trans htask) (hitems.symm ▸ hstops)
    | cancelled htask hlast => exact .cancelled (hhow'.trans htask) hlast
    | reading htask | stalled htask | feeding _ htask =>
      rw [htask] at hhow
      cases hhow
  · rw [hunits, h.units_eq]

/-- The loop notices that it has been asked to end. -/
theorem Ingested.cancel {items handled last : List SourceItem} {log events : List IngestEvent}
    {r : IngestRun η} (h : Ingested items log r handled last events) :
    Ingested items (log ++ r.events .cancel) (r.act .cancel) handled last events := by
  have hleaves : r.task = .reading ∨ r.task = .stalled →
      r.act .cancel = { r with task := .leaving .cancelled } := by
    rintro (htask | htask) <;> simp only [IngestRun.act, IngestRun.cancel, htask]
  cases h.stands with
  | reading htask =>
    have hleft : Ingested items log { r with task := .leaving .cancelled } handled [] [] :=
      ⟨h.items_eq, h.passes, .cancelled rfl (.inl rfl), h.log_eq, h.units_eq⟩
    rw [hleaves (.inl htask)]
    exact hleft.quiet rfl
  | stalled htask =>
    have hleft : Ingested items log { r with task := .leaving .cancelled } handled [.stall] [] :=
      ⟨h.items_eq, h.passes, .cancelled rfl (.inr rfl), h.log_eq, h.units_eq⟩
    rw [hleaves (.inr htask)]
    exact hleft.quiet rfl
  | feeding u htask =>
    have hstays : r.act .cancel = r := by
      simp only [IngestRun.act, IngestRun.cancel, htask]
    rw [hstays]
    exact h.quiet rfl
  | stopped how htask => exact h.act_of_how? htask .cancel
  | cancelled htask => exact h.act_of_how? htask .cancel

/-- Every action of the loop, and what others do to the monitor, keeps the account of the items. -/
theorem Ingested.act {items handled last : List SourceItem} {log events : List IngestEvent}
    {r : IngestRun η} (hr : r.Sound) (h : Ingested items log r handled last events)
    (a : IngestAction) :
    ∃ handled' last' events', Ingested items (log ++ r.events a) (r.act a) handled' last'
      events' := by
  cases a with
  | watch use =>
    have hsame : Ingested items log (r.watch use) handled last events :=
      h.of_frame rfl rfl rfl rfl rfl
    exact ⟨_, _, _, hsame.quiet rfl⟩
  | cancel => exact ⟨_, _, _, h.cancel⟩
  | proceed now =>
    cases h.stands with
    | reading htask hfaults =>
      have hread : r.act (.proceed now) = r.read now := by
        simp only [IngestRun.act, IngestRun.proceed, htask]
      rw [hread]
      exact h.read hr htask hfaults now
    | stalled htask =>
      have hnone : r.events (.proceed now) = [] := by
        simp only [IngestRun.events, htask]
      have hstays : r.act (.proceed now) = r := by
        simp only [IngestRun.act, IngestRun.proceed, htask]
      rw [hstays]
      exact ⟨_, _, _, h.quiet hnone⟩
    | feeding u htask hfaults hoperation => exact h.feed htask hfaults hoperation now
    | stopped how htask => exact ⟨_, _, _, h.act_of_how? htask (.proceed now)⟩
    | cancelled htask => exact ⟨_, _, _, h.act_of_how? htask (.proceed now)⟩

/-- The loop ends for another reason unless it is asked to. -/
theorem how?_ne_cancelled {r : IngestRun η} (h : r.task.how? ≠ some .cancelled) {a : IngestAction}
    (ha : a ≠ .cancel) : (r.act a).task.how? ≠ some .cancelled := by
  obtain ⟨decode, items, units, faults, task⟩ := r
  cases a with
  | cancel => exact absurd rfl ha
  | watch use => exact h
  | proceed now =>
    cases task with
    | reading =>
      simp only [act, proceed, read]
      split
      case h_5 => split <;> rintro ⟨⟩
      all_goals rintro ⟨⟩
    | stalled => exact h
    | feeding =>
      simp only [act, proceed]
      split
      · simp only [fed]
        split <;> rintro ⟨⟩
      · rintro ⟨⟩
    | leaving how => exact h
    | closing how =>
      simp only [act, proceed]
      split <;> exact h
    | ended how => exact h

/-- What an event tells about the step with which it happens: the monitor is shown the access unit
and the decode stage starts to handle it; or the decode stage has just handled it. -/
def Means (r r' : IngestRun η) (now : Instant) : IngestEvent → Prop
  | .shown u =>
    r.decode.Idle ∧ r'.task = .feeding ∧ r'.decode =
      StageRun.start
        { r.decode with
          stage :=
            { r.decode.stage with monitor := (r.decode.stage.monitor.onAccessUnit now u).2 } }
        (.feed u)
  | .fed u failure =>
    r.task = .feeding ∧ r.decode.Idle ∧ r.decode.operation = some (.feed u) ∧
      r.decode.failure = failure

theorem means_of_mem_events {r : IngestRun η} (hr : r.Sound) {now : Instant} {e : IngestEvent}
    (he : e ∈ r.events (.proceed now)) : Means r (r.act (.proceed now)) now e := by
  have hresting := hr.resting
  obtain ⟨decode, items, units, faults, task⟩ := r
  unfold events at he
  dsimp only at he
  split at he
  · obtain rfl := List.mem_singleton.1 he
    exact ⟨hresting rfl, rfl, rfl⟩
  · next hoperation =>
    split at he
    · next hidle =>
      obtain rfl := List.mem_singleton.1 he
      exact ⟨rfl, hidle, hoperation, rfl⟩
    · cases he
  · cases he

/-! ## What the loop gives back -/

/-- Every action keeps the balance of the decode stage. -/
theorem balanced_act {r : IngestRun (Recorded η)} (hr : r.Sound) (h : r.decode.Balanced)
    (a : IngestAction) : (r.act a).decode.Balanced := by
  obtain ⟨decode, items, units, faults, task⟩ := r
  have hstart : ∀ (stage : DecodeStage (Recorded η)) (op : StageOperation),
      stage.hardware = decode.stage.hardware → stage.pool = decode.stage.pool →
        (StageRun.start { decode with stage } op).Balanced := by
    intro stage op hhardware hpool
    apply StageRun.Balanced.start
    unfold StageRun.Balanced DecodeStage.Balanced
    rw [hhardware, hpool]
    exact h
  cases a with
  | watch use => exact h
  | cancel => cases task <;> exact h
  | proceed now =>
    cases task with
    | reading =>
      simp only [act, proceed, read]
      split
      · exact h
      · exact h
      · exact h
      · exact h
      · split <;> exact h
      · exact hstart _ _ rfl rfl
    | stalled => exact h
    | feeding =>
      simp only [act, proceed]
      split
      · unfold fed
        split <;> exact h
      · exact h.proceed hr.decode now
    | leaving how => exact hstart _ _ rfl rfl
    | closing how =>
      simp only [act, proceed]
      split
      · exact h
      · exact h.proceed hr.decode now
    | ended how => exact h

end IngestRun

namespace ReceiverRun

/-! ## Runs of the loop and the display -/

/-- What an action does with access units. -/
def events (r : ReceiverRun η κ) : ReceiverAction → List IngestEvent
  | .ingest a => r.ingest.events a
  | _ => []

/-- None of the actions asks the loop to end. -/
def Uncancelled (actions : List ReceiverAction) : Prop := ∀ a ∈ actions, a ≠ .ingest .cancel

/-- Nothing is posted once the end of the stream has been signalled. -/
def Unposted (r : ReceiverRun η κ) : Prop :=
  r.uses.Pairwise fun earlier later => earlier = .finish → later.frame? = none

/-- Once the end of the stream has been signalled the loop has nothing to post. -/
theorem frame?_of_finish_mem {r : ReceiverRun η κ} (hr : r.Accounted) (hfinish : .finish ∈ r.uses)
    (a : IngestAction) : (r.ingest.mailboxAction? a).bind MailboxAction.frame? = none := by
  have hover : r.ingest.task.isOver = true := by
    rw [← hr.ingest.finished_eq]
    show r.mailbox.finished = true
    rw [hr.mailbox_eq, Mailbox.finished_actAll_iff]
    exact hfinish
  have htasks := (hr.ingest.decode.closing (hr.ingest.closing hover)).1
  cases a with
  | proceed now =>
    simp only [IngestRun.mailboxAction?]
    split
    · next htask =>
      rw [htask] at hover
      cases hover
    · simp only [StageRun.mailboxAction?, htasks]
      rcases r.ingest.decode.change with _ | change
      · rfl
      · cases change <;> rfl
    · rfl
    · rfl
  | _ => rfl

theorem Unposted.used {r r' : ReceiverRun η κ} (h : r.Unposted) {a : Option MailboxAction}
    (huses : r'.uses = r.uses ++ a.toList)
    (hquiet : .finish ∈ r.uses → a.bind MailboxAction.frame? = none) : r'.Unposted := by
  unfold Unposted
  rw [huses, List.pairwise_append]
  refine ⟨h, ?_, ?_⟩
  · cases a with
    | none => exact .nil
    | some a => exact List.pairwise_singleton _ _
  · rintro _ hfinish b hb rfl
    rw [Option.mem_toList] at hb
    obtain rfl := hb
    exact hquiet hfinish

variable [SurfaceAllocator η] [VideoDecoder η] [DisplaySink κ]

/-- What a run does with access units. -/
def log (r : ReceiverRun η κ) : List ReceiverAction → List IngestEvent
  | [] => []
  | a :: actions => r.events a ++ (r.act a).log actions

theorem log_append (r : ReceiverRun η κ) (actions later : List ReceiverAction) :
    r.log (actions ++ later) = r.log actions ++ (r.actAll actions).log later := by
  induction actions generalizing r with
  | nil => rfl
  | cons a actions ih =>
    show r.events a ++ (r.act a).log (actions ++ later) = _
    rw [ih, ← List.append_assoc]
    rfl

/-- Whoever is not the loop changes nothing of it but its mailbox. -/
theorem ingest_act (r : ReceiverRun η κ) (a : ReceiverAction) :
    (∃ i, a = .ingest i) ∨
      r.events a = [] ∧ ∃ mailbox, (r.act a).ingest =
        { r.ingest with decode := { r.ingest.decode with stage := { r.stage with mailbox } } } := by
  cases a with
  | ingest i => exact .inl ⟨i, rfl⟩
  | take =>
    refine .inr ⟨rfl, ?_⟩
    simp only [act, take]
    split
    · exact ⟨_, rfl⟩
    · exact ⟨_, rfl⟩
    · exact ⟨r.mailbox, rfl⟩
  | commit now =>
    refine .inr ⟨rfl, r.mailbox, ?_⟩
    simp only [act, commit]
    split <;> rfl
  | signal =>
    refine .inr ⟨rfl, ?_⟩
    simp only [act, signal]
    split
    · exact ⟨_, rfl⟩
    · exact ⟨r.mailbox, rfl⟩

theorem Unposted.act {r : ReceiverRun η κ} (h : r.Unposted) (hr : r.Accounted)
    (a : ReceiverAction) : (r.act a).Unposted := by
  cases a with
  | ingest i => exact h.used rfl fun hfinish => frame?_of_finish_mem hr hfinish i
  | take =>
    simp only [ReceiverRun.act, ReceiverRun.take]
    split
    · exact h.used (a := some .take) rfl fun _ => rfl
    · exact h.used (a := some .take) rfl fun _ => rfl
    · exact h
  | commit now =>
    simp only [ReceiverRun.act, ReceiverRun.commit]
    split <;> exact h
  | signal =>
    simp only [ReceiverRun.act, ReceiverRun.signal]
    split
    · exact h.used (a := some .finish) rfl fun _ => rfl
    · exact h

/-- What holds at first and is kept by every action holds after every run. -/
theorem after_induction {motive : List ReceiverAction → ReceiverRun η κ → Prop} (capacity : Nat)
    (board : η) (monitor : LinkMonitor) (items : List SourceItem) (sink : κ)
    (start : motive [] (after capacity board monitor items sink []))
    (step : ∀ actions (r : ReceiverRun η κ) a, r = after capacity board monitor items sink actions →
      r.Accounted → motive actions r → motive (actions ++ [a]) (r.act a))
    (actions : List ReceiverAction) :
    motive actions (after capacity board monitor items sink actions) := by
  induction actions using List.reverseRecOn with
  | nil => exact start
  | append_singleton actions a ih =>
    have hafter : after capacity board monitor items sink (actions ++ [a]) =
        (after capacity board monitor items sink actions).act a := List.foldl_append
    rw [hafter]
    exact step actions _ a rfl (accounted_after capacity board monitor items sink actions) ih

/-- In every run the loop deals with the items of its source in order. -/
theorem ingested_after (capacity : Nat) (board : η) (monitor : LinkMonitor)
    (items : List SourceItem) (sink : κ) (actions : List ReceiverAction) :
    ∃ handled last events,
      IngestRun.Ingested items ((after capacity board monitor items sink []).log actions)
        (after capacity board monitor items sink actions).ingest handled last events := by
  refine after_induction (motive := fun actions r => ∃ handled last events,
    IngestRun.Ingested items ((after capacity board monitor items sink []).log actions) r.ingest
      handled last events) capacity board monitor items sink
    ⟨[], [], [], rfl, .nil, .reading rfl rfl, rfl, rfl⟩ ?_ actions
  rintro actions r a hafter hr ⟨handled, last, events, h⟩
  have hlog : (after capacity board monitor items sink []).log (actions ++ [a]) =
      (after capacity board monitor items sink []).log actions ++ r.events a := by
    rw [log_append, hafter]
    exact congrArg (_ ++ ·) (List.append_nil _)
  rw [hlog]
  rcases r.ingest_act a with ⟨i, rfl⟩ | ⟨hquiet, mailbox, hingest⟩
  · exact h.act hr.ingest i
  · rw [hquiet, List.append_nil, hingest]
    exact ⟨handled, last, events, h.of_frame rfl rfl rfl rfl rfl⟩

/-- A loop that nobody asks to end does not end for that reason. -/
theorem how?_after_ne_cancelled (capacity : Nat) (board : η) (monitor : LinkMonitor)
    (items : List SourceItem) (sink : κ) {actions : List ReceiverAction}
    (h : Uncancelled actions) :
    (after capacity board monitor items sink actions).ingest.task.how? ≠ some .cancelled := by
  refine after_induction (motive := fun actions r => Uncancelled actions →
    r.ingest.task.how? ≠ some .cancelled) capacity board monitor items sink nofun ?_ actions h
  intro actions r a _ _ ih h
  have hbefore := ih fun b hb => h b (List.mem_append_left _ hb)
  rcases r.ingest_act a with ⟨i, rfl⟩ | ⟨-, mailbox, hingest⟩
  · have hi : i ≠ .cancel := fun hi =>
      h (.ingest i) (List.mem_append_right _ (List.mem_singleton.2 rfl)) (congrArg _ hi)
    exact IngestRun.how?_ne_cancelled hbefore hi
  · rw [hingest]
    exact hbefore

theorem unposted_after (capacity : Nat) (board : η) (monitor : LinkMonitor)
    (items : List SourceItem) (sink : κ) (actions : List ReceiverAction) :
    (after capacity board monitor items sink actions).Unposted :=
  after_induction (motive := fun _ r => r.Unposted) capacity board monitor items sink .nil
    (fun _ _ a _ hr h => h.act hr a) actions

/-- What the board has handed out in a run is in the pool, or a change of generation has it in
hand. -/
theorem balanced_after (capacity : Nat) (board : η) (monitor : LinkMonitor)
    (items : List SourceItem) (sink : κ) (actions : List ReceiverAction) :
    let r := after capacity (⟨board, []⟩ : Recorded η) monitor items sink actions
    r.ingest.decode.Balanced := by
  intro r
  refine after_induction (motive := fun _ r => r.ingest.decode.Balanced) capacity _ monitor items
    sink ⟨fun _ => rfl, fun _ => rfl⟩ (fun actions r a _ hr h => ?_) actions
  rcases r.ingest_act a with ⟨i, rfl⟩ | ⟨-, mailbox, hingest⟩
  · exact IngestRun.balanced_act hr.ingest h i
  · rw [hingest]
    exact h

/-- A loop that has ended has signalled the end of the stream and given everything back. -/
theorem closed_of_ended (capacity : Nat) (board : η) (monitor : LinkMonitor)
    (items : List SourceItem) (sink : κ) (actions : List ReceiverAction) {how : IngestEnd}
    (h : (after capacity (⟨board, []⟩ : Recorded η) monitor items sink actions).ingest.task =
      .ended how) :
    (after capacity (⟨board, []⟩ : Recorded η) monitor items sink actions).stage.Closed := by
  have hr := accounted_after capacity (⟨board, []⟩ : Recorded η) monitor items sink actions
  have hbalanced := balanced_after capacity board monitor items sink actions
  generalize after capacity (⟨board, []⟩ : Recorded η) monitor items sink actions = r
    at h hr hbalanced ⊢
  have hidle : r.ingest.decode.Idle := hr.ingest.resting (by rw [h]; rfl)
  have hover : r.ingest.task.isOver = true := by
    rw [h]
    rfl
  have hslots := (hr.ingest.decode.closing (hr.ingest.closing hover)).2.1 hidle.1
  exact ⟨hr.ingest.finished_eq.trans hover, hr.pending_eq_none h, hslots,
    hbalanced.settled hidle hslots⟩

/-- What the loop of a run has done with its source, what its next step means, and what it leaves
behind. -/
structure IngestAccount (items : List SourceItem) (log : List IngestEvent)
    (r : ReceiverRun (Recorded η) κ) : Prop where
  ingested : ∃ handled last events, r.ingest.Ingested items log handled last events ∧
    ∀ how, r.ingest.task.how? = some how → Stops handled last r.ingest.items events how
  means (now : Instant) (e : IngestEvent) : e ∈ r.ingest.events (.proceed now) →
    r.ingest.Means (r.ingest.act (.proceed now)) now e
  closed (how : IngestEnd) : r.ingest.task = .ended how → r.stage.Closed
  unposted : r.Unposted

theorem ingestAccount_after (capacity : Nat) (board : η) (monitor : LinkMonitor)
    (items : List SourceItem) (sink : κ) (actions : List ReceiverAction) :
    let fresh := after capacity (⟨board, []⟩ : Recorded η) monitor items sink []
    let r := after capacity (⟨board, []⟩ : Recorded η) monitor items sink actions
    r.ingest.task.how? ≠ some .cancelled → r.IngestAccount items (fresh.log actions) := by
  intro fresh r hcancelled
  obtain ⟨handled, last, events, h⟩ :=
    ingested_after capacity (⟨board, []⟩ : Recorded η) monitor items sink actions
  have hr := accounted_after capacity (⟨board, []⟩ : Recorded η) monitor items sink actions
  refine ⟨⟨handled, last, events, h, fun how hhow => h.stops hhow ?_⟩, fun now e he => ?_,
    fun how htask => ?_, ?_⟩
  · rintro rfl
    exact hcancelled hhow
  · exact IngestRun.means_of_mem_events hr.ingest he
  · exact closed_of_ended capacity board monitor items sink actions htask
  · exact unposted_after capacity _ monitor items sink actions

end ReceiverRun

end VideoReceiver
