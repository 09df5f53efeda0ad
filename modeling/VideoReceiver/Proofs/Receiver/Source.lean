import Mathlib.Algebra.Group.Nat.Defs
import VideoReceiver.Ingest

/-!
# What a source says and when

After a fault the ingest loop pauses, twice as long after each of the first five faults in a row. So
the instants at which it reads are known from what it has read, whatever the decoder does and
however the clock is moved.

## Main definitions

- `Ingest.faultRun`, `Ingest.pauses`: the faults in a row and the pauses over some items
- `Ingest.arrivals`: the access units of a source and when they are read
- `Ingest.Timely`: how far the loop has come, and when it goes on
- `Ingest.ReadAt`: what the loop has read at one instant

## Main statements

- `Ingest.Reads.arrivals_eq`: the access units that are read at one instant
- `Ingest.readAt_proceed`: a loop that goes on in time reads in time
-/

namespace VideoReceiver

variable {η : Type}

/-- The access unit that a read returns. -/
def SourceItem.unit? : SourceItem → Option AccessUnit
  | unit u => some u
  | _ => none

namespace Ingest

/-! ## Faults in a row -/

/-- How many faults have come in a row once an item has been read, given how many had before. -/
def faultsAfter (n : Nat) : SourceItem → Nat
  | .unit _ => 0
  | .fault _ => n + 1
  | _ => n

/-- How many faults have been read since the last access unit. -/
def faultRun (items : List SourceItem) : Nat := items.foldl faultsAfter 0

theorem faultRun_append (items : List SourceItem) (item : SourceItem) :
    faultRun (items ++ [item]) = faultsAfter (faultRun items) item := by
  rw [faultRun, List.foldl_append]
  rfl

/-- Every item has a property, given the items before it. -/
def Each (P : List SourceItem → SourceItem → Prop) (items : List SourceItem) : Prop :=
  ∀ before item after, items = before ++ item :: after → P before item

namespace Each

variable {P : List SourceItem → SourceItem → Prop} {items : List SourceItem}

theorem nil : Each P [] := by
  intro before item after h
  exact absurd h.symm (List.append_ne_nil_of_right_ne_nil _ (List.cons_ne_nil _ _))

theorem append (h : Each P items) {item : SourceItem} (hitem : P items item) :
    Each P (items ++ [item]) := by
  intro before x after hsplit
  rcases List.eq_nil_or_concat after with rfl | ⟨after, y, rfl⟩
  · obtain ⟨rfl, hx⟩ := List.append_inj' hsplit rfl
    cases hx
    exact hitem
  · rw [List.concat_eq_append, ← List.cons_append, ← List.append_assoc] at hsplit
    exact h before x after (List.append_inj' hsplit rfl).1

theorem of_append {later : List SourceItem} (h : Each P (items ++ later)) : Each P items :=
  fun before x after hsplit =>
    h before x (after ++ later) (by rw [hsplit, List.append_assoc, List.cons_append])

end Each

/-! ## Pauses -/

/-- How long the loop pauses after an item, given how many faults in a row came before it. -/
def pause (faults : Nat) : SourceItem → Duration
  | .wait d => d
  | .fault _ => .ofMillis (50 * 2 ^ min (faults + 1) 5)
  | _ => 0

/-- How long the loop pauses over some items, given how many faults in a row came before them. -/
def pausesFrom (faults : Nat) : List SourceItem → Duration
  | [] => 0
  | item :: items => pause faults item + pausesFrom (faultsAfter faults item) items

/-- How long the loop pauses over the first items of a source. -/
def pauses (items : List SourceItem) : Duration := pausesFrom 0 items

theorem pausesFrom_append (faults : Nat) (items : List SourceItem) (item : SourceItem) :
    pausesFrom faults (items ++ [item]) =
      pausesFrom faults items + pause (items.foldl faultsAfter faults) item := by
  induction items generalizing faults with
  | nil => exact Nat.add_comm _ _
  | cons x items ih =>
    show pause faults x + pausesFrom (faultsAfter faults x) (items ++ [item]) = _
    rw [ih]
    exact (Nat.add_assoc _ _ _).symm

theorem pauses_append (items : List SourceItem) (item : SourceItem) :
    pauses (items ++ [item]) = pauses items + pause (faultRun items) item :=
  pausesFrom_append 0 items item

theorem backoff_eq (n : Nat) : backoff n = .ofMillis (50 * 2 ^ min n 5) := by
  rw [backoff, Nat.shiftLeft_eq]

/-! ## Access units -/

/-- The access units among some items that are all read at the instant `now`. -/
def unitsAt (now : Instant) (items : List SourceItem) : List (Instant × AccessUnit) :=
  (items.filterMap SourceItem.unit?).map (now, ·)

/-- The access units among some items and when they are read, given when the first item is, and how
many faults in a row came before it. -/
def arrivalsFrom (faults : Nat) (now : Instant) : List SourceItem → List (Instant × AccessUnit)
  | [] => []
  | item :: items =>
    unitsAt now [item] ++ arrivalsFrom (faultsAfter faults item) (now + pause faults item) items

/-- The access units among the first items of a source and when they are read. -/
def arrivals (items : List SourceItem) : List (Instant × AccessUnit) := arrivalsFrom 0 0 items

theorem arrivalsFrom_append (faults : Nat) (now : Instant) (items : List SourceItem)
    (item : SourceItem) :
    arrivalsFrom faults now (items ++ [item]) =
      arrivalsFrom faults now items ++ unitsAt (now + pausesFrom faults items) [item] := by
  induction items generalizing faults now with
  | nil => exact List.append_nil _
  | cons x items ih =>
    show unitsAt now [x] ++ arrivalsFrom _ _ (items ++ [item]) = _
    rw [ih, ← List.append_assoc]
    exact congrArg (fun t => _ ++ unitsAt t [item]) (Nat.add_assoc now _ _)

theorem arrivals_append (items : List SourceItem) (item : SourceItem) :
    arrivals (items ++ [item]) = arrivals items ++ unitsAt (pauses items) [item] := by
  rw [arrivals, arrivalsFrom_append]
  exact congrArg (fun t => _ ++ unitsAt t [item]) (Nat.zero_add (pauses items))

/-! ## What is read when -/

/-- Items that are all read at the instant `now`, given those that were read before. -/
inductive Reads (now : Instant) : List SourceItem → List SourceItem → Prop
  | nil (read : List SourceItem) : Reads now read []
  | cons {read items : List SourceItem} {item : SourceItem} (hnow : pauses read = now)
      (h : Reads now (read ++ [item]) items) : Reads now read (item :: items)

namespace Reads

variable {now : Instant} {read items : List SourceItem}

theorem arrivals_eq (h : Reads now read items) :
    arrivals (read ++ items) = arrivals read ++ unitsAt now items := by
  induction h with
  | nil read => rw [List.append_nil]; exact (List.append_nil _).symm
  | @cons read items item hnow _ ih =>
    have hunits : unitsAt now (item :: items) = unitsAt now [item] ++ unitsAt now items := by
      rw [unitsAt, ← List.singleton_append, List.filterMap_append, List.map_append]
      rfl
    rw [List.append_assoc, arrivals_append, hnow, List.append_assoc, ← hunits] at ih
    exact ih

theorem each (h : Reads now read items) {P : List SourceItem → SourceItem → Prop}
    (hread : Each P read) (hnow : ∀ before item, pauses before = now → P before item) :
    Each P (read ++ items) := by
  induction h with
  | nil read => rwa [List.append_nil]
  | @cons read items item hpauses _ ih =>
    have hlater := ih (hread.append (hnow read item hpauses))
    rwa [List.append_assoc] at hlater

end Reads

/-- What the loop has read of its source, and when it goes on. -/
structure Timely (items read : List SourceItem) (i : Ingest) : Prop where
  items_eq : items = read ++ i.items
  due (t : Instant) : i.phase = .sleeping t → t = pauses read ∧ i.faults = faultRun read

/-- A loop that has just been started. -/
theorem Timely.start (items : List SourceItem) : Timely items [] { items } where
  items_eq := rfl
  due t ht := by
    obtain rfl : 0 = t := by
      cases ht
      rfl
    exact ⟨rfl, rfl⟩

/-- What the loop has read at the instant `now` of the items that were left, and how it stands. -/
structure ReadAt (now : Instant) (read left recent : List SourceItem) (i : Ingest) : Prop where
  left_eq : left = recent ++ i.items
  reads : Reads now read recent
  due (t : Instant) : i.phase = .sleeping t →
    now ≤ t ∧ t = pauses (read ++ recent) ∧ i.faults = faultRun (read ++ recent)
  end_eq : i.phase = .ended .endOfStream → pauses (read ++ recent) = now
  ne_cancelled : i.phase ≠ .ended .cancelled

/-- An item after which the loop does not go on by itself. -/
inductive Halts : SourceItem → IngestPhase → Prop
  | finish : Halts .finish (.ended .endOfStream)
  | stall : Halts .stall .stalled
  | fault (e : ReceiverError) : Halts (.fault e) (.ended (.sourceFailed e))
  | failed (u : AccessUnit) (e : ReceiverError) : Halts (.unit u) (.ended (.fatal e))
  | endless (u : AccessUnit) : Halts (.unit u) .endless

namespace ReadAt

variable {now : Instant} {read left recent : List SourceItem} {item : SourceItem} {i : Ingest}

/-- A read that takes no time. -/
theorem cons (hnow : pauses read = now) (h : ReadAt now (read ++ [item]) left recent i) :
    ReadAt now read (item :: left) (item :: recent) i where
  left_eq := congrArg (item :: ·) h.left_eq
  reads := .cons hnow h.reads
  due t ht := by
    have hdue := h.due t ht
    rwa [List.append_assoc] at hdue
  end_eq hend := by
    have hpauses := h.end_eq hend
    rwa [List.append_assoc] at hpauses
  ne_cancelled := h.ne_cancelled

/-- The items are at their end. -/
theorem exhausted (hnow : pauses read = now) (units faults : Nat) :
    ReadAt now read [] [] ⟨[], units, faults, .ended .endOfStream⟩ where
  left_eq := rfl
  reads := .nil read
  due t ht := by cases ht
  end_eq _ := by rw [List.append_nil, hnow]
  ne_cancelled := by rintro ⟨⟩

/-- A pause. -/
theorem sleep (hnow : pauses read = now) (item : SourceItem) (units faults : Nat)
    (hfaults : faults = faultsAfter (faultRun read) item) {d : Duration}
    (hpause : pause (faultRun read) item = d) (left : List SourceItem) :
    ReadAt now read (item :: left) [item] ⟨left, units, faults, .sleeping (now + d)⟩ where
  left_eq := rfl
  reads := .cons hnow (.nil _)
  due t ht := by
    obtain rfl : now + d = t := by
      cases ht
      rfl
    refine ⟨Nat.le_add_right now d, ?_, hfaults.trans (faultRun_append read item).symm⟩
    rw [pauses_append, hpause, hnow]
  end_eq := by rintro ⟨⟩
  ne_cancelled := by rintro ⟨⟩

/-- The loop does not go on after an item. -/
theorem stop (hnow : pauses read = now) (units faults : Nat) {phase : IngestPhase}
    (hhalts : Halts item phase) (left : List SourceItem) :
    ReadAt now read (item :: left) [item] ⟨left, units, faults, phase⟩ where
  left_eq := rfl
  reads := .cons hnow (.nil _)
  due t ht := by cases hhalts <;> cases ht
  end_eq hphase := by
    cases hhalts with
    | finish =>
      rw [pauses_append, hnow]
      exact Nat.add_zero now
    | _ => cases hphase
  ne_cancelled := by cases hhalts <;> rintro ⟨⟩

theorem timely (h : ReadAt now read left recent i) {items : List SourceItem} {j : Ingest}
    (hj : j.Timely items read) (hleft : j.items = left) : i.Timely items (read ++ recent) where
  items_eq := by rw [hj.items_eq, hleft, h.left_eq, List.append_assoc]
  due t ht := (h.due t ht).2

end ReadAt

variable [SurfaceAllocator η] [VideoDecoder η]

/-- A loop that goes on in time reads in time. -/
theorem readAt_proceed {now : Instant} {read : List SourceItem} (hnow : pauses read = now)
    (units : Nat) {faults : Nat} (hfaults : faults = faultRun read) (stage : DecodeStage η)
    (left : List SourceItem) :
    ∃ recent, ReadAt now read left recent (proceed now units faults stage left).1 := by
  have hnext : ∀ {read : List SourceItem} (item : SourceItem), pauses read = now →
      pause (faultRun read) item = 0 → pauses (read ++ [item]) = now := by
    intro read item hnow hpause
    rw [pauses_append, hpause, hnow]
    exact Nat.add_zero now
  fun_induction proceed now units faults stage left generalizing read with
  | case1 units faults stage => exact ⟨_, .exhausted hnow units faults⟩
  | case2 units faults stage left => exact ⟨_, .stop hnow units faults .finish left⟩
  | case3 units faults stage left => exact ⟨_, .stop hnow units faults .stall left⟩
  | case4 units faults stage left ih =>
    have hread := faultRun_append read (.wait 0)
    obtain ⟨recent, h⟩ := ih (hnext (.wait 0) hnow rfl) (hfaults.trans hread.symm)
    exact ⟨_, h.cons hnow⟩
  | case5 units faults stage d left hd =>
    exact ⟨_, .sleep hnow (.wait d) units faults hfaults rfl left⟩
  | case6 units faults stage e left he =>
    subst hfaults
    exact ⟨_, .sleep hnow (.fault e) units _ rfl (backoff_eq _).symm left⟩
  | case7 units faults stage e left he => exact ⟨_, .stop hnow units faults (.fault e) left⟩
  | case8 _ _ _ u =>
    rename_i ih
    obtain ⟨recent, h⟩ := ih (hnext (.unit u) hnow rfl) (faultRun_append read (.unit u)).symm
    exact ⟨_, h.cons hnow⟩
  | case9 _ _ _ u left _ e _ => exact ⟨_, .stop hnow _ 0 (.failed u e) left⟩
  | case10 _ _ _ u left _ _ => exact ⟨_, .stop hnow _ 0 (.endless u) left⟩

namespace Timely

variable {items read : List SourceItem} {i : Ingest}

/-- What the loop reads when its pause is over. -/
theorem resume (h : i.Timely items read) {now : Instant} (hphase : i.phase = .sleeping now)
    (stage : DecodeStage η) :
    ∃ recent, ReadAt now read i.items recent (i.resume now stage).1 := by
  obtain ⟨hnow, hfaults⟩ := h.due now hphase
  exact readAt_proceed hnow.symm i.units hfaults stage i.items

omit [VideoDecoder η] in
theorem cancel (h : i.Timely items read) (stage : DecodeStage η) :
    (i.cancel stage).1.Timely items read := by
  unfold Ingest.cancel
  split
  · exact ⟨h.items_eq, nofun⟩
  · exact ⟨h.items_eq, nofun⟩
  · exact h
  · exact h

end Timely

end Ingest

end VideoReceiver
