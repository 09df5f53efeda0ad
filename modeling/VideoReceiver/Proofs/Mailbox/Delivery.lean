import Mathlib.Data.List.Induction
import VideoReceiver.Mailbox

/-!
# How frames leave the mailbox

Any number of producers and consumers use the mailbox, one after the other. A frame that has been
posted leaves the slot in one of three ways: it is delivered, the next frame overwrites it, or it is
discarded. Frames leave in the order in which they were posted, and each of them leaves once. What
has been delivered can be read off the list of departures, and the counters are its counts.

## Main definitions

- `Departure`, `Mailbox.departures`: the frames that leave the slot in a run
- `Mailbox.Ledger`: the slot and the counters agree with what was posted and what has left

## Main statements

- `Mailbox.Ledger.act`: every action keeps the ledger
- `Mailbox.pending_actAll_iff`: which frame is pending
- `Mailbox.delivery_law`: what is delivered in a run, and when
-/

namespace VideoReceiver

/-- The frame that an action posts. -/
def MailboxAction.frame? : MailboxAction → Option PendingFrame
  | post f => some f
  | _ => none

/-- How a frame leaves the slot. -/
inductive Fate where
  | delivered
  | overwritten
  | discarded
  deriving DecidableEq, Repr

structure Departure where
  frame : PendingFrame
  fate : Fate
  deriving DecidableEq, Repr

namespace Departure

def isDelivered (d : Departure) : Bool := d.fate == .delivered

/-- The frames among the departures that a consumer has received. -/
def received (left : List Departure) : List PendingFrame :=
  (left.filter isDelivered).map frame

theorem received_append (left more : List Departure) :
    received (left ++ more) = received left ++ received more := by
  simp [received]

end Departure

namespace Mailbox

/-- The frame that leaves the slot in an action. -/
def departure? (m : Mailbox) : MailboxAction → Option Departure
  | .post _ => m.pending.map (⟨·, .overwritten⟩)
  | .discard => m.discard.1.map (⟨·, .discarded⟩)
  | .finish => none
  | .take =>
    match m.take?.1 with
    | some (.frame f) => some ⟨f, .delivered⟩
    | _ => none

theorem actAll_append (m : Mailbox) (actions later : List MailboxAction) :
    m.actAll (actions ++ later) = (m.actAll actions).actAll later :=
  List.foldl_append

/-- The frames that leave the slot in a run, in order. -/
def departures (m : Mailbox) : List MailboxAction → List Departure
  | [] => []
  | a :: actions => (m.departure? a).toList ++ (m.act a).departures actions

theorem departures_append (m : Mailbox) (actions later : List MailboxAction) :
    m.departures (actions ++ later) =
      m.departures actions ++ (m.actAll actions).departures later := by
  induction actions generalizing m with
  | nil => rfl
  | cons a actions ih =>
    show _ ++ (m.act a).departures (actions ++ later) = _
    rw [ih, ← List.append_assoc]
    rfl

theorem take?_eq_frame_iff (m : Mailbox) (f : PendingFrame) :
    m.take?.1 = some (.frame f) ↔ m.pending = some f := by
  unfold take?
  split
  · next g hg => simp [hg]
  · next hnone =>
    rw [hnone]
    split <;> simp

theorem take?_eq_endOfStream_iff (m : Mailbox) :
    m.take?.1 = some .endOfStream ↔ m.pending = none ∧ m.finished = true := by
  unfold take?
  split
  · next g hg => simp [hg]
  · next hnone =>
    rw [hnone]
    split <;> simp_all

/-- After a take nothing is pending, whatever has been taken. -/
@[simp] theorem pending_after_take? (m : Mailbox) : m.take?.2.pending = none := by
  cases hp : m.pending <;> simp [take?, hp]

@[simp] theorem finished_take? (m : Mailbox) : m.take?.2.finished = m.finished := by
  unfold take?
  split <;> rfl

/-- Signalling the end of the stream again changes nothing. -/
theorem finish_eq_self {m : Mailbox} (h : m.finished = true) : m.finish = m := by
  rw [finish, ← h]

/-! ## The ledger -/

theorem departure?_discard (m : Mailbox) :
    m.departure? .discard = m.pending.map (⟨·, .discarded⟩) := by
  cases hp : m.pending <;> simp [departure?, discard, hp]

theorem departure?_take (m : Mailbox) : m.departure? .take = m.pending.map (⟨·, .delivered⟩) := by
  cases hp : m.pending with
  | none => cases hfin : m.finished <;> simp [departure?, take?, hp, hfin]
  | some f => simp [departure?, take?, hp]

/-- What is in the slot, or comes into it, leaves it or stays. -/
theorem slot_act (m : Mailbox) (a : MailboxAction) :
    (m.departure? a).toList.map Departure.frame ++ (m.act a).pending.toList =
      m.pending.toList ++ a.frame?.toList := by
  cases a with
  | post f => cases hp : m.pending <;> simp [act, post, departure?, hp, MailboxAction.frame?]
  | discard =>
    cases hp : m.pending <;> simp [act, discard, departure?_discard, hp, MailboxAction.frame?]
  | finish => simp [act, finish, departure?, MailboxAction.frame?]
  | take => cases hp : m.pending <;> simp [act, take?, departure?_take, hp, MailboxAction.frame?]

theorem posted_act (m : Mailbox) (a : MailboxAction) :
    (m.act a).posted = m.posted + a.frame?.toList.length := by
  cases a with
  | post f => rfl
  | discard => cases hp : m.pending <;> simp [act, discard, hp, MailboxAction.frame?]
  | finish => rfl
  | take => cases hp : m.pending <;> simp [act, take?, hp, MailboxAction.frame?]

theorem dropped_act (m : Mailbox) (a : MailboxAction) :
    (m.act a).dropped = m.dropped + (m.departure? a).toList.countP (!·.isDelivered) := by
  cases a with
  | post f => cases hp : m.pending <;> simp [act, post, departure?, hp, Departure.isDelivered]
  | discard =>
    cases hp : m.pending <;> simp [act, discard, departure?_discard, hp, Departure.isDelivered]
  | finish => rfl
  | take => cases hp : m.pending <;> simp [act, take?, departure?_take, hp, Departure.isDelivered]

/-- A frame is received by taking it, and in no other way. -/
theorem received_departure? (m : Mailbox) (a : MailboxAction) :
    Departure.received (m.departure? a).toList =
      if a = .take then m.pending.toList else [] := by
  cases a with
  | post f =>
    cases hp : m.pending <;> simp [departure?, hp, Departure.received, Departure.isDelivered]
  | discard =>
    cases hp : m.pending <;>
      simp [departure?_discard, hp, Departure.received, Departure.isDelivered]
  | finish => rfl
  | take =>
    cases hp : m.pending <;> simp [departure?_take, hp, Departure.received, Departure.isDelivered]

/-- What was posted has left, as the counters say, or is pending. -/
structure Ledger (m : Mailbox) (posts : List PendingFrame) (left : List Departure) : Prop where
  frames_eq : left.map Departure.frame ++ m.pending.toList = posts
  posted_eq : m.posted = posts.length
  dropped_eq : m.dropped = left.countP (!·.isDelivered)

theorem ledger_empty : Ledger {} [] [] := ⟨rfl, rfl, rfl⟩

theorem Ledger.act {m : Mailbox} {posts : List PendingFrame} {left : List Departure}
    (h : m.Ledger posts left) (a : MailboxAction) :
    (m.act a).Ledger (posts ++ a.frame?.toList) (left ++ (m.departure? a).toList) where
  frames_eq := by
    rw [List.map_append, List.append_assoc, m.slot_act a, ← List.append_assoc, h.frames_eq]
  posted_eq := by rw [posted_act, h.posted_eq, List.length_append]
  dropped_eq := by rw [dropped_act, h.dropped_eq, List.countP_append]

theorem ledger_actAll (actions : List MailboxAction) :
    Ledger (({} : Mailbox).actAll actions) (actions.filterMap MailboxAction.frame?)
      (({} : Mailbox).departures actions) := by
  induction actions using List.reverseRecOn with
  | nil => exact ledger_empty
  | append_singleton actions a ih =>
    have hframe : [a].filterMap MailboxAction.frame? = a.frame?.toList := by
      cases h : a.frame? <;> simp [h]
    have hleft : ∀ m : Mailbox, m.departures [a] = (m.departure? a).toList :=
      fun m => List.append_nil _
    rw [actAll_append, departures_append, List.filterMap_append, hframe, hleft]
    exact ih.act a

/-- The frames that were posted have been received, have been dropped, or are pending. -/
theorem Ledger.conserved {m : Mailbox} {posts : List PendingFrame} {left : List Departure}
    (h : m.Ledger posts left) :
    m.posted = (Departure.received left).length + m.dropped + m.pending.toList.length := by
  have hleft : left.length = left.countP (·.isDelivered) + left.countP (!·.isDelivered) := by
    rw [List.length_eq_countP_add_countP Departure.isDelivered]
    simp
  have hreceived : (Departure.received left).length = left.countP (·.isDelivered) := by
    rw [Departure.received, List.length_map, List.countP_eq_length_filter]
  have hposts : posts.length = left.length + m.pending.toList.length := by
    rw [← h.frames_eq, List.length_append, List.length_map]
  have hposted := h.posted_eq
  have hdropped := h.dropped_eq
  omega

theorem Ledger.received_sublist {m : Mailbox} {posts : List PendingFrame} {left : List Departure}
    (h : m.Ledger posts left) : (Departure.received left).Sublist posts := by
  rw [← h.frames_eq]
  exact (List.filter_sublist.map _).trans (List.sublist_append_left _ _)

/-! ## What is pending -/

theorem waits_append_singleton (f : PendingFrame) (actions : List MailboxAction)
    (a : MailboxAction) :
    (∃ before since, actions ++ [a] = before ++ .post f :: since ∧ ∀ b ∈ since, b = .finish) ↔
      a = .post f ∨ a = .finish ∧
        ∃ before since, actions = before ++ .post f :: since ∧ ∀ b ∈ since, b = .finish := by
  constructor
  · rintro ⟨before, since, heq, hsince⟩
    induction since using List.reverseRecOn with
    | nil =>
      left
      exact (List.append_singleton_inj.1 heq).2
    | append_singleton since b _ =>
      right
      rw [← List.cons_append, ← List.append_assoc] at heq
      obtain ⟨rfl, rfl⟩ := List.append_singleton_inj.1 heq
      refine ⟨hsince a (by simp), before, since, rfl, ?_⟩
      intro b hb
      exact hsince b (List.mem_append_left _ hb)
  · rintro (rfl | ⟨rfl, before, since, rfl, hsince⟩)
    · exact ⟨actions, [], rfl, nofun⟩
    · refine ⟨before, since ++ [.finish], by simp, ?_⟩
      intro b hb
      rcases List.mem_append.1 hb with hb | hb
      · exact hsince b hb
      · exact List.mem_singleton.1 hb

/-- A frame is pending if nothing but the end of the stream has come after its post. -/
theorem pending_actAll_iff (actions : List MailboxAction) (f : PendingFrame) :
    (({} : Mailbox).actAll actions).pending = some f ↔
      ∃ before since, actions = before ++ .post f :: since ∧ ∀ a ∈ since, a = .finish := by
  induction actions using List.reverseRecOn with
  | nil => simp [actAll]
  | append_singleton actions a ih =>
    rw [waits_append_singleton, ← ih, actAll_append]
    show ((({} : Mailbox).actAll actions).act a).pending = some f ↔ _
    generalize ({} : Mailbox).actAll actions = m
    cases a with
    | post g => simp [Mailbox.act, post]
    | discard => cases hp : m.pending <;> simp [Mailbox.act, discard, hp]
    | finish => simp [Mailbox.act, finish]
    | take => cases hp : m.pending <;> simp [Mailbox.act, take?, hp]

theorem finished_actAll_iff (actions : List MailboxAction) :
    (({} : Mailbox).actAll actions).finished = true ↔ .finish ∈ actions := by
  induction actions using List.reverseRecOn with
  | nil => simp [actAll]
  | append_singleton actions a ih =>
    rw [actAll_append, List.mem_append, ← ih]
    show ((({} : Mailbox).actAll actions).act a).finished = true ↔ _
    generalize ({} : Mailbox).actAll actions = m
    cases a with
    | post g => simp [Mailbox.act, post]
    | discard => cases hp : m.pending <;> simp [Mailbox.act, discard, hp]
    | finish => simp [Mailbox.act, finish]
    | take => cases hp : m.pending <;> simp [Mailbox.act, take?, hp]

/-- A pending frame is the next one to leave. -/
theorem departures_of_pending {m : Mailbox} {f : PendingFrame} (h : m.pending = some f)
    (actions : List MailboxAction) :
    (m.actAll actions).pending = some f ∨
      ∃ fate rest, m.departures actions = ⟨f, fate⟩ :: rest := by
  induction actions generalizing m with
  | nil => exact .inl h
  | cons a actions ih =>
    cases a with
    | finish => exact ih (m := m.finish) h
    | post g => exact .inr ⟨.overwritten, _, by simp only [departures, departure?, h]; rfl⟩
    | discard => exact .inr ⟨.discarded, _, by simp only [departures, departure?, discard, h]; rfl⟩
    | take => exact .inr ⟨.delivered, _, by simp only [departures, departure?, take?, h]; rfl⟩

/-- **What a mailbox delivers.** At any moment of any run of a fresh mailbox, the frames that have
left it, in order, and then the pending one are the frames posted: so each post leaves at most once,
and not in two ways. The frames posted are those delivered, those dropped and the pending one, and
what was delivered is a subsequence of what was posted. A consumer receives a frame exactly if
nothing but the end of the stream has come after its post. It receives the end of the stream exactly
if that has been signalled and nothing is pending; a frame that was pending at the signal has left
before. -/
theorem delivery_law (actions : List MailboxAction) :
    let m := ({} : Mailbox).actAll actions
    let posts := actions.filterMap MailboxAction.frame?
    let left := ({} : Mailbox).departures actions
    left.map Departure.frame ++ m.pending.toList = posts ∧
      m.posted = posts.length ∧ m.dropped = left.countP (!·.isDelivered) ∧
      m.posted =
        (Departure.received left).length + m.dropped + (if m.pending.isSome then 1 else 0) ∧
      (Departure.received left).Sublist posts ∧
      (∀ f, m.take?.1 = some (.frame f) ↔
        ∃ before since, actions = before ++ .post f :: since ∧ ∀ a ∈ since, a = .finish) ∧
      (m.take?.1 = some .endOfStream ↔ .finish ∈ actions ∧ m.pending = none) ∧
      (∀ f later, m.pending = some f → (m.finish.actAll later).take?.1 = some .endOfStream →
        ∃ fate rest, m.finish.departures later = ⟨f, fate⟩ :: rest) := by
  intro m posts left
  have hledger : m.Ledger posts left := ledger_actAll actions
  refine ⟨hledger.frames_eq, hledger.posted_eq, hledger.dropped_eq, ?_, hledger.received_sublist,
    ?_, ?_, ?_⟩
  · rw [hledger.conserved]
    cases m.pending <;> rfl
  · intro f
    rw [take?_eq_frame_iff]
    exact pending_actAll_iff actions f
  · rw [take?_eq_endOfStream_iff, finished_actAll_iff, and_comm]
  · intro f later hpending hend
    have hnone := ((m.finish.actAll later).take?_eq_endOfStream_iff.1 hend).1
    rcases departures_of_pending (m := m.finish) hpending later with hstill | hleft
    · rw [hstill] at hnone
      cases hnone
    · exact hleft

/-- The first frame is overwritten, and the end is signalled while the second one is pending. That
one is delivered before the end of the stream is. -/
theorem delivery_law_overwritten :
    let m := ({} : Mailbox).actAll [.post ⟨⟨1⟩, 0⟩, .post ⟨⟨2⟩, 5⟩]
    m.pending = some ⟨⟨2⟩, 5⟩ ∧ (m.finish.actAll [.take]).take?.1 = some .endOfStream ∧
      ∃ fate rest, m.finish.departures [.take] = ⟨⟨⟨2⟩, 5⟩, fate⟩ :: rest := by
  have hpending : (({} : Mailbox).actAll [.post ⟨⟨1⟩, 0⟩, .post ⟨⟨2⟩, 5⟩]).pending =
      some ⟨⟨2⟩, 5⟩ := by decide
  have hend : ((({} : Mailbox).actAll [.post ⟨⟨1⟩, 0⟩, .post ⟨⟨2⟩, 5⟩]).finish.actAll
      [.take]).take?.1 = some .endOfStream := by decide
  obtain ⟨-, -, -, -, -, -, -, hfirst⟩ := delivery_law [.post ⟨⟨1⟩, 0⟩, .post ⟨⟨2⟩, 5⟩]
  exact ⟨hpending, hend, hfirst _ _ hpending hend⟩

end Mailbox

end VideoReceiver
