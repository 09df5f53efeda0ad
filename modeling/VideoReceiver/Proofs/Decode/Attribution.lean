import Mathlib.Data.List.Infix
import VideoReceiver.Proofs.Decode.Backlog
import VideoReceiver.Proofs.Decode.Transcript

/-!
# Decode times

A frame is posted under the time at which its access unit was accepted, if that is still remembered.
While no more access units wait for their pictures than are remembered, the decode stage remembers
exactly these, whatever the order in which their pictures come: so none of them is forgotten, and
every frame has its time.

## Main definitions

- `Sight`: what is seen of access units and pictures in a step
- `Sight.outstanding`: the access units that wait for their pictures
- `Sight.Orderly`: a decoder that decodes what it has accepted, each once, and not too late

## Main statements

- `Progress.noticed`: what a step does to the remembered access units
- `Remembers.step`: they are the outstanding ones
- `StageRun.attribution_law`: under which times frames are posted
-/

namespace VideoReceiver

open DecodeStage (maxInFlight)

variable {η : Type}

/-! ## What is seen of pictures -/

/-- What is seen of access units and pictures in a run. -/
inductive Sight where
  | accepted (u : InFlight)
  | decoded (pts : UInt64)
  | posted (pts : UInt64) (frame : PendingFrame) (now : Instant)
  /-- A picture is not posted: its buffer belongs to no slot. -/
  | unresolved (pts : UInt64)
  deriving DecidableEq, Repr

namespace Sight

def accepted? : Sight → Option InFlight
  | accepted u => some u
  | _ => none

def decoded? : Sight → Option UInt64
  | decoded pts => some pts
  | _ => none

def unresolved? : Sight → Option UInt64
  | unresolved pts => some pts
  | _ => none

def isPosted : Sight → Bool
  | posted .. => true
  | _ => false

/-- The access units that have been accepted, with their times. -/
def acceptances (log : List Sight) : List InFlight := log.filterMap accepted?

/-- The timestamps of the pictures that have been decoded. -/
def pictures (log : List Sight) : List UInt64 := log.filterMap decoded?

/-- The access units that wait for their pictures. -/
def outstanding (log : List Sight) : List InFlight :=
  (acceptances log).filter (·.pts ∉ pictures log)

/-- The decoder decodes what it has accepted, each access unit once and into buffers of the pool,
and never are more access units without their picture than the decode stage remembers. -/
structure Orderly (log : List Sight) : Prop where
  distinct : ((acceptances log).map InFlight.pts).Nodup
  once : (pictures log).Nodup
  causal : ∀ past, past <+: log → ∀ pts ∈ pictures past, pts ∈ (acceptances past).map InFlight.pts
  resolved : ∀ pts, unresolved pts ∉ log
  bounded : ∀ past, past <+: log → (outstanding past).length ≤ maxInFlight

instance (log : List Sight) : Decidable (Orderly log) :=
  decidable_of_iff
    (((acceptances log).map InFlight.pts).Nodup ∧ (pictures log).Nodup ∧
      -- not a quantifier over timestamps, which might be decided for each of the 2 ^ 64
      (∀ past ∈ log.inits, (pictures past).all (· ∈ (acceptances past).map InFlight.pts)) ∧
      (∀ sight ∈ log, sight.unresolved? = none) ∧
      ∀ past ∈ log.inits, (outstanding past).length ≤ maxInFlight) <| by
    have hresolved : (∀ sight ∈ log, sight.unresolved? = none) ↔ ∀ pts, unresolved pts ∉ log := by
      constructor
      · exact fun h pts hpts => nomatch h _ hpts
      · rintro h (_ | _ | _ | pts) hsight
        · rfl
        · rfl
        · rfl
        · exact absurd hsight (h pts)
    simp only [List.mem_inits, List.all_eq_true, decide_eq_true_iff]
    rw [hresolved]
    exact ⟨fun ⟨h₁, h₂, h₃, h₄, h₅⟩ => ⟨h₁, h₂, h₃, h₄, h₅⟩,
      fun ⟨h₁, h₂, h₃, h₄, h₅⟩ => ⟨h₁, h₂, h₃, h₄, h₅⟩⟩

theorem acceptances_append (log more : List Sight) :
    acceptances (log ++ more) = acceptances log ++ acceptances more :=
  List.filterMap_append

theorem pictures_append (log more : List Sight) :
    pictures (log ++ more) = pictures log ++ pictures more :=
  List.filterMap_append

/-- What is orderly was so at every moment. -/
theorem Orderly.of_append {log more : List Sight} (h : Orderly (log ++ more)) : Orderly log where
  distinct := by
    have hdistinct := h.distinct
    rw [acceptances_append, List.map_append] at hdistinct
    exact hdistinct.of_append_left
  once := by
    have honce := h.once
    rw [pictures_append] at honce
    exact honce.of_append_left
  causal past hpast := h.causal past (hpast.trans (List.prefix_append _ _))
  resolved pts hpts := h.resolved pts (List.mem_append_left _ hpts)
  bounded past hpast := h.bounded past (hpast.trans (List.prefix_append _ _))

end Sight

/-- What is seen in a call of the decoder. -/
def DecoderCall.sight? (now : Instant) : DecoderCall → Option Sight
  | submit _ pts (.ok .accepted) => some (.accepted ⟨pts, now⟩)
  | poll (.ok (some (.picture _ pts))) => some (.decoded pts)
  | _ => none

def StageTask.presents? : StageTask → Option UInt64
  | present _ pts => some pts
  | _ => none

/-- The time of a step of the stage. -/
def StageAction.time? : StageAction → Option Instant
  | proceed now => some now
  | _ => none

/-- What becomes of a picture in a step that is to post it. -/
def DecodeStage.verdict? (s s' : DecodeStage η) (now : Instant) :
    Option ReturnGoal → List StageTask → Option Sight
  | none, .present _ pts :: _ =>
    if s'.mailbox.posted = s.mailbox.posted then some (.unresolved pts)
    else s'.mailbox.pending.map (.posted pts · now)
  | _, _ => none

namespace StageRun

/-- The pictures that have been decoded and are still to be posted. -/
def waiting (r : StageRun η) : List UInt64 := r.tasks.filterMap StageTask.presents?

/-- What is seen in an action: the new calls of the decoder, and what becomes of a picture. -/
def sights (r r' : StageRun (Overheard η)) : StageAction → List Sight
  | .proceed now =>
    (r'.stage.hardware.calls.drop r.stage.hardware.calls.length).filterMap
        (DecoderCall.sight? now) ++
      (r.stage.verdict? r'.stage now r.goal r.tasks).toList
  | .start _ | .take | .finish | .watch _ => []

variable [SurfaceAllocator η] [VideoDecoder η]

/-- What is seen in a run. -/
def sightsOf (r : StageRun (Overheard η)) : List StageAction → List Sight
  | [] => []
  | a :: actions => r.sights (r.act a) a ++ sightsOf (r.act a) actions

theorem actAll_concat (r : StageRun η) (actions : List StageAction) (a : StageAction) :
    r.actAll (actions ++ [a]) = (r.actAll actions).act a :=
  List.foldl_concat ..

theorem sightsOf_concat (r : StageRun (Overheard η)) (actions : List StageAction)
    (a : StageAction) :
    r.sightsOf (actions ++ [a]) =
      r.sightsOf actions ++ (r.actAll actions).sights ((r.actAll actions).act a) a := by
  induction actions generalizing r with
  | nil => exact List.append_nil _
  | cons b actions ih =>
    rw [List.cons_append, sightsOf, sightsOf, ih, List.append_assoc]
    rfl

end StageRun

/-! ## What a step does to the remembered access units -/

/-- What an operation under way does to the remembered access units and to the pictures that are to
be posted, with what is seen of it. -/
inductive Noticed (now : Instant) (s s' : DecodeStage η) (goal : Option ReturnGoal) :
    List UInt64 → List UInt64 → List Sight → Prop
  | nothing (waiting : List UInt64) (h : s'.inFlight = s.inFlight)
      (hposted : s'.mailbox.posted = s.mailbox.posted) :
      Noticed now s s' goal waiting waiting []
  | accepted (pts : UInt64) (h : s'.inFlight = (s.accept now pts).inFlight)
      (hposted : s'.mailbox.posted = s.mailbox.posted) :
      Noticed now s s' goal [] [] [.accepted ⟨pts, now⟩]
  | decoded (pts : UInt64) (h : s'.inFlight = s.inFlight)
      (hposted : s'.mailbox.posted = s.mailbox.posted) :
      Noticed now s s' goal [] [pts] [.decoded pts]
  | unresolved (pts : UInt64) (h : s'.inFlight = s.inFlight)
      (hposted : s'.mailbox.posted = s.mailbox.posted) :
      Noticed now s s' goal [pts] [] [.unresolved pts]
  | posted (pts : UInt64) (surface : SurfaceId)
      (h : s'.inFlight = (s.takeAcceptTime pts).2.inFlight)
      (hposted : s'.mailbox.posted = s.mailbox.posted + 1) :
      Noticed now s s' goal [pts] []
        [.posted pts ⟨surface, (s.takeAcceptTime pts).1.getD now⟩ now]
  | forgotten (waiting : List UInt64) (hgoal : goal = some .forget) (h : s'.inFlight = [])
      (hposted : s'.mailbox.posted = s.mailbox.posted) :
      Noticed now s s' goal waiting waiting []

theorem DecodeStage.fields_of_account {s : DecodeStage η} {a : StageAccount} (h : s.account = a) :
    s.inFlight = a.inFlight ∧ s.mailbox.posted = a.posted := by
  subst h
  exact ⟨rfl, rfl⟩

/-- No picture is to be posted except by the task that comes next. -/
structure Calm (goal : Option ReturnGoal) (tasks : List StageTask) : Prop where
  changing : goal ≠ none → ∀ task ∈ tasks, task.presents? = none
  behind : ∀ task ∈ tasks.tail, task.presents? = none

section Progress

variable {now : Instant} {s s' : DecodeStage η} {goal goal' : Option ReturnGoal}
  {tasks tasks' : List StageTask} {failure : Option ReceiverError} {calls : List DecoderCall}

theorem Calm.filterMap_append {task : StageTask} (h : Calm goal (task :: tasks))
    (front : List StageTask) :
    (front ++ tasks).filterMap StageTask.presents? = front.filterMap StageTask.presents? := by
  have hrest : tasks.filterMap StageTask.presents? = [] := List.filterMap_eq_nil_iff.2 h.behind
  rw [List.filterMap_append, hrest, List.append_nil]

/-- What is noticed of a step. -/
theorem Progress.noticed (hp : Progress now s s' goal tasks goal' tasks' failure calls)
    (h : Calm goal tasks) :
    Noticed now s s' goal (tasks.filterMap StageTask.presents?)
      (tasks'.filterMap StageTask.presents?)
      (calls.filterMap (DecoderCall.sight? now) ++ (s.verdict? s' now goal tasks).toList) := by
  cases hp with
  | changed _ heffect =>
    cases heffect with
    | goesOn _ h' | unbuilt _ _ h' | unregistered _ _ _ h' | registered _ _ h' =>
      obtain ⟨hinFlight, hposted⟩ := DecodeStage.fields_of_account h'
      exact .nothing _ hinFlight hposted
    | forgotten h' =>
      obtain ⟨hinFlight, hposted⟩ := DecodeStage.fields_of_account h'
      exact .forgotten _ rfl hinFlight hposted
  | ended _ heffect =>
    rw [List.filterMap_eq_nil_iff.2 (h.changing nofun)]
    cases heffect with
    | failed _ h' =>
      obtain ⟨hinFlight, hposted⟩ := DecodeStage.fields_of_account h'
      exact .nothing [] hinFlight hposted
  | @worked task _ front _ rest heffect =>
    rw [← List.singleton_append, h.filterMap_append, h.filterMap_append]
    cases heffect with
    | dropped _ h' | rejected _ _ _ h' | busy _ _ h' | observed _ h' | pollFailed _ h'
    | exhausted h' | formatChanged _ h' =>
      obtain ⟨hinFlight, hposted⟩ := DecodeStage.fields_of_account h'
      exact .nothing [] hinFlight hposted
    | accepted u _ h' =>
      obtain ⟨hinFlight, hposted⟩ := DecodeStage.fields_of_account h'
      exact .accepted u.pts hinFlight hposted
    | picture _ pts h' =>
      obtain ⟨hinFlight, hposted⟩ := DecodeStage.fields_of_account h'
      exact .decoded pts hinFlight hposted
    | unknown _ pts h' =>
      obtain ⟨hinFlight, hposted⟩ := DecodeStage.fields_of_account h'
      have hsame : s'.mailbox.posted = s.mailbox.posted := hposted
      rw [List.singleton_append, DecodeStage.verdict?, if_pos hsame]
      exact .unresolved pts hinFlight hsame
    | posted _ pts surface h' hframe =>
      obtain ⟨hinFlight, hposted⟩ := DecodeStage.fields_of_account h'
      have hgrown : s'.mailbox.posted ≠ s.mailbox.posted := by
        rw [hposted]
        exact Nat.succ_ne_self _
      rw [List.singleton_append, DecodeStage.verdict?, if_neg hgrown, hframe]
      exact .posted pts surface hinFlight hposted

/-- A step brings at most one picture to be posted, as the next task. -/
theorem Progress.calm (hp : Progress now s s' goal tasks goal' tasks' failure calls)
    (h : Calm goal tasks) : Calm goal' tasks' := by
  cases hp with
  | changed _ heffect => exact ⟨fun _ => h.changing nofun, h.behind⟩
  | ended _ heffect =>
    exact ⟨fun _ _ ht => absurd ht List.not_mem_nil, fun _ ht => absurd ht List.not_mem_nil⟩
  | worked rest heffect =>
    cases heffect with
    | dropped | accepted | rejected | observed | pollFailed | exhausted | unknown | posted =>
      exact ⟨fun hgoal => absurd rfl hgoal, fun task ht => h.behind task (List.mem_of_mem_tail ht)⟩
    | busy | picture =>
      exact ⟨fun hgoal => absurd rfl hgoal, List.forall_mem_cons.2 ⟨rfl, h.behind⟩⟩
    | formatChanged => exact ⟨fun _ => List.forall_mem_cons.2 ⟨rfl, h.behind⟩, h.behind⟩

/-- Only a teardown forgets the accepted access units. -/
theorem Progress.goal_ne_forget (hp : Progress now s s' goal tasks goal' tasks' failure calls)
    (h : goal ≠ some .forget) : goal' ≠ some .forget := by
  cases hp with
  | changed _ heffect =>
    cases heffect with
    | goesOn => exact h
    | unbuilt | unregistered | registered | forgotten => nofun
  | ended => nofun
  | worked _ heffect => cases heffect <;> nofun

end Progress

/-! ## The remembered access units -/

theorem InFlight.eraseP_eq_filter {units : List InFlight} (h : (units.map pts).Nodup)
    (pts : UInt64) : units.eraseP (·.pts == pts) = units.filter (·.pts ≠ pts) := by
  induction units with
  | nil => rfl
  | cons u units ih =>
    obtain ⟨hu, hunits⟩ := List.nodup_cons.1 h
    by_cases hpts : u.pts = pts
    · have hrest : ∀ v ∈ units, v.pts ≠ pts := fun v hv hvpts =>
        hu (List.mem_map.2 ⟨v, hv, hvpts.trans hpts.symm⟩)
      rw [List.eraseP_cons_of_pos (by simp [hpts]), List.filter_cons_of_neg (by simp [hpts]),
        List.filter_eq_self.2 (by simpa using hrest)]
    · rw [List.eraseP_cons_of_neg (by simp [hpts]), List.filter_cons_of_pos (by simp [hpts]),
        ih hunits]

namespace DecodeStage

variable {s : DecodeStage η} {now : Instant} {pts : UInt64}

/-- Nothing is forgotten while there is room. -/
theorem accept_of_lt (h : s.inFlight.length < maxInFlight) :
    (s.accept now pts).inFlight = s.inFlight ++ [⟨pts, now⟩] := by
  simp only [accept, if_neg (Nat.ne_of_lt h)]

theorem accept_of_full (h : s.inFlight.length = maxInFlight) :
    (s.accept now pts).inFlight = s.inFlight.drop 1 ++ [⟨pts, now⟩] := by
  simp only [accept, if_pos h]

theorem length_accept_le (h : s.inFlight.length ≤ maxInFlight) :
    (s.accept now pts).inFlight.length ≤ maxInFlight := by
  rcases Nat.lt_or_eq_of_le h with hlt | hfull
  · rw [accept_of_lt hlt, List.length_append]
    exact hlt
  · rw [accept_of_full hfull, List.length_append, List.length_drop, hfull]
    exact Nat.le_refl _

theorem mem_accept {u : InFlight} (h : u ∈ (s.accept now pts).inFlight) :
    u ∈ s.inFlight ∨ u = ⟨pts, now⟩ := by
  simp only [accept, List.mem_append, List.mem_singleton] at h
  rcases h with h | h
  · split at h
    · exact .inl (List.mem_of_mem_drop h)
    · exact .inl h
  · exact .inr h

theorem inFlight_takeAcceptTime (s : DecodeStage η) (pts : UInt64) :
    (s.takeAcceptTime pts).2.inFlight = s.inFlight.eraseP (·.pts == pts) := by
  unfold takeAcceptTime
  split
  · rfl
  · next hnone => exact (List.eraseP_of_forall_not (List.find?_eq_none.1 hnone)).symm

/-- A time that is found is the time of an access unit that is remembered. -/
theorem mem_of_takeAcceptTime {t : Instant} (h : (s.takeAcceptTime pts).1 = some t) :
    ⟨pts, t⟩ ∈ s.inFlight := by
  unfold takeAcceptTime at h
  split at h
  · next u hu =>
    cases h
    have hpts : u.pts = pts := by simpa using List.find?_some hu
    rw [← hpts]
    exact List.mem_of_find?_eq_some hu
  · cases h

theorem takeAcceptTime_isSome {u : InFlight} (h : u ∈ s.inFlight) :
    ∃ t, (s.takeAcceptTime u.pts).1 = some t := by
  unfold takeAcceptTime
  split
  · exact ⟨_, rfl⟩
  · next hnone => exact absurd (beq_self_eq_true u.pts) (List.find?_eq_none.1 hnone u h)

end DecodeStage

namespace Sight

variable {log : List Sight}

theorem mem_acceptances {u : InFlight} : u ∈ acceptances log ↔ accepted u ∈ log := by
  rw [acceptances, List.mem_filterMap]
  constructor
  · rintro ⟨sight, hsight, hu⟩
    cases sight <;> cases hu
    exact hsight
  · exact fun h => ⟨_, h, rfl⟩

/-- A new access unit has no picture yet. -/
theorem Orderly.not_mem_pictures {u : InFlight} (h : Orderly (log ++ [accepted u])) :
    u.pts ∉ pictures log := by
  intro hu
  have hdistinct := h.distinct
  rw [acceptances_append, List.map_append, List.nodup_append] at hdistinct
  exact hdistinct.2.2 _ (h.of_append.causal log List.prefix_rfl _ hu) _ List.mem_cons_self rfl

/-- There is room for a new access unit. -/
theorem Orderly.length_outstanding_lt {u : InFlight} (h : Orderly (log ++ [accepted u])) :
    (outstanding log).length < maxInFlight := by
  have hpictures : pictures (log ++ [accepted u]) = pictures log := by
    rw [pictures_append]
    exact List.append_nil _
  have hunit : (acceptances [accepted u]).filter (·.pts ∉ pictures log) = [u] := by
    simp [acceptances, accepted?, h.not_mem_pictures]
  have hbounded := h.bounded _ List.prefix_rfl
  rw [outstanding, hpictures, acceptances_append, List.filter_append, hunit,
    List.length_append] at hbounded
  exact hbounded

end Sight

open Sight (acceptances pictures outstanding Orderly)

/-- The decode stage remembers the access units whose pictures have not been posted; these are the
outstanding ones and the one whose picture waits. Frames are posted under their times. -/
structure Remembers (inFlight : List InFlight) (waiting : List UInt64) (log : List Sight) :
    Prop where
  remembered : ∃ shown, pictures log = shown ++ waiting ∧
    inFlight = (acceptances log).filter (·.pts ∉ shown)
  attributed : ∀ pts frame now, .posted pts frame now ∈ log →
    .accepted ⟨pts, frame.decodedAt⟩ ∈ log

/-- A step of an orderly run remembers what is outstanding. -/
theorem Remembers.step {now : Instant} {s s' : DecodeStage η} {goal : Option ReturnGoal}
    {waiting waiting' : List UInt64} {log sights : List Sight}
    (h : Remembers s.inFlight waiting log) (hn : Noticed now s s' goal waiting waiting' sights)
    (hgoal : goal ≠ some .forget) (ho : Orderly (log ++ sights)) :
    Remembers s'.inFlight waiting' (log ++ sights) := by
  obtain ⟨⟨shown, hpictures, hremembered⟩, hattributed⟩ := h
  cases hn with
  | nothing _ hsame =>
    rw [List.append_nil, hsame]
    exact ⟨⟨shown, hpictures, hremembered⟩, hattributed⟩
  | accepted pts haccept =>
    obtain rfl : pictures log = shown := hpictures.trans (List.append_nil _)
    have hroom : s.inFlight.length < maxInFlight := by
      rw [hremembered]
      exact ho.length_outstanding_lt
    refine ⟨⟨pictures log, Sight.pictures_append log _, ?_⟩, fun _ frame now hposted => ?_⟩
    · rw [haccept, DecodeStage.accept_of_lt hroom, hremembered, Sight.acceptances_append,
        List.filter_append]
      simp [acceptances, Sight.accepted?, ho.not_mem_pictures]
    · simp only [List.mem_append, List.mem_singleton, reduceCtorEq, or_false] at hposted
      exact List.mem_append_left _ (hattributed _ frame now hposted)
  | decoded pts hsame =>
    obtain rfl : pictures log = shown := hpictures.trans (List.append_nil _)
    refine ⟨⟨pictures log, Sight.pictures_append log _, ?_⟩, fun _ frame now hposted => ?_⟩
    · rw [hsame, hremembered, Sight.acceptances_append]
      exact congrArg _ (List.append_nil _).symm
    · simp only [List.mem_append, List.mem_singleton, reduceCtorEq, or_false] at hposted
      exact List.mem_append_left _ (hattributed _ frame now hposted)
  | unresolved pts => exact absurd (List.mem_append_right _ List.mem_cons_self) (ho.resolved pts)
  | posted pts surface htake =>
    have hlog := ho.of_append
    -- the picture has been decoded just now, so its access unit is still remembered
    have hnew : pts ∉ shown := by
      have honce := hlog.once
      rw [hpictures, List.nodup_append] at honce
      exact fun hpts => honce.2.2 pts hpts pts List.mem_cons_self rfl
    have hdecoded : pts ∈ pictures log := by simp [hpictures]
    obtain ⟨u, hu, rfl⟩ := List.mem_map.1 (hlog.causal log List.prefix_rfl pts hdecoded)
    have hmem : u ∈ s.inFlight := by
      rw [hremembered]
      exact List.mem_filter.2 ⟨hu, by simpa using hnew⟩
    obtain ⟨t, ht⟩ := DecodeStage.takeAcceptTime_isSome hmem
    have haccepted := DecodeStage.mem_of_takeAcceptTime ht
    have hdistinct : (s.inFlight.map InFlight.pts).Nodup := by
      rw [hremembered]
      exact hlog.distinct.sublist (List.filter_sublist.map _)
    refine ⟨⟨shown ++ [u.pts], ?_, ?_⟩, fun pts frame now hposted => ?_⟩
    · rw [Sight.pictures_append, hpictures]
      rfl
    · rw [htake, DecodeStage.inFlight_takeAcceptTime, InFlight.eraseP_eq_filter hdistinct,
        hremembered, List.filter_filter, Sight.acceptances_append]
      simp [acceptances, Sight.accepted?, and_comm]
    · rcases List.mem_append.1 hposted with hposted | hposted
      · exact List.mem_append_left _ (hattributed pts frame now hposted)
      · cases List.mem_singleton.1 hposted
        rw [ht, Option.getD_some]
        rw [hremembered] at haccepted
        exact List.mem_append_left _ (Sight.mem_acceptances.1 (List.mem_of_mem_filter haccepted))
  | forgotten _ hforget => exact absurd hforget hgoal

namespace Noticed

variable {now : Instant} {s s' : DecodeStage η} {goal : Option ReturnGoal}
  {waiting waiting' : List UInt64} {sights : List Sight}

theorem length_le (h : Noticed now s s' goal waiting waiting' sights)
    (hle : s.inFlight.length ≤ maxInFlight) : s'.inFlight.length ≤ maxInFlight := by
  cases h with
  | nothing _ h | decoded _ h | unresolved _ h => rwa [h]
  | accepted pts h =>
    rw [h]
    exact DecodeStage.length_accept_le hle
  | posted pts _ h =>
    rw [h, DecodeStage.inFlight_takeAcceptTime]
    exact Nat.le_trans List.length_eraseP_le hle
  | forgotten _ _ h =>
    rw [h]
    exact Nat.zero_le _

theorem posted_eq (h : Noticed now s s' goal waiting waiting' sights) :
    s'.mailbox.posted = s.mailbox.posted + sights.countP Sight.isPosted := by
  cases h with
  | nothing _ _ h | accepted _ _ h | decoded _ _ h | unresolved _ _ h | posted _ _ _ h
  | forgotten _ _ _ h => exact h

/-- An access unit is remembered under the time of the step that has accepted it. -/
theorem mem_inFlight {u : InFlight} (h : Noticed now s s' goal waiting waiting' sights)
    (hu : u ∈ s'.inFlight) : u ∈ s.inFlight ∨ sights ≠ [] ∧ u.acceptedAt = now := by
  cases h with
  | nothing _ h | decoded _ h | unresolved _ h => exact .inl (h ▸ hu)
  | accepted pts h =>
    rw [h] at hu
    rcases DecodeStage.mem_accept hu with hu | rfl
    · exact .inl hu
    · exact .inr ⟨List.cons_ne_nil _ _, rfl⟩
  | posted pts _ h =>
    rw [h, DecodeStage.inFlight_takeAcceptTime] at hu
    exact .inl (List.mem_of_mem_eraseP hu)
  | forgotten _ _ h =>
    rw [h] at hu
    exact absurd hu List.not_mem_nil

/-- Nothing is posted under a time that is still to come. -/
theorem decodedAt_le {pts : UInt64} {frame : PendingFrame} {posting : Instant}
    (h : Noticed now s s' goal waiting waiting' sights)
    (hpast : ∀ u ∈ s.inFlight, u.acceptedAt ≤ now) (hframe : .posted pts frame posting ∈ sights) :
    frame.decodedAt ≤ posting := by
  cases h with
  | nothing | accepted | decoded | unresolved | forgotten => simp at hframe
  | posted pts surface h =>
    cases List.mem_singleton.1 hframe
    rcases htake : (s.takeAcceptTime pts).1 with _ | t
    · exact Nat.le_refl _
    · exact hpast _ (DecodeStage.mem_of_takeAcceptTime htake)

end Noticed

/-! ## Runs -/

namespace StageRun

variable {r r' : StageRun (Overheard η)} {a : StageAction} {log : List Sight}

/-- What is noticed of an action. -/
theorem Turn.noticed (hturn : r.Turn a r') (h : Calm r.goal r.tasks) :
    ∃ now, (a.time? = some now ∨ r.sights r' a = []) ∧
      Noticed now r.stage r'.stage r.goal r.waiting r'.waiting (r.sights r' a) := by
  cases hturn with
  | started op hidle =>
    refine ⟨0, .inr rfl, ?_⟩
    have hwaiting : r.waiting = [] := by
      rw [waiting, hidle.2]
      rfl
    rw [hwaiting]
    cases op <;> exact .nothing [] rfl rfl
  | advanced now _ hcalls hprogress =>
    refine ⟨now, .inl rfl, ?_⟩
    rw [sights, hcalls, List.drop_left]
    exact hprogress.noticed h
  | @aside s a _ hproceed hhardware haccount =>
    obtain ⟨hinFlight, hposted⟩ := DecodeStage.fields_of_account haccount
    have hnone : r.sights { r with stage := s } a = [] := by
      cases a with
      | proceed now =>
        obtain ⟨hchange, htasks⟩ := hproceed now rfl
        rw [sights, hhardware, List.drop_length, r.goal_eq_none_iff.2 hchange, htasks]
        rfl
      | _ => rfl
    rw [hnone]
    exact ⟨0, .inr rfl, .nothing r.waiting hinFlight hposted⟩

theorem Turn.calm (hturn : r.Turn a r') (h : Calm r.goal r.tasks) : Calm r'.goal r'.tasks := by
  cases hturn with
  | started op =>
    cases op with
    | feed u =>
      refine ⟨fun hgoal => absurd rfl hgoal, ?_⟩
      simp [StageOperation.tasks, StageTask.presents?]
    | drain => exact ⟨fun hgoal => absurd rfl hgoal, fun _ ht => absurd ht List.not_mem_nil⟩
    | teardown =>
      exact ⟨fun _ _ ht => absurd ht List.not_mem_nil, fun _ ht => absurd ht List.not_mem_nil⟩
  | advanced _ _ _ hprogress => exact hprogress.calm h
  | aside => exact h

theorem Turn.goal_ne_forget (hturn : r.Turn a r') (h : r.goal ≠ some .forget)
    (ha : a ≠ .start .teardown) : r'.goal ≠ some .forget := by
  cases hturn with
  | started op =>
    cases op with
    | teardown => exact absurd rfl ha
    | feed | drain => nofun
  | advanced _ _ _ hprogress => exact hprogress.goal_ne_forget h
  | aside => exact h

/-- The invariant of a run in which these actions have been performed and this has been seen. -/
structure Attributed (r : StageRun (Overheard η)) (actions : List StageAction)
    (log : List Sight) : Prop where
  calm : Calm r.goal r.tasks
  bounded : r.stage.inFlight.length ≤ maxInFlight
  posted : r.stage.mailbox.posted = log.countP Sight.isPosted
  times : ∀ u ∈ r.stage.inFlight, u.acceptedAt ∈ actions.filterMap StageAction.time?
  timely : (actions.filterMap StageAction.time?).Pairwise (· ≤ ·) →
    ∀ pts frame now, .posted pts frame now ∈ log → frame.decodedAt ≤ now
  keeps : .start .teardown ∉ actions → r.goal ≠ some .forget
  remembers : .start .teardown ∉ actions → Orderly log →
    Remembers r.stage.inFlight r.waiting log

theorem Attributed.turn {actions : List StageAction} (h : r.Attributed actions log)
    (hturn : r.Turn a r') : r'.Attributed (actions ++ [a]) (log ++ r.sights r' a) := by
  obtain ⟨now, htime, hnoticed⟩ := hturn.noticed h.calm
  have htimes : (actions ++ [a]).filterMap StageAction.time? =
      actions.filterMap StageAction.time? ++ a.time?.toList := by
    rw [List.filterMap_append]
    cases a <;> rfl
  have hnew : r.sights r' a ≠ [] → a.time? = some now :=
    fun hsights => htime.resolve_right hsights
  refine ⟨hturn.calm h.calm, hnoticed.length_le h.bounded, ?_, fun u hu => ?_,
    fun hsorted pts frame posting hframe => ?_, fun hactions => ?_, fun hactions horderly => ?_⟩
  · rw [hnoticed.posted_eq, h.posted, List.countP_append]
  · rw [htimes]
    rcases hnoticed.mem_inFlight hu with hu | ⟨hsights, rfl⟩
    · exact List.mem_append_left _ (h.times u hu)
    · simp [hnew hsights]
  · rw [htimes, List.pairwise_append] at hsorted
    rcases List.mem_append.1 hframe with hframe | hframe
    · exact h.timely hsorted.1 pts frame posting hframe
    · have htime := hnew (List.ne_nil_of_mem hframe)
      refine hnoticed.decodedAt_le (fun u hu => hsorted.2.2 _ (h.times u hu) now ?_) hframe
      simp [htime]
  · rw [List.mem_append, not_or, List.mem_singleton] at hactions
    exact hturn.goal_ne_forget (h.keeps hactions.1) (Ne.symm hactions.2)
  · rw [List.mem_append, not_or] at hactions
    exact (h.remembers hactions.1 horderly.of_append).step hnoticed (h.keeps hactions.1) horderly

variable [SurfaceAllocator η] [VideoDecoder η]

theorem attributed_actAll {fresh : StageRun (Overheard η)} (h : fresh.Attributed [] [])
    (actions : List StageAction) :
    (fresh.actAll actions).Attributed actions (fresh.sightsOf actions) := by
  induction actions using List.reverseRecOn with
  | nil => exact h
  | append_singleton actions a ih =>
    rw [actAll_concat, sightsOf_concat]
    exact ih.turn (act_turn _ a)

/-- **Every frame has the time of its access unit.** A decode stage is fed, drained and torn down on
any board, while a consumer takes frames and others use the mailbox's end and the monitor, between
any two of its calls. A recorder of the decoder's calls does not change the run. Never are more than
32 accepted access units remembered. Everything that is posted is seen, and while the clock does not
go backwards no frame is posted under a time that is still to come. If the stage is not torn down,
and the decoder is orderly, every frame is posted under the very time at which the access unit of
its picture was accepted. An operation that is performed without interruption, and has an end, is
part of such a run; it has an end if the decoder keeps to its backlog. -/
theorem attribution_law (η : Type) [SurfaceAllocator η] [VideoDecoder η] (capacity : Nat)
    (board : η) (monitor : LinkMonitor) (actions : List StageAction) :
    let fresh : StageRun (Overheard η) :=
      { stage := { hardware := ⟨board, []⟩, pool := { capacity }, monitor } }
    let r := fresh.actAll actions
    let log := fresh.sightsOf actions
    r.map Overheard.board = after capacity board monitor actions ∧
    r.stage.inFlight.length ≤ 32 ∧
    r.stage.mailbox.posted = log.countP Sight.isPosted ∧
    ((actions.filterMap StageAction.time?).Pairwise (· ≤ ·) →
      ∀ pts frame now, .posted pts frame now ∈ log → frame.decodedAt ≤ now) ∧
    (.start .teardown ∉ actions → Orderly log →
      ∀ pts frame now, .posted pts frame now ∈ log → .accepted ⟨pts, frame.decodedAt⟩ ∈ log) ∧
    (r.Idle → ∀ (op : StageOperation) (now : Instant), (op.perform now r.stage).1 ≠ .endless →
      ∃ n, r.actAll (.start op :: List.replicate n (.proceed now)) =
        ⟨(op.perform now r.stage).2, none, [], some op, (op.perform now r.stage).1.error?⟩) ∧
    (BoundedBacklog η → ∀ (op : StageOperation) (now : Instant),
      (op.perform now r.stage).1 ≠ .endless) := by
  intro fresh r log
  have hfresh : fresh.Attributed [] [] :=
    ⟨⟨fun hgoal => absurd rfl hgoal, fun _ ht => absurd ht List.not_mem_nil⟩, Nat.zero_le _, rfl,
      fun _ hu => absurd hu List.not_mem_nil, fun _ _ _ _ hframe => absurd hframe List.not_mem_nil,
      fun _ => nofun, fun _ _ =>
        ⟨⟨[], rfl, rfl⟩, fun _ _ _ hframe => absurd hframe List.not_mem_nil⟩⟩
  have hrun := attributed_actAll hfresh actions
  exact ⟨(actAll_map Overheard.answersAlike fresh actions).symm, hrun.bounded, hrun.posted,
    hrun.timely, fun hactions horderly => (hrun.remembers hactions horderly).attributed,
    fun hidle => performed_actAll hidle, fun hbacklog op now =>
      (hbacklog.of_answersAlike Overheard.answersAlike).perform_ne_endless op now r.stage⟩

end StageRun

/-- A scripted board whose decoder announces events as they are written down, with pauses. -/
structure Bench.Player where
  board : Bench.Board := {}
  script : List (Option DecoderEvent)

namespace Bench.Player

instance : SurfaceAllocator Player where
  allocate p size := Prod.map id (mk · p.script) (p.board.allocate size)
  bindSurface p a _ := Prod.map id (mk · p.script) (p.board.bindSurface a)
  unbindSurface p surface := { p with board := p.board.unbindSurface surface }
  release p handle := { p with board := p.board.release handle }

instance : VideoDecoder Player where
  submit p data pts := Prod.map id (mk · p.script) (p.board.submit data pts)
  pollEvent p := (.ok p.script.head?.join, { p with script := p.script.drop 1 })
  registerBuffers p buffers := Prod.map id (mk · p.script) (p.board.registerBuffers buffers)
  backlog p := p.script.length

end Bench.Player

/-- Two access units are accepted, the first one after the decoder was busy and has announced a
format. After another format the second picture comes before the first one. Both are posted under
the times at which their access units were accepted. -/
theorem StageRun.attribution_law_out_of_order :
    let format := PictureFormat.unpadded 64 48 default
    let player : Bench.Player :=
      { board := { busy := 1 }
        script :=
          [some (.formatChanged format), none, none, some (.formatChanged format),
            some (.picture ⟨0x1003⟩ 20), some (.picture ⟨0x1004⟩ 10)] }
    let fresh : StageRun (Overheard Bench.Player) :=
      { stage := { hardware := ⟨player, []⟩, pool := { capacity := 2 } } }
    let feed (pts : UInt64) (start : Instant) : List StageAction :=
      .start (.feed ⟨[], pts, none, none⟩) ::
        (List.range 40).map fun i => .proceed (start + i)
    let actions := feed 10 0 ++ feed 20 100
    let log := fresh.sightsOf actions
    .start .teardown ∉ actions ∧ (actions.filterMap StageAction.time?).Pairwise (· ≤ ·) ∧
      (∀ pts frame now, .posted pts frame now ∈ log → frame.decodedAt ≤ now) ∧
      Sight.Orderly log ∧
      (.posted 20 ⟨⟨3⟩, 100⟩ 117 ∈ log ∧ .accepted ⟨20, 100⟩ ∈ log) ∧
      .posted 10 ⟨⟨4⟩, 12⟩ 119 ∈ log ∧ .accepted ⟨10, 12⟩ ∈ log := by
  intro format player fresh feed actions log
  have hactions : .start .teardown ∉ actions := by simp [actions, feed]
  have htimes : (actions.filterMap StageAction.time?).Pairwise (· ≤ ·) := by decide +kernel
  have horderly : Sight.Orderly log := by decide +kernel
  have hsecond : .posted 20 ⟨⟨3⟩, 100⟩ 117 ∈ log := by decide +kernel
  have hfirst : .posted 10 ⟨⟨4⟩, 12⟩ 119 ∈ log := by decide +kernel
  obtain ⟨-, -, -, htimely, hattributed, -⟩ :=
    attribution_law Bench.Player 2 player {} actions
  exact ⟨hactions, htimes, htimely htimes, horderly,
    ⟨hsecond, hattributed hactions horderly _ _ _ hsecond⟩,
    hfirst, hattributed hactions horderly _ _ _ hfirst⟩

end VideoReceiver
