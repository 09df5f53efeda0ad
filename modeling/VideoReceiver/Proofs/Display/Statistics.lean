import Mathlib.Algebra.Order.BigOperators.Group.List
import Mathlib.Algebra.Order.Ring.Nat
import VideoReceiver.Bench.Screen
import VideoReceiver.Proofs.Mailbox.Delivery

/-!
# Display statistics

The display stage takes frames from a mailbox that others use while it commits: what it takes next
depends on what they have posted, replaced and discarded during its last commit. The script of a
screen says what they do, so that the mailbox before each take is known, and with it the frames, the
end of the run and the counters.

## Main definitions

- `Showing`, `latencies`: a frame that has been taken, and the latencies that count
- `mailboxBefore`: the mailbox before each take
- `NeverWaits`: the stream ends before the display would have to wait
- `ShownSoFar`: where the display stage stands after it has taken some frames

## Main statements

- `DisplayStats.Tallies.record`: the counters are tallies of what has been shown
- `DisplayStats.Tallies.le_meanLatency`, `DisplayStats.Tallies.meanLatency_le`: the mean is between
  the smallest and the largest latency
- `taken_unique`: what is pending before each take decides which frames are taken
- `ShownSoFar.step`, `ShownSoFar.run`: one frame, and all that follow
- `DisplayStage.statistics_law`: which frames are committed, when the stage ends, what it returns
-/

namespace VideoReceiver

open Bench (CommitScript Screen)

/-! ## Counters -/

/-- A frame that has been taken, and whether its commit has failed. -/
structure Showing where
  frame : PendingFrame
  takenAt : Instant
  fails : Bool
  deriving DecidableEq, Repr

/-- The time from decoding to taking; zero for a frame that is decoded later than it is taken. -/
def Showing.latency (x : Showing) : Duration := x.takenAt.since x.frame.decodedAt

/-- The commit as the screen notes it. -/
def Showing.commit (x : Showing) : SurfaceId × Bool := (x.frame.surface, !x.fails)

/-- The latencies of the frames whose commits have succeeded. -/
def latencies (shown : List Showing) : List Duration :=
  (shown.filter (!·.fails)).map Showing.latency

theorem latencies_concat (shown : List Showing) (x : Showing) :
    latencies (shown ++ [x]) = latencies shown ++ if x.fails then [] else [x.latency] := by
  cases hx : x.fails <;> simp [latencies, hx]

namespace DisplayStats

/-- The counters are those of the frames shown. -/
structure Tallies (s : DisplayStats) (shown : List Showing) : Prop where
  presented_eq : s.presented = (latencies shown).length
  commitErrors_eq : s.commitErrors = shown.countP Showing.fails
  maxLatency_eq : s.maxLatency = (latencies shown).foldl max 0
  totalLatency_eq : s.totalLatency = (latencies shown).sum

namespace Tallies

variable {s : DisplayStats} {shown : List Showing}

theorem record (h : s.Tallies shown) (x : Showing) {outcome : Except ReceiverError Unit}
    (houtcome : outcome.isOk = !x.fails) :
    (s.record x.latency outcome).Tallies (shown ++ [x]) := by
  have hlatencies := latencies_concat shown x
  cases outcome with
  | error e =>
    have hx : x.fails = true := by simpa [Except.isOk, Except.toBool] using houtcome
    rw [hx, if_pos rfl, List.append_nil] at hlatencies
    refine ⟨?_, ?_, ?_, ?_⟩
    · rw [hlatencies]
      exact h.presented_eq
    · simp [DisplayStats.record, hx, h.commitErrors_eq]
    · rw [hlatencies]
      exact h.maxLatency_eq
    · rw [hlatencies]
      exact h.totalLatency_eq
  | ok =>
    have hx : x.fails = false := by simpa [Except.isOk, Except.toBool] using houtcome
    rw [hx, if_neg Bool.false_ne_true] at hlatencies
    refine ⟨?_, ?_, ?_, ?_⟩
    · simp [DisplayStats.record, hlatencies, h.presented_eq]
    · simp [DisplayStats.record, hx, h.commitErrors_eq]
    · simp [DisplayStats.record, hlatencies, h.maxLatency_eq, List.foldl_append]
    · simp [DisplayStats.record, hlatencies, h.totalLatency_eq]

theorem maxLatency_eq_max? (h : s.Tallies shown) :
    s.maxLatency = (latencies shown).max?.getD 0 := by
  rw [h.maxLatency_eq, List.foldl_max]
  exact Nat.zero_max _

theorem meanLatency_eq (h : s.Tallies shown) (hcount : s.presented < 2 ^ 32) :
    s.meanLatency = (latencies shown).sum / (latencies shown).length := by
  rw [← h.totalLatency_eq, ← h.presented_eq]
  exact if_pos hcount

theorem meanLatency_le (h : s.Tallies shown) (hcount : s.presented < 2 ^ 32) :
    s.meanLatency ≤ (latencies shown).max?.getD 0 := by
  rw [h.meanLatency_eq hcount]
  refine Nat.div_le_of_le_mul ?_
  have hsum := List.sum_le_card_nsmul (latencies shown) ((latencies shown).max?.getD 0)
    fun _ hmem => List.le_max?_getD_of_mem hmem
  simpa only [Nat.nsmul_eq_mul] using hsum

theorem le_meanLatency (h : s.Tallies shown) (hcount : s.presented < 2 ^ 32) :
    (latencies shown).min?.getD 0 ≤ s.meanLatency := by
  rw [h.meanLatency_eq hcount]
  rcases hnil : latencies shown with _ | ⟨l, more⟩
  · exact Nat.zero_le _
  · rw [← hnil, Nat.le_div_iff_mul_le (by rw [hnil]; exact Nat.succ_pos _), Nat.mul_comm]
    have hsum := List.card_nsmul_le_sum (latencies shown) ((latencies shown).min?.getD 0)
      fun _ hmem => List.min?_getD_le_of_mem hmem
    simpa only [Nat.nsmul_eq_mul] using hsum

end Tallies

end DisplayStats

/-! ## The mailbox before each take -/

/-- The mailbox before each take, counted from zero, as long as every take finds a frame. -/
def mailboxBefore (before : List MailboxAction) (script : List CommitScript) : Nat → Mailbox
  | 0 => ({} : Mailbox).actAll before
  | k + 1 =>
    (mailboxBefore before script k).take?.2.actAll (script.getD k {}).actions

/-- The stream ends before the display would have to wait: no take that comes after takes of frames
alone finds nothing to deliver. -/
def NeverWaits (before : List MailboxAction) (script : List CommitScript) : Prop :=
  ∀ k, (∀ i < k, (mailboxBefore before script i).pending ≠ none) →
    (mailboxBefore before script k).take?.1 ≠ none

section Script

variable {before : List MailboxAction} {script : List CommitScript}

theorem mailboxBefore_of_script_over {k : Nat} (hk : script.length ≤ k) :
    mailboxBefore before script (k + 1) = (mailboxBefore before script k).take?.2 := by
  rw [mailboxBefore, List.getD_eq_getElem?_getD, List.getElem?_eq_none hk]
  rfl

theorem pending_of_script_over {k : Nat} (hk : script.length ≤ k) :
    (mailboxBefore before script (k + 1)).pending = none := by
  rw [mailboxBefore_of_script_over hk, Mailbox.pending_after_take?]

/-- After the script at most one frame is left. -/
theorem neverWaits_iff :
    NeverWaits before script ↔
      ∀ k ≤ script.length + 1, (∀ i < k, (mailboxBefore before script i).pending ≠ none) →
        (mailboxBefore before script k).take?.1 ≠ none := by
  refine ⟨fun h k _ => h k, fun h k hall => h k (Nat.le_of_not_lt fun hlt => ?_) hall⟩
  exact hall _ hlt (pending_of_script_over (Nat.le_refl _))

instance : Decidable (NeverWaits before script) := decidable_of_iff _ neverWaits_iff.symm

namespace NeverWaits

variable (h : NeverWaits before script) {k : Nat}
  (hall : ∀ i < k, (mailboxBefore before script i).pending ≠ none)

include h hall

theorem finished (hempty : (mailboxBefore before script k).pending = none) :
    (mailboxBefore before script k).finished = true := by
  have htake := h k hall
  cases hfin : (mailboxBefore before script k).finished with
  | true => rfl
  | false => simp [Mailbox.take?, hempty, hfin] at htake

/-- When the script is over, the stream has ended: a frame that is left is the last one, and taking
it does not end the stream. -/
theorem finished_of_script_over (hk : script.length ≤ k) :
    (mailboxBefore before script k).finished = true := by
  cases hp : (mailboxBefore before script k).pending with
  | none => exact h.finished hall hp
  | some f =>
    have hall' : ∀ i < k + 1, (mailboxBefore before script i).pending ≠ none := by
      intro i hi
      rcases Nat.lt_succ_iff_lt_or_eq.1 hi with hlt | rfl
      · exact hall i hlt
      · rw [hp]
        exact Option.some_ne_none f
    have hnext := h.finished hall' (pending_of_script_over hk)
    rwa [mailboxBefore_of_script_over hk, Mailbox.finished_take?] at hnext

end NeverWaits

/-- The first takes find these frames. -/
def Finds (before : List MailboxAction) (script : List CommitScript)
    (taken : List PendingFrame) : Prop :=
  ∀ i < taken.length, (mailboxBefore before script i).pending = taken[i]?

namespace Finds

variable {taken : List PendingFrame}

theorem ne_none (h : Finds before script taken) :
    ∀ i < taken.length, (mailboxBefore before script i).pending ≠ none := by
  intro i hi
  rw [h i hi, List.getElem?_eq_getElem hi]
  exact Option.some_ne_none _

/-- The script is too short for more frames. -/
theorem length_le (h : Finds before script taken) : taken.length ≤ script.length + 1 :=
  Nat.le_of_not_lt fun hlt => h.ne_none _ hlt (pending_of_script_over (Nat.le_refl _))

theorem concat (h : Finds before script taken) {f : PendingFrame}
    (hf : (mailboxBefore before script taken.length).pending = some f) :
    Finds before script (taken ++ [f]) := by
  intro i hi
  rw [List.length_append, List.length_singleton] at hi
  rcases Nat.lt_succ_iff_lt_or_eq.1 hi with hlt | rfl
  · rw [List.getElem?_append_left hlt]
    exact h i hlt
  · rw [List.getElem?_concat_length, hf]

end Finds

section Unique

variable {taken taken' : List PendingFrame}
  (h : ∀ i ≤ taken.length, (mailboxBefore before script i).pending = taken[i]?)
  (h' : ∀ i ≤ taken'.length, (mailboxBefore before script i).pending = taken'[i]?)

include h h'

theorem length_taken_le : taken.length ≤ taken'.length := by
  refine Nat.le_of_not_lt fun hlt => ?_
  have hnone := h' _ (Nat.le_refl _)
  rw [h _ (Nat.le_of_lt hlt), List.getElem?_eq_getElem hlt,
    List.getElem?_eq_none (Nat.le_refl _)] at hnone
  cases hnone

/-- What is pending before each take decides which frames are taken. -/
theorem taken_unique : taken = taken' := by
  have hlength : taken.length = taken'.length :=
    Nat.le_antisymm (length_taken_le h h') (length_taken_le h' h)
  refine List.ext_getElem? fun i => ?_
  rcases Nat.lt_or_ge taken.length i with hlt | hge
  · rw [List.getElem?_eq_none (Nat.le_of_lt hlt),
      List.getElem?_eq_none (hlength ▸ Nat.le_of_lt hlt)]
  · rw [← h i hge, h' i (hlength ▸ hge)]

end Unique

/-! ## Runs of the display stage -/

/-- What becomes of the frames taken: the `i`-th one is taken at the `i`-th time, and its commit is
the `i`-th of the script. -/
def showings (times : Nat → Instant) (script : List CommitScript) (taken : List PendingFrame) :
    List Showing :=
  taken.mapIdx fun i f => ⟨f, times i, (script.getD i {}).fails⟩

namespace DisplayStage

variable {κ : Type} [DisplaySink κ]

theorem present_of_pending {s : DisplayStage κ} {f : PendingFrame} (h : s.mailbox.pending = some f)
    (meanwhile : κ → Mailbox → Mailbox) (now : Instant) :
    s.present meanwhile now =
      .presented
        { sink := (DisplaySink.commit s.sink f.surface).2
          mailbox := meanwhile (DisplaySink.commit s.sink f.surface).2 s.mailbox.take?.2
          stats :=
            s.stats.record (now.since f.decodedAt) (DisplaySink.commit s.sink f.surface).1 } := by
  simp [present, Mailbox.take?, h]

theorem present_of_finished {s : DisplayStage κ} (h : s.mailbox.pending = none)
    (hfinished : s.mailbox.finished = true) (meanwhile : κ → Mailbox → Mailbox) (now : Instant) :
    s.present meanwhile now = .ended s := by
  simp [present, Mailbox.take?, h, hfinished]

end DisplayStage

/-- The time at which the next frame is taken, given how many have been committed. -/
def Bench.Screen.clock (times : Nat → Instant) (screen : Screen) : Instant :=
  times screen.commits.length

/-- The display stage has taken some frames of the script and committed each of them. -/
structure ShownSoFar (times : Nat → Instant) (before : List MailboxAction)
    (script : List CommitScript) (taken : List PendingFrame) (s : DisplayStage Screen) : Prop where
  finds : Finds before script taken
  mailbox_eq : s.mailbox = mailboxBefore before script taken.length
  script_eq : s.sink.script = script.drop taken.length
  commits_eq : s.sink.commits = (showings times script taken).map Showing.commit
  tallies : s.stats.Tallies (showings times script taken)

namespace ShownSoFar

variable {times : Nat → Instant} {taken : List PendingFrame} {s : DisplayStage Screen}

theorem clock_eq (h : ShownSoFar times before script taken s) :
    s.sink.clock times = times taken.length := by
  rw [Screen.clock, h.commits_eq, List.length_map, showings, List.length_mapIdx]

/-- A pending frame is taken, and others use the mailbox as the script says. -/
theorem step (hscript : NeverWaits before script) (h : ShownSoFar times before script taken s)
    {f : PendingFrame} (hf : s.mailbox.pending = some f) :
    ∃ s', s.present Screen.meanwhile (s.sink.clock times) = .presented s' ∧
      ShownSoFar times before script (taken ++ [f]) s' := by
  have hentry : s.sink.script.headD {} = script.getD taken.length {} := by
    rw [h.script_eq, List.headD_eq_head?_getD, List.head?_drop, List.getD_eq_getElem?_getD]
  have hrest : s.sink.script.drop 1 = script.drop (taken ++ [f]).length := by
    rw [h.script_eq, List.drop_drop, List.length_append, List.length_singleton]
  have hshowings : showings times script (taken ++ [f]) =
      showings times script taken ++
        [⟨f, times taken.length, (script.getD taken.length {}).fails⟩] := List.mapIdx_concat
  have hfinds := h.finds.concat (h.mailbox_eq ▸ hf)
  refine ⟨_, DisplayStage.present_of_pending hf _ _, hfinds, ?_, hrest, ?_, ?_⟩
  · have hnext : s.mailbox.take?.2.actAll (s.sink.script.headD {}).actions =
        mailboxBefore before script (taken ++ [f]).length := by
      rw [h.mailbox_eq, hentry, List.length_append, List.length_singleton, mailboxBefore]
    show (if (s.sink.script.drop 1).isEmpty then Mailbox.finish _ else _) = _
    -- the screen ends the stream with its script, which has ended it before
    split
    · next hover =>
      rw [hrest, List.isEmpty_iff, List.drop_eq_nil_iff] at hover
      exact (congrArg Mailbox.finish hnext).trans
        (Mailbox.finish_eq_self (hscript.finished_of_script_over hfinds.ne_none hover))
    · exact hnext
  · rw [hshowings, List.map_append, ← h.commits_eq, ← hentry]
    rfl
  · rw [hshowings, ← hentry, ← h.clock_eq]
    refine h.tallies.record ⟨f, s.sink.clock times, (s.sink.script.headD {}).fails⟩ ?_
    show Except.isOk (if (s.sink.script.headD {}).fails then _ else _) = _
    split
    · next hfails => rw [hfails]; rfl
    · next hfails => rw [Bool.eq_false_of_not_eq_true hfails]; rfl

/-- The display stage takes what frames there are, and ends at the first take that finds none. -/
theorem run {taken : List PendingFrame} {s : DisplayStage Screen}
    (hscript : NeverWaits before script) (h : ShownSoFar times before script taken s) :
    ∃ more s', ShownSoFar times before script (taken ++ more) s' ∧
      s'.mailbox.pending = none ∧ s'.mailbox.finished = true ∧
      (∀ frames ≤ more.length, ∃ s'',
        s.run Screen.meanwhile (Screen.clock times) frames = .presented s'') ∧
      ∀ frames > more.length,
        s.run Screen.meanwhile (Screen.clock times) frames = .ended s' := by
  rcases hp : s.mailbox.pending with _ | f
  · have hfinished : s.mailbox.finished = true := by
      rw [h.mailbox_eq] at hp ⊢
      exact hscript.finished h.finds.ne_none hp
    refine ⟨[], s, by rwa [List.append_nil], hp, hfinished, fun frames hle => ?_,
      fun frames hlt => ?_⟩
    · exact ⟨s, by rw [Nat.le_zero.1 hle]; rfl⟩
    · obtain ⟨frames, rfl⟩ := Nat.exists_eq_succ_of_ne_zero (Nat.ne_of_gt hlt)
      rw [DisplayStage.run, DisplayStage.present_of_finished hp hfinished]
  · obtain ⟨s₁, hpresent, h₁⟩ := h.step hscript hp
    have hrun : ∀ frames, s.run Screen.meanwhile (Screen.clock times) (frames + 1) =
        s₁.run Screen.meanwhile (Screen.clock times) frames := fun frames => by
      rw [DisplayStage.run, hpresent]
    obtain ⟨more, s', h', hempty, hfinished, hpresented, hended⟩ := h₁.run hscript
    rw [List.append_assoc] at h'
    refine ⟨f :: more, s', h', hempty, hfinished, fun frames hle => ?_, fun frames hlt => ?_⟩
    · cases frames with
      | zero => exact ⟨s, rfl⟩
      | succ frames =>
        rw [hrun]
        exact hpresented frames (Nat.le_of_succ_le_succ hle)
    · cases frames with
      | zero => exact absurd hlt (Nat.not_lt_zero _)
      | succ frames =>
        rw [hrun]
        exact hended frames (Nat.lt_of_succ_lt_succ hlt)
termination_by script.length + 1 - taken.length
decreasing_by
  -- the script has not been too short for the frame that was taken
  have hle := h₁.finds.length_le
  rw [List.length_append, List.length_singleton] at hle ⊢
  omega

/-- Before the first take. -/
theorem start (times : Nat → Instant) (before : List MailboxAction)
    (script : List CommitScript) :
    ShownSoFar times before script []
      { sink := { script }, mailbox := ({} : Mailbox).actAll before } where
  finds _ hi := absurd hi (Nat.not_lt_zero _)
  mailbox_eq := rfl
  script_eq := rfl
  commits_eq := rfl
  tallies := ⟨rfl, rfl, rfl, rfl⟩

end ShownSoFar

end Script

/-- **What the display stage commits and counts.** Others use the mailbox before the first take and
during each commit, and they signal the end of the stream before the display would have to wait.
Then the frames taken are those that are pending before each take, up to the first take that finds
none, when the stream has ended; there the stage ends, not before. Each frame taken is committed
once, in this order. The counters are those of the commits that have succeeded and failed. Only the
latencies of commits that have succeeded count: the largest is zero if there is none, and the mean,
rounded down, lies between the smallest and the largest, unless there are too many to count. -/
theorem DisplayStage.statistics_law (times : Nat → Instant) (before : List MailboxAction)
    (script : List CommitScript) (hscript : NeverWaits before script) :
    ∃ taken : List PendingFrame,
      let shown := showings times script taken
      let run := DisplayStage.run Screen.meanwhile (Screen.clock times)
      let start : DisplayStage Screen :=
        { sink := { script }, mailbox := ({} : Mailbox).actAll before }
      (∀ i ≤ taken.length, (mailboxBefore before script i).pending = taken[i]?) ∧
      (mailboxBefore before script taken.length).finished = true ∧
      (∀ frames ≤ taken.length, ∃ s, run frames start = .presented s) ∧
      ∃ s, (∀ frames > taken.length, run frames start = .ended s) ∧
        s.mailbox = mailboxBefore before script taken.length ∧
        s.sink.commits = shown.map (fun x => (x.frame.surface, !x.fails)) ∧
        s.stats.presented = shown.countP (!·.fails) ∧
        s.stats.commitErrors = shown.countP (·.fails) ∧
        s.stats.maxLatency = (latencies shown).max?.getD 0 ∧
        (s.stats.presented < 2 ^ 32 →
          s.stats.meanLatency = (latencies shown).sum / s.stats.presented ∧
          (latencies shown).min?.getD 0 ≤ s.stats.meanLatency ∧
          s.stats.meanLatency ≤ (latencies shown).max?.getD 0) := by
  obtain ⟨taken, s, h, hempty, hfinished, hpresented, hended⟩ :=
    (ShownSoFar.start times before script).run hscript
  rw [List.nil_append] at h
  refine ⟨taken, fun i hi => ?_, h.mailbox_eq ▸ hfinished, hpresented, s, hended, h.mailbox_eq,
    h.commits_eq, ?_, h.tallies.commitErrors_eq, h.tallies.maxLatency_eq_max?,
    fun hcount => ⟨?_, h.tallies.le_meanLatency hcount, h.tallies.meanLatency_le hcount⟩⟩
  · rcases Nat.lt_or_eq_of_le hi with hlt | rfl
    · exact h.finds i hlt
    · rw [← h.mailbox_eq, hempty, List.getElem?_eq_none (Nat.le_refl _)]
  · rw [h.tallies.presented_eq, latencies, List.length_map, List.countP_eq_length_filter]
  · rw [h.tallies.meanLatency_eq hcount, h.tallies.presented_eq]

/-- A frame is replaced before the first take and another one discarded during the first commit, the
second commit fails, the third frame is decoded after it is taken, and the stream ends while a frame
is pending. -/
theorem DisplayStage.statistics_law_of_four_takes :
    let before : List MailboxAction := [.post ⟨⟨1⟩, 5⟩, .post ⟨⟨2⟩, 9⟩]
    let script : List CommitScript :=
      [{ actions := [.post ⟨⟨3⟩, 10⟩, .discard, .post ⟨⟨4⟩, 12⟩] },
        { fails := true, actions := [.post ⟨⟨5⟩, 40⟩] },
        { actions := [.post ⟨⟨6⟩, 10⟩, .finish] }]
    NeverWaits before script ∧
    ∃ s, DisplayStage.run Screen.meanwhile (Screen.clock fun i => 10 * (i + 1)) 5
        { sink := { script }, mailbox := ({} : Mailbox).actAll before } = .ended s ∧
      s.sink.commits = [(⟨2⟩, true), (⟨4⟩, false), (⟨5⟩, true), (⟨6⟩, true)] ∧
      s.stats.presented = 3 ∧ s.stats.commitErrors = 1 ∧ s.stats.maxLatency = 30 ∧
      s.stats.meanLatency = 10 := by
  intro before script
  have hscript : NeverWaits before script := by decide
  obtain ⟨taken, hpending, -, -, s, hended, -, hcommits, hpresented, herrors, hmax, hmean⟩ :=
    statistics_law (fun i => 10 * (i + 1)) before script hscript
  obtain rfl : taken = [⟨⟨2⟩, 9⟩, ⟨⟨4⟩, 12⟩, ⟨⟨5⟩, 40⟩, ⟨⟨6⟩, 10⟩] :=
    taken_unique hpending (by decide)
  refine ⟨hscript, s, hended 5 (by decide), hcommits, hpresented, herrors, hmax, ?_⟩
  rw [(hmean (by rw [hpresented]; decide)).1, hpresented]
  decide

end VideoReceiver
