import Mathlib.Data.Nat.Bitwise
import VideoReceiver.Proofs.Link.Cooldown

/-!
# The word of the last sequence number

The bit that tells whether a number is stored, the number and the stamp of its arrival share one
word. The parts do not overlap, so that a number is read as it was written, whatever the stamp. Of
the stamp only the low 40 bits are kept, while a reader subtracts them from a whole stamp: ages are
never too small, and they are right for the first `2 ^ 40` milliseconds.

## Main definitions

- `Rtp.Base.presenceBit`, `Rtp.Base.stampMask`: the parts of the word
- `HealthAction`, `HealthState.act`: everything that changes a health state
- `HealthAction.base?`: what an action writes into the word

## Main statements

- `Rtp.Base.word_pack`, `Rtp.Base.unpack?_eq`: the word is written and read part by part
- `HealthState.rtpBase_actAll`: the latest write decides what is stored
- `HealthState.sequence_word_law`: what is read after any run, and how the age is off
-/

namespace VideoReceiver

/-! ## The parts of the word -/

namespace Rtp.Base

/-- The bit that says that a number is stored. -/
def presenceBit : UInt64 := 0x8000000000000000

/-- The bits of the stamp. -/
def stampMask : UInt64 := 0xFFFFFFFFFF

/-- The parts of a word are written beside each other. -/
theorem word_pack (seq : UInt16) (stamp : Nat) :
    (pack seq stamp).word =
      presenceBit ||| seq.toUInt64 <<< 40 ||| (UInt64.ofNat stamp &&& stampMask) := by
  have hseq := seq.toNat_lt
  have hlow : (UInt64.ofNat stamp &&& stampMask).toNat = stamp % 2 ^ 40 := by
    rw [UInt64.toNat_and, UInt64.toNat_ofNat']
    exact (Nat.and_two_pow_sub_one_eq_mod _ 40).trans (Nat.mod_mod_of_dvd _ (by decide))
  have hnumber : (seq.toUInt64 <<< 40).toNat = seq.toNat <<< 40 := by
    rw [UInt64.toNat_shiftLeft, UInt16.toNat_toUInt64]
    refine Nat.mod_eq_of_lt (b := 2 ^ 64) (a := seq.toNat <<< 40) ?_
    rw [Nat.shiftLeft_eq]
    omega
  -- each part ends below the next one, so that the disjunctions are sums
  have hupper : presence ||| seq.toNat <<< 40 = (2 ^ 23 + seq.toNat) <<< 40 := by
    have hor := Nat.shiftLeft_add_eq_or_of_lt (i := 63) (b := seq.toNat <<< 40)
      (by rw [Nat.shiftLeft_eq]; omega) 1
    rw [show presence = 1 <<< 63 from rfl, ← hor]
    simp only [Nat.shiftLeft_eq]
    omega
  have hword : presence ||| seq.toNat <<< 40 ||| stamp % 2 ^ 40 =
      presence + seq.toNat * stampRange + stamp % stampRange := by
    rw [hupper, ← Nat.shiftLeft_add_eq_or_of_lt (Nat.mod_lt _ (by decide)), Nat.shiftLeft_eq]
    unfold presence stampRange
    omega
  rw [← UInt64.toNat_inj, UInt64.toNat_or, UInt64.toNat_or, hlow, hnumber,
    show presenceBit.toNat = presence from rfl, hword, pack, UInt64.toNat_ofNat']
  refine Nat.mod_eq_of_lt ?_
  unfold presence stampRange
  omega

/-- A word is read part by part. -/
theorem unpack?_eq (b : Base) :
    b.unpack? =
      if b.word &&& presenceBit = 0 then none
      else some ((b.word >>> 40 &&& 0xFFFF).toUInt16, (b.word &&& stampMask).toNat) := by
  have hpresent : b.word &&& presenceBit = 0 ↔ b.word.toNat < presence := by
    have hbit : b.word.toNat.testBit 63 = decide (presence ≤ b.word.toNat) := by
      rw [Nat.testBit_eq_decide_div_mod_eq, decide_eq_decide]
      have := b.word.toNat_lt
      unfold presence
      omega
    rw [← UInt64.toNat_inj, UInt64.toNat_and, show presenceBit.toNat = 2 ^ 63 from rfl,
      Nat.and_two_pow, hbit]
    by_cases h : presence ≤ b.word.toNat
    · simp [h]
    · simp [h, Nat.lt_of_not_le h]
  have hnumber : (b.word >>> 40 &&& 0xFFFF).toUInt16 =
      UInt16.ofNat (b.word.toNat / stampRange) := by
    rw [← UInt16.toNat_inj, UInt64.toNat_toUInt16, UInt64.toNat_and, UInt64.toNat_shiftRight,
      UInt16.toNat_ofNat']
    change (b.word.toNat >>> 40 &&& (2 ^ 16 - 1)) % 2 ^ 16 = b.word.toNat / 2 ^ 40 % 2 ^ 16
    rw [Nat.and_two_pow_sub_one_eq_mod, Nat.shiftRight_eq_div_pow, Nat.mod_mod]
  have hstamp : (b.word &&& stampMask).toNat = b.word.toNat % stampRange := by
    rw [UInt64.toNat_and]
    exact Nat.and_two_pow_sub_one_eq_mod _ 40
  simp only [unpack?, hpresent, hnumber, hstamp]

end Rtp.Base

/-! ## Runs of a health state -/

/-- Everything that changes a health state. -/
inductive HealthAction where
  | markUp
  | markDown
  | recordPacket (now : Instant)
  | recordDecoded (now : Instant)
  | learnSender (sender : Net.Endpoint)
  | setRtpSequence (seq : UInt16) (now : Instant)
  | clearRtpSequence
  | addLostPackets (lost : Nat)
  | claim (k : Trigger) (now : Instant) (cooldown : Duration)
  | raise (flag : PendingFlag)
  | confirm (flag : PendingFlag)
  | withdraw (flag : PendingFlag) (generation : Nat)
  | setDeferred (deferred : Bool)
  | reset

/-- What an action writes into the word: a number with the time of its arrival, or nothing. -/
def HealthAction.base? : HealthAction → Option (Option (UInt16 × Instant))
  | setRtpSequence seq now => some (some (seq, now))
  | clearRtpSequence | reset => some none
  | _ => none

namespace HealthState

def act (s : HealthState) : HealthAction → HealthState
  | .markUp => { s with streamUp := true }
  | .markDown => { s with streamUp := false }
  | .recordPacket now => s.recordPacket now
  | .recordDecoded now => s.recordDecoded now
  | .learnSender sender => { s with sender := some sender }
  | .setRtpSequence seq now => s.setRtpSequence seq now
  | .clearRtpSequence => s.clearRtpSequence
  | .addLostPackets lost => { s with lostPackets := s.lostPackets + lost }
  | .claim k now cooldown =>
    match s.claim (s.lastRequest k) now cooldown with
    | some stamp => s.setLastRequest k stamp
    | none => s
  | .raise flag => (s.raise flag).2
  | .confirm flag => (s.confirm flag).2
  | .withdraw flag generation => s.withdraw flag generation
  | .setDeferred deferred => { s with recordDeferred := deferred }
  | .reset => s.reset

def actAll (s : HealthState) (actions : List HealthAction) : HealthState := actions.foldl act s

/-- The word for a number with the time of its arrival, or for nothing. -/
def baseOf (s : HealthState) : Option (UInt16 × Instant) → Rtp.Base
  | some (seq, now) => .pack seq (s.stamp now)
  | none => .empty

/-- An action keeps the origin, and the word is what it writes. -/
theorem base_act (s : HealthState) (a : HealthAction) :
    (s.act a).origin = s.origin ∧ (s.act a).rtpBase = (a.base?.map s.baseOf).getD s.rtpBase := by
  cases a with
  | claim k now cooldown =>
    simp only [act, claim]
    split <;> cases k <;> exact ⟨rfl, rfl⟩
  | setRtpSequence seq now =>
    -- for any word, so that nothing evaluates this one
    have horigin : ∀ base, { s with rtpBase := base }.origin = s.origin := fun _ => rfl
    refine ⟨horigin _, ?_⟩
    simp only [act, setRtpSequence, HealthAction.base?, Option.map_some, Option.getD_some, baseOf]
  | raise flag | confirm flag | withdraw flag => cases flag <;> exact ⟨rfl, rfl⟩
  | _ => exact ⟨rfl, rfl⟩

theorem origin_actAll (s : HealthState) (actions : List HealthAction) :
    (s.actAll actions).origin = s.origin := by
  induction actions using List.reverseRecOn with
  | nil => rfl
  | append_singleton actions a ih =>
    rw [actAll, List.foldl_concat]
    exact ((s.actAll actions).base_act a).1.trans ih

/-- The latest write decides what is stored. -/
theorem rtpBase_actAll (s : HealthState) (actions : List HealthAction) :
    (s.actAll actions).rtpBase =
      ((actions.filterMap HealthAction.base?).getLast?.map s.baseOf).getD s.rtpBase := by
  induction actions using List.reverseRecOn with
  | nil => rfl
  | append_singleton actions a ih =>
    have hbaseOf : (s.actAll actions).baseOf = s.baseOf := by
      funext base
      rcases base with _ | ⟨seq, now⟩
      · rfl
      · simp only [baseOf, stamp_eq_of_origin_eq (s.origin_actAll actions) now]
    rw [actAll, List.foldl_concat]
    refine ((s.actAll actions).base_act a).2.trans ?_
    rw [hbaseOf, ih]
    cases ha : a.base? with
    | none => simp [ha]
    | some base => simp [ha]

/-! ## What is read -/

theorem rtpSequence_of_pack {s : HealthState} {seq : UInt16} {stamp : Nat}
    (h : s.rtpBase = .pack seq stamp) (now : Instant) :
    s.rtpSequence now = some (seq, .ofMillis (s.stamp now - stamp % 2 ^ 40)) := by
  rw [rtpSequence, h, Rtp.Base.unpack?_pack, Option.map_some]
  rfl

/-- The latest write decides what is read. -/
theorem rtpSequence_actAll (s : HealthState) (actions : List HealthAction) (now' : Instant) :
    (s.actAll actions).rtpSequence now' =
      match (actions.filterMap HealthAction.base?).getLast? with
      | none => s.rtpSequence now'
      | some none => none
      | some (some (seq, now)) => some (seq, .ofMillis (s.stamp now' - s.stamp now % 2 ^ 40)) := by
  have hbase := s.rtpBase_actAll actions
  have hstamp := stamp_eq_of_origin_eq (s.origin_actAll actions) now'
  rcases h : (actions.filterMap HealthAction.base?).getLast? with _ | _ | ⟨seq, now⟩ <;>
    rw [h] at hbase
  · rw [rtpSequence, rtpSequence, hbase]
    simp only [Option.map_none, Option.getD_none, hstamp]
  · exact rtpSequence_of_empty hbase now'
  · rw [rtpSequence_of_pack hbase, hstamp]

theorem stamp_mono {s : HealthState} {t now : Instant} (hle : t ≤ now)
    (hrange : (now.since s.origin).toMillis + 1 < stampRange) : s.stamp t ≤ s.stamp now := by
  have hmillis : (t.since s.origin).toMillis ≤ (now.since s.origin).toMillis :=
    Instant.toMillis_since_le hle
  have ht : (t.since s.origin).toMillis + 1 < stampRange :=
    Nat.lt_of_le_of_lt (Nat.succ_le_succ hmillis) hrange
  rw [stamp, stamp, Nat.mod_eq_of_lt hrange, Nat.mod_eq_of_lt ht]
  exact Nat.succ_le_succ hmillis

/-- **A sequence number is read as it was set.** The top bit, the number and the low bits of the
stamp are written beside each other and read apart. A number that has been set is read as it was,
whatever the stamps, with an age that counts from the low bits of its stamp: never too small, and
right while the stamp has no other bits. The subtraction stops at zero, but it loses nothing then,
unless the stamps have wrapped around. In a run the latest write decides: a number is read until
another one is set, and after it has been cleared or the state has been reset there is none until
the next one is set. -/
theorem sequence_word_law (s : HealthState) :
    (∀ seq now, (s.setRtpSequence seq now).rtpBase.word =
      Rtp.Base.presenceBit ||| seq.toUInt64 <<< 40 |||
        (UInt64.ofNat (s.stamp now) &&& Rtp.Base.stampMask)) ∧
    (∀ now', s.rtpSequence now' =
      if s.rtpBase.word &&& Rtp.Base.presenceBit = 0 then none
      else some ((s.rtpBase.word >>> 40 &&& 0xFFFF).toUInt16,
        .ofMillis (s.stamp now' - (s.rtpBase.word &&& Rtp.Base.stampMask).toNat))) ∧
    (∀ seq now now',
      let age := s.stamp now' - s.stamp now % 2 ^ 40
      (s.setRtpSequence seq now).rtpSequence now' = some (seq, .ofMillis age) ∧
      s.stamp now' ≤ s.stamp now + age ∧
      (now ≤ now' → s.stamp now < 2 ^ 40 →
        age = s.stamp now' - s.stamp now ∧
        ((now'.since s.origin).toMillis + 1 < stampRange → s.stamp now + age = s.stamp now'))) ∧
    ∀ actions now', (s.actAll actions).rtpSequence now' =
      match (actions.filterMap HealthAction.base?).getLast? with
      | none => s.rtpSequence now'
      | some none => none
      | some (some (seq, now)) => some (seq, .ofMillis (s.stamp now' - s.stamp now % 2 ^ 40)) := by
  refine ⟨fun seq now => Rtp.Base.word_pack seq (s.stamp now), fun now' => ?_,
    fun seq now now' => ⟨?_, ?_, fun hle hstamp => ?_⟩, s.rtpSequence_actAll⟩
  · rw [rtpSequence, Rtp.Base.unpack?_eq]
    split <;> rfl
  · exact s.rtpSequence_actAll [.setRtpSequence seq now] now'
  · have hmod := Nat.mod_le (s.stamp now) (2 ^ 40)
    omega
  · have hage : s.stamp now % 2 ^ 40 = s.stamp now := Nat.mod_eq_of_lt hstamp
    refine ⟨by rw [hage], fun hrange => ?_⟩
    have hmono := stamp_mono hle hrange
    omega

/-- A number whose stamp has more than 40 bits looks old as soon as it is set. -/
example :
    let now : Instant := Duration.ofMillis (2 ^ 40)
    (({} : HealthState).setRtpSequence 7 now).rtpSequence now = some (7, .ofMillis (2 ^ 40)) := by
  decide

end HealthState

end VideoReceiver
