/-!
# The RTP base

The last accepted sequence number and the stamp of its arrival are kept in one 64-bit word, so
that both are always replaced together: the top bit says that a number is stored, 16 bits hold
the number, and the low 40 bits hold the stamp modulo `2 ^ 40`.

## Main definitions

- `Rtp.Base`: the word
- `Rtp.Base.pack`, `Rtp.Base.unpack?`: writing and reading it
-/

namespace VideoReceiver.Rtp

/-- Number and arrival stamp of the last accepted packet, or nothing. -/
structure Base where
  word : UInt64
  deriving DecidableEq, Repr, Inhabited

namespace Base

/-- The weight of the top bit, which says that a number is stored. -/
def presence : Nat := 0x8000000000000000

/-- The weight of the number's lowest bit; stamps are kept modulo this. -/
def stampRange : Nat := 0x10000000000

/-- No number is stored. -/
def empty : Base := ⟨0⟩

/-- Stores `seq` with the low 40 bits of `stamp`. -/
def pack (seq : UInt16) (stamp : Nat) : Base :=
  ⟨UInt64.ofNat (presence + seq.toNat * stampRange + stamp % stampRange)⟩

/-- The stored number and stamp, if there is one. -/
def unpack? (b : Base) : Option (UInt16 × Nat) :=
  let w := b.word.toNat
  if w < presence then none
  else some (UInt16.ofNat (w / stampRange), w % stampRange)

@[simp] theorem unpack?_empty : unpack? empty = none := by decide

/-- What is written is read, with the low 40 bits of the stamp. -/
theorem unpack?_pack (seq : UInt16) (stamp : Nat) :
    unpack? (pack seq stamp) = some (seq, stamp % stampRange) := by
  have hseq := seq.toNat_lt
  -- the three parts of the word do not overlap
  have hword : (presence + seq.toNat * stampRange + stamp % stampRange) % 2 ^ 64 =
      presence + seq.toNat * stampRange + stamp % stampRange := by
    unfold presence stampRange
    omega
  have hnumber : (presence + seq.toNat * stampRange + stamp % stampRange) / stampRange % 2 ^ 16 =
      seq.toNat := by
    unfold presence stampRange
    omega
  have hstamp : (presence + seq.toNat * stampRange + stamp % stampRange) % stampRange =
      stamp % stampRange := by
    unfold presence stampRange
    omega
  have hread : UInt16.ofNat
      ((presence + seq.toNat * stampRange + stamp % stampRange) / stampRange) = seq := by
    rw [← UInt16.toNat_inj, UInt16.toNat_ofNat', hnumber]
  rw [pack, unpack?, UInt64.toNat_ofNat', hword, if_neg (by omega), hread, hstamp]

end Base

end VideoReceiver.Rtp
