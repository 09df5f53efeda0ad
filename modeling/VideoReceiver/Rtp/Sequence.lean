/-!
# RTP sequence numbers

RTP sequence numbers have 16 bits and wrap around.

## Main definitions

- `Rtp.distance`: how far one number lies ahead of another
- `Rtp.isAfter`: whether it lies ahead by less than half the range
-/

namespace VideoReceiver.Rtp

/-- How many numbers `seq` lies ahead of `last`, counted upwards with wrap-around. -/
def distance (seq last : UInt16) : UInt16 := seq - last

/-- `a` comes after `b` when it lies ahead by at least one and by less than half the range. -/
def isAfter (a b : UInt16) : Bool := a != b && distance a b < 0x8000

@[simp] theorem distance_self (a : UInt16) : distance a a = 0 := by simp [distance]

/-- The distance of two numbers that have been counted without wrap-around. -/
theorem toNat_distance_ofNat (a b : Nat) :
    (distance (UInt16.ofNat a) (UInt16.ofNat b)).toNat = (a + (65536 - b % 65536)) % 65536 := by
  rw [distance, UInt16.toNat_sub, UInt16.toNat_ofNat', UInt16.toNat_ofNat']
  omega

@[simp] theorem isAfter_self (a : UInt16) : isAfter a a = false := by simp [isAfter]

end VideoReceiver.Rtp
