import VideoReceiver.AnnexB
import VideoReceiver.Net.Address

/-!
# Access units

One access unit is the coded data of one picture as the transport delivers it.

## Main definitions

- `AccessUnit`: data, presentation timestamp, sender and RTP sequence number
- `UnitQueue`: a source that hands out a fixed list of units
-/

namespace VideoReceiver

/-- One access unit. The sender and the RTP sequence number are absent when the transport does
not know them. -/
structure AccessUnit where
  data : Bytes
  pts : UInt64
  sender : Option Net.Endpoint
  rtpSequence : Option UInt16
  deriving DecidableEq, Repr, Inhabited

namespace AccessUnit

/-- The number of bytes of coded data. -/
def size (u : AccessUnit) : Nat := u.data.length

/-- Whether the unit holds no coded data. -/
def isEmpty (u : AccessUnit) : Bool := u.data.isEmpty

end AccessUnit

/-- A source over the units that are still to be delivered, first one first. -/
structure UnitQueue where
  units : List AccessUnit
  deriving DecidableEq, Repr, Inhabited

namespace UnitQueue

/-- Takes the next unit; `none` at the end, and at every later read. -/
def next (q : UnitQueue) : Option AccessUnit × UnitQueue :=
  match q.units with
  | [] => (none, q)
  | u :: rest => (some u, ⟨rest⟩)

/-- The results of `n` successive reads, and what is left. -/
def read : Nat → UnitQueue → List (Option AccessUnit) × UnitQueue
  | 0, q => ([], q)
  | n + 1, q =>
    let (u, q) := q.next
    let (us, q) := read n q
    (u :: us, q)

end UnitQueue

end VideoReceiver
