/-!
# Pending confirmations

A flag is raised by every request that waits for a keyframe and lowered by the keyframe. Each
raise has a generation, a 63-bit number, so that a request can tell its own raise from a later
one.

## Main definitions

- `PendingSlot`: the flag, the generation of its latest raise, and the latest confirmed generation
- `PendingSlot.raise`, `PendingSlot.confirm`, `PendingSlot.withdraw`, `PendingSlot.clear`
- `PendingSlot.isAwaiting`: whether the request of a generation still waits

## Assumptions

- *Whole operations*: what is done to a flag is done at once. No other party sees the flag lowered
  and the generation not confirmed yet.
-/

namespace VideoReceiver

/-- A flag that waits for a keyframe. -/
structure PendingSlot where
  raised : Bool := false
  /-- The generation of the latest raise. -/
  generation : Nat := 0
  /-- The latest generation that a keyframe confirmed. -/
  confirmed : Nat := 0
  deriving DecidableEq, Repr

namespace PendingSlot

instance : Inhabited PendingSlot := ⟨{}⟩

/-- Raises the flag with the next generation, which is returned. Generations wrap around after
`2 ^ 63` raises. -/
def raise (s : PendingSlot) : Nat × PendingSlot :=
  let generation := (s.generation + 1) % 0x8000000000000000
  (generation, { s with raised := true, generation })

/-- Whether the request that raised `generation` still waits: the flag is up, and no keyframe has
confirmed that generation or a later one. -/
def isAwaiting (s : PendingSlot) (generation : Nat) : Bool :=
  s.raised && s.confirmed < generation

/-- A keyframe has arrived: lowers a raised flag and confirms its generation, as one action by the
assumption of whole operations. The first part says whether the flag was up. -/
def confirm (s : PendingSlot) : Bool × PendingSlot :=
  if s.raised then (true, { s with raised := false, confirmed := max s.confirmed s.generation })
  else (false, s)

/-- The request that raised `generation` gives up: lowers the flag, unless a later request has
raised it again. -/
def withdraw (s : PendingSlot) (generation : Nat) : PendingSlot :=
  if s.raised && s.generation == generation then { s with raised := false } else s

/-- Lowers the flag without a confirmation. -/
def clear (s : PendingSlot) : PendingSlot := { s with raised := false }

end PendingSlot

end VideoReceiver
