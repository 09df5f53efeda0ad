import VideoReceiver.Repair.Transport

/-!
# A recording radio

A network for tests that keeps what was sent.

## Main definitions

- `Radio`, `Radio.send`
- `Radio.sameContent`: whether the datagrams of a group carry the same content
-/

namespace VideoReceiver.Bench

/-- Keeps what was sent. -/
structure Radio where
  /-- Whether every attempt fails. -/
  failing : Bool := false
  /-- How many attempts were made. -/
  attempts : Nat := 0
  /-- The attempts that did not fail, in order. -/
  sent : List Attempt := []
  deriving DecidableEq, Repr

namespace Radio

instance : Inhabited Radio := ⟨{}⟩

/-- Makes an attempt. -/
def send (r : Radio) (a : Attempt) : Except ReceiverError Unit × Radio :=
  let r := { r with attempts := r.attempts + 1 }
  if r.failing then
    (.error (.repair a.datagram.target ⟨.connectionRefused, "fake network down"⟩), r)
  else (.ok (), { r with sent := r.sent ++ [a] })

instance : RepairTransport Radio where
  send := send

/-- Cuts a list into groups of `size` elements; the last one may be shorter. -/
def groupsOf {α : Type} (size : Nat) (xs : List α) : List (List α) :=
  if _h : xs = [] ∨ size = 0 then []
  else xs.take size :: groupsOf size (xs.drop size)
termination_by xs.length
decreasing_by
  have : xs ≠ [] := fun e => _h (.inl e)
  have : 0 < xs.length := List.length_pos_iff.2 this
  simp only [List.length_drop]
  omega

/-- For each group of `size` datagrams, in sending order, whether all carry the same content. -/
def sameContent (r : Radio) (size : Nat) : List Bool :=
  (groupsOf size r.sent).map fun g =>
    g.all fun a => g.head?.all fun b => a.datagram.payload == b.datagram.payload

end Radio

end VideoReceiver.Bench
