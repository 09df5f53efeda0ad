/-!
# Network endpoints

An endpoint is an IPv4 or IPv6 address with a port. This module holds the types and their
canonical text.

## Main definitions

- `Net.Address`, `Net.Endpoint`
- `Net.Address.text`: dotted decimal for IPv4; for IPv6 lowercase groups without leading zeros, the
  longest run of at least two zero groups written `::` (the leftmost of equal ones), and the
  mapped form `::ffff:a.b.c.d`
- `Net.Endpoint.text`: address and port, IPv6 in brackets
-/

namespace VideoReceiver.Net

/-- An IP address. The zone of an IPv6 address is zero when there is none. -/
inductive Address where
  | v4 (a b c d : UInt8)
  | v6 (groups : Vector UInt16 8) (zone : UInt32)
  deriving DecidableEq, Repr

instance : Inhabited Address := ⟨.v4 0 0 0 0⟩

/-- An address with a port. -/
structure Endpoint where
  address : Address
  port : UInt16
  deriving DecidableEq, Repr, Inhabited

/-- Where a run of zero groups starts and how long it is. -/
structure ZeroRun where
  start : Nat
  length : Nat
  deriving DecidableEq, Repr

namespace ZeroRun

/-- The longer of two runs, the first one if they are equally long. -/
def longer (a b : ZeroRun) : ZeroRun := if a.length < b.length then b else a

/-- The longest run of zeros, the leftmost of equally long ones: `index` is the position of the
first group, `current` the run that ends just before it and `best` the longest one so far. -/
def longest (index : Nat) (current best : ZeroRun) : List UInt16 → ZeroRun
  | [] => best
  | g :: rest =>
    if g = 0 then
      let current := if current.length = 0 then ⟨index, 1⟩ else ⟨current.start, current.length + 1⟩
      longest (index + 1) current (best.longer current) rest
    else longest (index + 1) ⟨0, 0⟩ best rest

end ZeroRun

/-- Decimal numbers joined by points. -/
def dotted (a b c d : UInt8) : String :=
  ".".intercalate ([a, b, c, d].map fun x => Nat.repr x.toNat)

/-- A group in lowercase hexadecimal without leading zeros. -/
def groupText (g : UInt16) : String := String.ofList (Nat.toDigits 16 g.toNat)

/-- Groups joined by colons. -/
def groupsText (gs : List UInt16) : String := ":".intercalate (gs.map groupText)

/-- The canonical text of the eight groups of an IPv6 address. -/
def sixText (groups : List UInt16) : String :=
  match groups with
  | [0, 0, 0, 0, 0, 0xFFFF, hi, lo] =>
    "::ffff:" ++ dotted (hi >>> 8).toUInt8 hi.toUInt8 (lo >>> 8).toUInt8 lo.toUInt8
  | _ =>
    let run := ZeroRun.longest 0 ⟨0, 0⟩ ⟨0, 0⟩ groups
    if 1 < run.length then
      groupsText (groups.take run.start) ++ "::"
        ++ groupsText (groups.drop (run.start + run.length))
    else groupsText groups

/-- The canonical text of an address, without its zone. -/
def Address.text : Address → String
  | .v4 a b c d => dotted a b c d
  | .v6 groups _ => sixText groups.toList

/-- The canonical text of an endpoint. IPv6 addresses stand in brackets, with the zone behind a
percent sign unless it is zero. -/
def Endpoint.text (e : Endpoint) : String :=
  match e.address with
  | .v4 .. => e.address.text ++ ":" ++ Nat.repr e.port.toNat
  | .v6 _ zone =>
    let suffix := if zone = 0 then "" else "%" ++ Nat.repr zone.toNat
    "[" ++ e.address.text ++ suffix ++ "]:" ++ Nat.repr e.port.toNat

/-- The endpoint at the same address with another port; a zone is not carried over. -/
def Endpoint.withPort (e : Endpoint) (port : UInt16) : Endpoint :=
  match e.address with
  | .v4 .. => ⟨e.address, port⟩
  | .v6 groups _ => ⟨.v6 groups 0, port⟩

end VideoReceiver.Net
