import VideoReceiver.Net.Address
import VideoReceiver.Text.Digits

/-!
# Reading endpoints

The grammar of an endpoint's text: `a.b.c.d:port`, or an IPv6 address in brackets with an optional
numeric zone behind a percent sign.

## Main definitions

- `Net.Endpoint.ofString?`: reads a whole text as an endpoint
-/

namespace VideoReceiver.Net

open VideoReceiver.Text

/-- A reader takes something from the front of a text and returns it with the rest. -/
abbrev Reader (α : Type) := List Char → Option (α × List Char)

namespace Reader

/-- Reads the character `c`. -/
def char (c : Char) : Reader Unit
  | x :: rest => if x = c then some ((), rest) else none
  | [] => none

/-- Reads the longest run of digits of the given base as a number up to `bound`. Runs of more than
`width` digits are refused. -/
def number (base width bound : Nat) : Reader Nat := fun cs =>
  let ds := cs.takeWhile (isDigit base)
  if ds.length ≤ width then
    match natural? base ds with
    | some n => if n ≤ bound then some (n, cs.drop ds.length) else none
    | none => none
  else none

/-- Reads a decimal byte of up to three digits, without leading zeros. -/
def octet : Reader UInt8 := fun cs =>
  match number 10 3 255 cs with
  | some (n, rest) =>
    if cs.head? = some '0' && rest.length + 1 < cs.length then none else some (n.toUInt8, rest)
  | none => none

/-- Reads an IPv4 address in dotted decimal. -/
def four : Reader (UInt8 × UInt8 × UInt8 × UInt8) := fun cs => do
  let (a, cs) ← octet cs
  let ((), cs) ← char '.' cs
  let (b, cs) ← octet cs
  let ((), cs) ← char '.' cs
  let (c, cs) ← octet cs
  let ((), cs) ← char '.' cs
  let (d, cs) ← octet cs
  return ((a, b, c, d), cs)

/-- Reads what stands at group position `index`: a colon comes first, except at position zero. -/
def atGroup {α : Type} (index : Nat) (r : Reader α) : Reader α := fun cs =>
  if index = 0 then r cs
  else do
    let ((), cs) ← char ':' cs
    r cs

/-- The two groups that four octets fill. -/
def groupsOfFour : UInt8 × UInt8 × UInt8 × UInt8 → List UInt16
  | (a, b, c, d) => [a.toUInt16 <<< 8 ||| b.toUInt16, c.toUInt16 <<< 8 ||| d.toUInt16]

/-- Reads up to `room` groups in a row, starting at position `index`. The last two may be an IPv4
address, which ends the row; the flag says whether they are. -/
def groups (room index : Nat) (cs : List Char) : List UInt16 × Bool × List Char :=
  match room with
  | 0 => ([], false, cs)
  | room + 1 =>
    let embedded := if 0 < room then atGroup index four cs else none
    match embedded with
    | some (q, rest) => (groupsOfFour q, true, rest)
    | none =>
      match atGroup index (number 16 4 0xFFFF) cs with
      | some (g, rest) =>
        let (gs, mapped, rest) := groups room (index + 1) rest
        (g.toUInt16 :: gs, mapped, rest)
      | none => ([], false, cs)

/-- Reads the eight groups of an IPv6 address. A double colon stands for at least one zero group,
and no IPv4 address may stand in front of it. -/
def six : Reader (Vector UInt16 8) := fun cs => do
  let (head, mapped, rest) := groups 8 0 cs
  if h : head.length = 8 then
    return (⟨head.toArray, by simpa using h⟩, rest)
  else if mapped then none
  else
    let ((), rest) ← char ':' rest
    let ((), rest) ← char ':' rest
    let (tail, _, rest) := groups (7 - head.length) 0 rest
    let all := head ++ List.replicate (8 - head.length - tail.length) 0 ++ tail
    if h : all.length = 8 then return (⟨all.toArray, by simpa using h⟩, rest) else none

/-- Reads a zone behind a percent sign; no zone counts as zero. -/
def zone : Reader UInt32 := fun cs =>
  match char '%' cs with
  | some ((), rest) =>
    match number 10 rest.length 0xFFFFFFFF rest with
    | some (z, rest) => some (z.toUInt32, rest)
    | none => some (0, cs)
  | none => some (0, cs)

/-- Reads a colon and a port. -/
def port : Reader UInt16 := fun cs => do
  let ((), cs) ← char ':' cs
  let (p, cs) ← number 10 cs.length 0xFFFF cs
  return (p.toUInt16, cs)

/-- Reads an endpoint with an IPv4 address. -/
def endpointFour : Reader Endpoint := fun cs => do
  let ((a, b, c, d), cs) ← four cs
  let (p, cs) ← port cs
  return (⟨.v4 a b c d, p⟩, cs)

/-- Reads an endpoint with an IPv6 address. -/
def endpointSix : Reader Endpoint := fun cs => do
  let ((), cs) ← char '[' cs
  let (groups, cs) ← six cs
  let (z, cs) ← zone cs
  let ((), cs) ← char ']' cs
  let (p, cs) ← port cs
  return (⟨.v6 groups z, p⟩, cs)

end Reader

/-- Reads a whole text as an endpoint. -/
def Endpoint.ofString? (s : String) : Option Endpoint :=
  let cs := s.toList
  match (Reader.endpointFour cs).orElse fun _ => Reader.endpointSix cs with
  | some (e, []) => some e
  | _ => none

end VideoReceiver.Net
