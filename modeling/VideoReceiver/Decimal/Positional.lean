import VideoReceiver.Decimal.Shortest
import VideoReceiver.Text.Digits

/-!
# Positional notation

Reading and writing floating point numbers.

## Main definitions

- `Decimal.float?`: the number that a text stands for
- `Decimal.text`: a number without an exponent, and with a point in it
-/

namespace VideoReceiver.Decimal

open VideoReceiver.Text

/-- The texts of a sign, whole digits, digits behind the point and an exponent. -/
structure Parts where
  negative : Bool
  whole : List Char
  places : List Char
  exponent : Int

/-- Reads an exponent, with its letter, up to the end of the text. -/
def exponent? : List Char → Option Int
  | [] => some 0
  | e :: rest =>
    if e = 'e' || e = 'E' then
      match rest with
      | '-' :: ds => (natural? 10 ds).map fun n => -(n : Int)
      | '+' :: ds => (natural? 10 ds).map fun n => (n : Int)
      | ds => (natural? 10 ds).map fun n => (n : Int)
    else none

/-- Takes a number apart. There has to be a digit in front of the exponent. -/
def Parts.ofText? (cs : List Char) : Option Parts :=
  let (negative, cs) := match cs with
    | '-' :: rest => (true, rest)
    | _ => (false, cs)
  let whole := cs.takeWhile Char.isDigit
  let cs := cs.dropWhile Char.isDigit
  let (places, cs) := match cs with
    | '.' :: rest => (rest.takeWhile Char.isDigit, rest.dropWhile Char.isDigit)
    | _ => ([], cs)
  if whole.isEmpty && places.isEmpty then none
  else (exponent? cs).map fun exponent => ⟨negative, whole, places, exponent⟩

/-- The nearest double precision number, unless it is infinite. Exponents far out of range need no
arithmetic. -/
def Parts.float? (p : Parts) : Option Float :=
  let m := (natural? 10 (p.whole ++ p.places)).getD 0
  let e := p.exponent - p.places.length
  let top := e + (Nat.toDigits 10 m).length
  let magnitude : Float :=
    if m = 0 || top < -400 then 0.0
    else if e < 0 then Float.ofScientific m true e.natAbs
    else if top ≤ 400 then Float.ofScientific m false e.natAbs
    else Float.ofScientific 1 false 400
  if magnitude.isFinite then some (if p.negative then -magnitude else magnitude) else none

/-- The finite number that a text stands for. -/
def float? (cs : List Char) : Option Float := (Parts.ofText? cs).bind Parts.float?

/-- A natural multiple of a power of ten, with a point and a digit at least on each side of it. -/
def Natural.text (n : Natural) : List Char :=
  let digits := Nat.toDigits 10 n.digits
  if 0 ≤ n.exponent then digits ++ List.replicate n.exponent.toNat '0' ++ ['.', '0']
  else
    let places := (-n.exponent).toNat
    let padded := List.replicate (places + 1 - digits.length) '0' ++ digits
    padded.take (padded.length - places) ++ ['.'] ++ padded.drop (padded.length - places)

/-- A number without zeros at the end of its digits. -/
def Natural.reduce (n : Natural) : Natural :=
  let zeros := ((Nat.toDigits 10 n.digits).reverse.takeWhile (· = '0')).length
  if n.digits = 0 then n else ⟨n.digits / Nat.pow 10 zeros, n.exponent + zeros⟩

/-- The text of a number: as few digits as identify it, in positional notation. -/
def text (x : Float) : String :=
  if x.isNaN then "NaN"
  else
    let sign := if x.toBits >>> 63 = 1 then "-" else ""
    if x.isInf then sign ++ "inf"
    else
      let b := Binary.ofBits x.toBits
      let n := if b.m = 0 then ⟨0, 0⟩ else b.shortest.reduce
      sign ++ String.ofList n.text

end VideoReceiver.Decimal
