/-!
# Shortest decimals

The decimal with the fewest digits that identifies a binary floating point number.

## Main definitions

- `Decimal.Binary`: a finite magnitude, exactly
- `Decimal.Binary.identifies`: whether a decimal is nearer to it than to its neighbours
- `Decimal.Binary.shortest`: the shortest decimal that identifies it
-/

namespace VideoReceiver.Decimal

/-- The number `digits * 10 ^ exponent`. -/
structure Natural where
  digits : Nat
  exponent : Int
  deriving DecidableEq, Repr

/-- The number `m * 2 ^ q`, among the finite double precision numbers. -/
structure Binary where
  m : Nat
  q : Int
  /-- Whether the number below is only half as far away as the one above. -/
  narrowBelow : Bool
  deriving DecidableEq, Repr

namespace Binary

/-- The magnitude that the bits of a finite double precision number stand for. -/
def ofBits (bits : UInt64) : Binary :=
  let e := ((bits >>> 52) &&& 0x7FF).toNat
  let f := (bits &&& 0xFFFFFFFFFFFFF).toNat
  if e = 0 then ⟨f, -1074, false⟩ else ⟨0x10000000000000 + f, e - 1075, f = 0 && 1 < e⟩

/-- Factors that bring quarters of `2 ^ q` and units of `10 ^ k` to one scale: a quarter weighs the
first one and a unit the second. -/
def weights (b : Binary) (k : Int) : Nat × Nat :=
  (Nat.pow 10 (-k).toNat <<< (b.q - 2).toNat, Nat.pow 10 k.toNat <<< (2 - b.q).toNat)

/-- Whether `d * 10 ^ k` lies between the points halfway to the two neighbours. The points belong to
the number with the even `m`. -/
def identifies (b : Binary) (d : Nat) (k : Int) : Bool :=
  let (quarter, unit) := b.weights k
  let low := (4 * b.m - if b.narrowBelow then 1 else 2) * quarter
  let high := (4 * b.m + 2) * quarter
  let x := d * unit
  if b.m % 2 = 0 then low ≤ x && x ≤ high else low < x && x < high

/-- The decimal on the grid of `10 ^ k` that identifies the number and is nearest to it. Of two that
are equally near it is the greater one. -/
def onGrid? (b : Binary) (k : Int) : Option Natural :=
  let (quarter, unit) := b.weights k
  let value := 4 * b.m * quarter
  let d := value / unit
  match b.identifies d k, b.identifies (d + 1) k with
  | true, true => some ⟨if 2 * value < (2 * d + 1) * unit then d else d + 1, k⟩
  | true, false => some ⟨d, k⟩
  | false, true => some ⟨d + 1, k⟩
  | false, false => none

/-- The number of zeros behind the point of a number below one. -/
def leadingZeros (b : Binary) : Nat :=
  ((List.range 330).takeWhile fun j =>
    b.m * Nat.pow 10 (j + 1) < 1 <<< (-b.q).toNat).length

/-- The number of decimal digits in front of the point, or minus the number of zeros behind it. -/
def scale (b : Binary) : Int :=
  if 0 ≤ b.q then (Nat.toDigits 10 (b.m <<< b.q.toNat)).length
  else
    let whole := b.m >>> (-b.q).toNat
    if whole = 0 then -(b.leadingZeros : Int) else (Nat.toDigits 10 whole).length

/-- The decimal with the fewest digits that identifies a number other than zero. Seventeen digits
are enough for every one; the exact value is the answer if they were not. -/
def shortest (b : Binary) : Natural :=
  let grids := (List.range 17).map fun (n : Nat) => b.scale - 1 - (n : Int)
  (grids.findSome? b.onGrid?).getD
    ⟨(b.m <<< b.q.toNat) * Nat.pow 5 (-b.q).toNat, if 0 ≤ b.q then 0 else b.q⟩

end Binary

end VideoReceiver.Decimal
