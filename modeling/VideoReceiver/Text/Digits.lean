/-!
# Digits

Reading unsigned numbers in a given base.

## Main definitions

- `Text.digit?`: the value of one digit
- `Text.ofDigits`: the value of a list of digits
- `Text.natural?`: the value of a text that is one non-empty run of digits
-/

namespace VideoReceiver.Text

/-- The value of `c` as a digit below `base`, for bases up to 36; letters count in either case. -/
def digit? (base : Nat) (c : Char) : Option Nat :=
  let v :=
    if '0' ≤ c && c ≤ '9' then c.toNat - '0'.toNat
    else if 'a' ≤ c && c ≤ 'z' then c.toNat - 'a'.toNat + 10
    else if 'A' ≤ c && c ≤ 'Z' then c.toNat - 'A'.toNat + 10
    else base
  if v < base then some v else none

/-- Whether `c` is a digit below `base`. -/
def isDigit (base : Nat) (c : Char) : Bool := (digit? base c).isSome

/-- The value of a list of digits, most significant first. -/
def ofDigits (base : Nat) (ds : List Nat) : Nat := ds.foldl (fun n d => n * base + d) 0

/-- The value of a text that consists of digits only and has at least one. -/
def natural? (base : Nat) (cs : List Char) : Option Nat :=
  match cs with
  | [] => none
  | _ => (cs.mapM (digit? base)).map (ofDigits base)

end VideoReceiver.Text
