import VideoReceiver.Decimal.Positional
import VideoReceiver.Text.Quoted
import VideoReceiver.Yaml.Scalar

/-!
# What scalars stand for

Plain text may be a null, a truth value or a number; quoted text is always a string. A tag can
demand a kind.

## Main definitions

- `Yaml.Value`: the values of scalars
- `Yaml.integer?`, `Yaml.truth?`, `Yaml.isNull`, `Yaml.real?`: the notations
- `Yaml.Scalar.value`: the value of a scalar
- `Yaml.Value.describe`: a value in words
-/

namespace VideoReceiver.Yaml

open VideoReceiver.Text

/-- The value of a scalar. -/
inductive Value where
  | null
  | bool (b : Bool)
  | integer (n : Int)
  | float (x : Float)
  | string (s : String)
  deriving Repr

/-- Whether a text means nothing. -/
def isNull (s : String) : Bool := s = "null" || s = "Null" || s = "NULL" || s = "~"

/-- The truth value that a text means. -/
def truth? (s : String) : Option Bool :=
  if s = "true" || s = "True" || s = "TRUE" then some true
  else if s = "false" || s = "False" || s = "FALSE" then some false
  else none

/-- Whether digits alone follow a leading zero, perhaps behind a sign. Such a text is no number. -/
def isPadded (cs : List Char) : Bool :=
  let cs := match cs with
    | '-' :: rest | '+' :: rest => rest
    | _ => cs
  match cs with
  | '0' :: rest => !rest.isEmpty && rest.all Char.isDigit
  | _ => false

/-- The number that digits stand for, in the base that they announce. -/
def magnitude? : List Char → Option Nat
  | '0' :: 'x' :: rest => natural? 16 rest
  | '0' :: 'o' :: rest => natural? 8 rest
  | '0' :: 'b' :: rest => natural? 2 rest
  | cs => natural? 10 cs

/-- The natural number that a text means. A plus sign may precede it. -/
def unsigned? (cs : List Char) : Option Nat :=
  if isPadded cs then none
  else
    match cs with
    | '+' :: rest => magnitude? rest
    | _ => magnitude? cs

/-- The values that fit into a half of 128 bits, signed. -/
def halfRange : Nat := 1 <<< 127

/-- The integer that a text means, within 128 bits. -/
def integer? (cs : List Char) : Option Int :=
  match unsigned? cs, cs with
  | some n, _ => if n < 2 * halfRange then some n else none
  | none, '-' :: rest =>
    if isPadded cs then none
    else
      match magnitude? rest with
      | some n => if n ≤ halfRange then some (-(n : Int)) else none
      | none => none
  | none, _ => none

/-- Whether a text is a name of infinity. -/
def isInfinity (s : String) : Bool := s = ".inf" || s = ".Inf" || s = ".INF"

/-- The floating point number that a text means. -/
def real? (s : String) : Option Float :=
  let unsigned? : Option (List Char) := match s.toList with
    | '+' :: '-' :: _ => none
    | '+' :: rest => some rest
    | cs => some cs
  match unsigned? with
  | none => none
  | some cs =>
    if isInfinity (String.ofList cs) then some (1.0 / 0.0)
    else if s.toList.head? = some '-' && isInfinity (String.ofList (cs.drop 1)) then
      some (-1.0 / 0.0)
    else if s = ".nan" || s = ".NaN" || s = ".NAN" then some (0.0 / 0.0)
    else Decimal.float? cs

/-- The value of plain text. -/
def plainValue (s : String) : Value :=
  if s.isEmpty || isNull s then .null
  else
    match truth? s, integer? s.toList with
    | some b, _ => .bool b
    | none, some n => .integer n
    | none, none =>
      match if isPadded s.toList then none else real? s with
      | some x => .float x
      | none => .string s

/-- A scalar whose text does not suit the kind that its tag demands. -/
structure TagMismatch where
  tag : CoreTag
  text : String
  deriving Repr

/-- The value of a scalar. A tag of the document's own leaves plain text as it is; any other tag
makes it a string. -/
def Scalar.value (s : Scalar) : Except TagMismatch Value :=
  let untagged := if s.style = .plain then plainValue s.text else .string s.text
  match s.tag with
  | none => .ok untagged
  | some tag =>
    let demanded? (t : CoreTag) : Option Value :=
      match t with
      | .bool => (truth? s.text).map .bool
      | .int => (integer? s.text.toList).map .integer
      | .float => (real? s.text).map .float
      | .null => if isNull s.text then some .null else none
    match CoreTag.ofTag? tag with
    | some t =>
      match demanded? t with
      | some v => .ok v
      | none => .error ⟨t, s.text⟩
    | none => .ok (if tag.isLocal then untagged else .string s.text)

/-- A value in words. For integers beyond 64 bits the words name the width that they need. -/
def Value.describe : Value → String
  | null => "unit value"
  | bool true => "boolean \x60true\x60"
  | bool false => "boolean \x60false\x60"
  | integer n =>
    let width :=
      if 0x10000000000000000 ≤ n then " as u128"
      else if n < -0x8000000000000000 then " as i128"
      else ""
    "integer \x60" ++ toString n ++ "\x60" ++ width
  | float x => "floating point \x60" ++ Decimal.text x ++ "\x60"
  | string s => "string " ++ quoted s

end VideoReceiver.Yaml
