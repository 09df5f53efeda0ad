import VideoReceiver.Config.Pattern.Group
import VideoReceiver.Config.Pattern.Set

/-!
# Patterns

Whether a text is a pattern that a matcher can be built from.

## Main definitions

- `Pattern.part`: a sign that is no group, set or repetition
- `Pattern.content`: alternatives, each a sequence of parts
- `Pattern.check`: whether a whole text is a pattern
-/

namespace VideoReceiver.Pattern

/-- Why no matcher can be built. -/
inductive Fault where
  | malformed
  | boundary
  deriving DecidableEq, Repr

/-- The wording of a fault. -/
def Fault.text : Fault → String
  | malformed => "error building NFA"
  | boundary =>
    "unsupported regex feature for DFAs: cannot build DFAs for regexes with Unicode word " ++
      "boundaries; switch to ASCII word boundaries, or heuristically enable Unicode word " ++
      "boundaries or use a different regex engine"

/-- The number of levels of parts inside parts that a pattern may have. -/
def maxDepth : Nat := 250

/-- Reads what stands for one character or for a place. A brace would start a count, but none ever
gets to its end. -/
def part : Reading Unit := do
  let m ← modes
  let x ← next
  if x = '\\' then
    match ← escape with
    | .char _ => guard m.admitsChars
    | .octet y => guard (m.admitsMember y)
    | .kind negated => guard (m.admitsClass negated)
    | .edge => return
    | .boundary => if m.unicode then modify fun r => { r with hasBoundary := true }
  else if x = '.' then guard m.unicode
  else if x = '^' || x = '$' then return
  else guard (x ≠ '\x7b' && m.admitsChars)

/-- Reads alternatives up to the end of the pattern or to the parenthesis that closes their group,
and gives their depth. `branches` are the depths of the alternatives that are complete, and `parts`
those of the parts of the last one. `repeatable` says whether a repetition may follow. -/
def content (branches parts : List Nat) (repeatable : Bool) : Nat → Reading Nat
  | 0 => failure
  | fuel + 1 => do
    skipSpace
    match ← rest with
    | [] | ')' :: _ => return joined (joined parts :: branches)
    | '|' :: cs =>
      goOn cs
      content (joined parts :: branches) [] false fuel
    | '(' :: cs =>
      let outer ← modes
      goOn cs
      if ← openGroup then
        let depth ← content [] [] false fuel
        guard (← accept ')')
        setModes outer
        content branches ((depth + 1) :: parts) true fuel
      else content branches (0 :: parts) false fuel
    | '[' :: cs =>
      goOn cs
      setNegation
      let depth ← set true none [] fuel
      content branches (depth :: parts) true fuel
    | x :: cs =>
      if x = '*' || x = '+' || x = '?' then
        goOn cs
        let _ ← accept '?'
        match repeatable, parts with
        | true, depth :: parts => content branches ((depth + 1) :: parts) true fuel
        | _, _ => failure
      else
        part
        content branches (0 :: parts) true fuel

/-- Reads a whole pattern, of bounded depth. Each step reads a character at least. -/
def whole : Reading Unit := do
  let depth ← content [] [] false ((← rest).length + 1)
  guard (depth ≤ maxDepth && (← rest).isEmpty)

/-- Checks a pattern. -/
def check (cs : List Char) : Except Fault Unit :=
  match whole.run { rest := cs } with
  | none => .error .malformed
  | some ((), r) => if r.hasBoundary then .error .boundary else .ok ()

end VideoReceiver.Pattern
