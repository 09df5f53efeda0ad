import VideoReceiver.Config.Pattern.Reader

/-!
# Sets in patterns

A set in brackets lists characters, ranges, classes and further sets, and may combine such lists.

## Main definitions

- `Pattern.joined`: how deep several parts are nested together
- `Pattern.setMember`, `Pattern.setItem`: what a set lists
- `Pattern.set`: a whole set
-/

namespace VideoReceiver.Pattern

/-- How deep parts are nested together that are nested as deep as `depths` each. A part alone is as
deep as it is; several make one more level. -/
def joined : List Nat → Nat
  | [] => 0
  | [depth] => depth
  | depths => depths.foldl max 0 + 1

/-- The depth of lists with operators between them: those on the left, if there are any, and the one
on the right. -/
def combined (left : Option Nat) (right : List Nat) : Nat :=
  left.elim (joined right) fun depth => max depth (joined right) + 1

/-- The names of classes. -/
def classNames : List String :=
  ["alnum", "alpha", "ascii", "blank", "cntrl", "digit", "graph", "lower", "print", "punct",
   "space", "upper", "word", "xdigit"]

/-- Reads a class by its name, with the colons and brackets around it: whether what is not in it is
meant, and the text behind it. -/
def namedClass? : List Char → Option (Bool × List Char)
  | '[' :: ':' :: cs =>
    let negated := cs.head? = some '^'
    let cs := if negated then cs.drop 1 else cs
    let name := cs.takeWhile (· ≠ ':')
    match cs.drop name.length with
    | ':' :: ']' :: rest =>
      if classNames.contains (String.ofList name) then some (negated, rest) else none
    | _ => none
  | _ => none

/-- The next character behind a hyphen that counts for what the hyphen means. Where white space is
passed over, so is the first sign of a comment, but not the comment. -/
def afterHyphen? (verbose : Bool) (cs : List Char) : Option Char :=
  if verbose then
    match cs.dropWhile Text.isBlankChar with
    | '#' :: rest => (rest.dropWhile Text.isBlankChar).head?
    | rest => rest.head?
  else cs.head?

/-- Reads a member of a set: a character, which is given, or a class. -/
def setMember : Reading (Option Char) := do
  let m ← modes
  let x ← next
  if x = '\\' then
    match ← escape with
    | .char y | .octet y =>
      guard (m.admitsMember y)
      return some y
    | .kind negated =>
      guard (m.admitsClass negated)
      return none
    | .edge | .boundary => failure
  else
    guard (m.admitsMember x)
    return some x

/-- Reads a member or a range. A hyphen in front of a bracket or another hyphen makes no range. -/
def setItem : Reading Unit := do
  let first ← setMember
  skipSpace
  if let '-' :: cs ← rest then
    let following := afterHyphen? (← modes).verbose cs
    if following != some ']' && following != some '-' then
      goOn cs
      skipSpace
      let last ← setMember
      match first, last with
      | some x, some y => guard (x ≤ y)
      | _, _ => failure

/-- Reads the sign that a set has all that is not listed. Among octets it would have some that make
up no text. -/
def setNegation : Reading Unit := do
  skipSpace
  if ← accept '^' then guard (← modes).unicode

/-- Reads a set behind its opening bracket and negation, up to its closing bracket, and gives its
depth. `left` is the depth of what stands in front of the last operator, and `items` are those of
the items behind it. At the start, hyphens and then a bracket stand for themselves. -/
def set (atStart : Bool) (left : Option Nat) (items : List Nat) : Nat → Reading Nat
  | 0 => failure
  | fuel + 1 => do
    skipSpace
    let cs ← rest
    let item : Reading Unit := do
      let _ ← setMember
    if atStart && cs.head? = some '-' then
      item
      set true left (0 :: items) fuel
    else if atStart && items.isEmpty && cs.head? = some ']' then
      item
      set false left (0 :: items) fuel
    else if cs.head? = some ']' then
      goOn (cs.drop 1)
      return combined left items + 1
    else if ["&&", "--", "~~"].contains (String.ofList (cs.take 2)) then
      goOn (cs.drop 2)
      set false (some (combined left items)) [] fuel
    else if cs.head? = some '[' then
      match namedClass? cs with
      | some (negated, cs) =>
        guard ((← modes).admitsNamedClass negated)
        goOn cs
        set false left (0 :: items) fuel
      | none =>
        goOn (cs.drop 1)
        setNegation
        let depth ← set true none [] fuel
        set false left (depth :: items) fuel
    else
      setItem
      set false left (0 :: items) fuel

end VideoReceiver.Pattern
