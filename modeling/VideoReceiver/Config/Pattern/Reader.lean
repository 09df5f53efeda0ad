import VideoReceiver.Text.Blank
import VideoReceiver.Text.Digits

/-!
# Reading patterns

A pattern describes the texts that a field may have. Some of its signs change what the others mean,
up to the end of the group that they stand in.

## Main definitions

- `Pattern.Modes`: what signs mean at a place
- `Pattern.Reader`, `Pattern.Reading`: the state of reading a pattern, and a reader that may fail
- `Pattern.escape`: what stands behind a backslash
-/

namespace VideoReceiver.Pattern

/-- What signs mean at a place in a pattern. -/
structure Modes where
  /-- Whether classes are made of characters of any script, and not of octets. -/
  unicode : Bool := true
  ignoreCase : Bool := false
  /-- Whether white space and comments are passed over. -/
  verbose : Bool := false
  deriving DecidableEq, Repr

namespace Modes

/-- Whether a character may stand for itself. There is no knowledge of upper and lower case beyond
ASCII. -/
def admitsChars (m : Modes) : Bool := !(m.unicode && m.ignoreCase)

/-- Whether `x` may be a member of a set. A set of octets has ASCII in it only. -/
def admitsMember (x : Char) (m : Modes) : Bool := m.admitsChars && (m.unicode || x ≤ '\x7f')

/-- Whether a class of digits, letters or spaces may be meant. There is no such class of characters
of any script, and the complement of one of octets has octets in it that make up no text. -/
def admitsClass (negated : Bool) (m : Modes) : Bool := !m.unicode && !negated

/-- Whether a class with a name may be meant. -/
def admitsNamedClass (negated : Bool) (m : Modes) : Bool :=
  if m.unicode then !m.ignoreCase else !negated

end Modes

/-- The state of reading a pattern. -/
structure Reader where
  rest : List Char
  modes : Modes := {}
  /-- The names of the groups so far. -/
  names : List (List Char) := []
  /-- Whether there is a boundary between words of any script. -/
  hasBoundary : Bool := false
  deriving Repr

/-- A reader of a part of a pattern, which fails where there is no such part. -/
abbrev Reading (α : Type) := StateT Reader Option α

/-- What is left of a pattern. -/
def rest : Reading (List Char) := return (← get).rest

/-- Goes on with `cs`. -/
def goOn (cs : List Char) : Reading Unit := modify fun r => { r with rest := cs }

/-- What signs mean here. -/
def modes : Reading Modes := return (← get).modes

/-- Gives signs another meaning from here on. -/
def setModes (modes : Modes) : Reading Unit := modify fun r => { r with modes }

/-- Takes the next character. -/
def next : Reading Char := do
  match ← rest with
  | x :: cs =>
    goOn cs
    return x
  | [] => failure

/-- Takes the next character if it is `x`. -/
def accept (x : Char) : Reading Bool := do
  match ← rest with
  | y :: cs =>
    if x = y then goOn cs
    return x = y
  | [] => return false

/-- The text behind white space and comments. A comment ends with its line. -/
def dropSpace (inComment : Bool) : List Char → List Char
  | [] => []
  | x :: cs =>
    if inComment then dropSpace (x != '\n') cs
    else if x = '#' then dropSpace true cs
    else if Text.isBlankChar x then dropSpace false cs
    else x :: cs

/-- Passes over white space and comments where they mean nothing. -/
def skipSpace : Reading Unit :=
  modify fun r => if r.modes.verbose then { r with rest := dropSpace false r.rest } else r

/-- Takes `n` hexadecimal digits. -/
def hexDigits : Nat → Reading (List Char)
  | 0 => return []
  | n + 1 => do
    skipSpace
    let x ← next
    guard (Text.isDigit 16 x)
    let more ← hexDigits n
    return x :: more

/-- Takes the number of a character, in `width` hexadecimal digits. -/
def numbered (width : Nat) : Reading Char := do
  let digits ← hexDigits width
  let n := (Text.natural? 16 digits).getD 0
  guard (decide n.isValidChar)
  return Char.ofNat n

/-- What an escape means. -/
inductive Escape where
  | char (x : Char)
  /-- An octet by its number. -/
  | octet (x : Char)
  /-- A class of digits, letters or spaces, or what is not in it. -/
  | kind (negated : Bool)
  /-- The start or end of the text. -/
  | edge
  /-- The start or end of a word, or what is neither. -/
  | boundary
  deriving DecidableEq, Repr

/-- The controls that have a letter. -/
def control? : Char → Option Char
  | 'a' => some '\x07'
  | 'f' => some '\x0c'
  | 'n' => some '\n'
  | 'r' => some '\r'
  | 't' => some '\t'
  | 'v' => some '\x0b'
  | _ => none

/-- Reads an escape, behind its backslash. Any ASCII character that is no letter or digit stands for
itself. -/
def escape : Reading Escape := do
  let x ← next
  if let some y := control? x then return .char y
  else if x = 'x' then return .octet (← numbered 2)
  else if x = 'u' then return .char (← numbered 4)
  else if x = 'U' then return .char (← numbered 8)
  else if "dsw".contains x then return .kind false
  else if "DSW".contains x then return .kind true
  else if x = 'A' || x = 'z' then return .edge
  else if "bB<>".contains x then return .boundary
  else if x ≤ '\x7f' && !x.isAlphanum then return .char x
  else failure

end VideoReceiver.Pattern
