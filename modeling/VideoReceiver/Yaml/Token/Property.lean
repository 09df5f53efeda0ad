import VideoReceiver.Text.Digits
import VideoReceiver.Yaml.Fault
import VideoReceiver.Yaml.Token

/-!
# Anchors, tags and directives

Reading the tokens that say something about a node or about the document.

## Main definitions

- `Yaml.anchorName`: the name of an anchor or alias
- `Yaml.tagToken`: a tag
- `Yaml.directive`: a directive line
-/

namespace VideoReceiver.Yaml

open VideoReceiver.Text

/-- Reads a name behind `&` or `*`. White space or one of a few indicators has to follow. -/
def anchorName (c : Cursor) : Except Fault (String × Cursor) :=
  let (name, d) := c.span isWord
  let ends := d.next?.all fun x => isSpace x || "?:,]\x7d%@\x60".contains x
  if name.isEmpty || !ends then d.fail .badAnchor else .ok (String.ofList name, d.look 1)

/-- Whether `x` may stand in a tag as it is, for the octet that it is. Brackets and commas may only
in a verbatim tag. -/
def isTagChar (verbatim : Bool) (x : Char) : Bool :=
  isWord x || ";/?:@&=+$.!~*'()".contains x || (verbatim && ",[]".contains x)

/-- The value of an escaped octet, a percent sign and two hexadecimal digits. -/
def octet? : List Char → Option Nat
  | '%' :: a :: b :: _ => natural? 16 [a, b]
  | _ => none

/-- How many octets make up a character that starts with the octet `n`. -/
def octetCount? (n : Nat) : Option Nat :=
  if n < 0x80 then some 1
  else if 0xC0 ≤ n && n < 0xE0 then some 2
  else if 0xE0 ≤ n && n < 0xF0 then some 3
  else if 0xF0 ≤ n && n < 0xF8 then some 4
  else none

/-- The octets behind the first one of an escaped character, given how many there are. -/
def laterOctets? (cs : List Char) : Nat → Option (List UInt8)
  | 0 => some []
  | n + 1 => do
    let x ← octet? cs
    if x / 64 = 2 then (laterOctets? (cs.drop 3) n).map (x.toUInt8 :: ·) else none

/-- The octets of an escaped character: the first and the others. Their count is right; whether they
are those of a character at all is not asked. -/
def escapedOctets? (cs : List Char) : Option (UInt8 × List UInt8) := do
  let first ← octet? cs
  let count ← octetCount? first
  let others ← laterOctets? (cs.drop 3) (count - 1)
  return (first.toUInt8, others)

/-- Reads the longest run of a tag's characters. `done` is what is already read, last octet
first. -/
def tagText (verbatim : Bool) (done : List UInt8) (c : Cursor) : Except Fault (Tag × Cursor) :=
  match _h : c.rest with
  | [] => .ok (⟨done.reverse⟩, c)
  | x :: _ =>
    if x = '%' then
      match escapedOctets? c.rest with
      | some (first, others) =>
        tagText verbatim (others.reverse ++ first :: done) (c.skip (3 * (others.length + 1)))
      | none => c.fail .badTag
    else if isTagChar verbatim x then tagText verbatim (x.toNat.toUInt8 :: done) (c.skip 1)
    else .ok (⟨done.reverse⟩, c)
termination_by c.rest.length
decreasing_by
  · exact Cursor.length_skip_lt (by simp [_h]) (by omega)
  · exact Cursor.length_skip_lt (by simp [_h]) (by decide)

/-- Reads a run of a tag's characters that must not be empty. It counts up to the first zero. -/
def tagSuffix (verbatim : Bool) (c : Cursor) : Except Fault (Tag × Cursor) := do
  let (text, d) ← tagText verbatim [] c
  if text.octets.isEmpty then c.fail .badTag else return (text.upToNul, d)

/-- Reads a tag's handle: an exclamation mark, a word, and perhaps another exclamation mark. -/
def tagHandle (c : Cursor) : List Char × Cursor :=
  let (word, d) := (c.skip 1).span isWord
  if d.next? = some '!' then ('!' :: word ++ ['!'], d.skip 1) else ('!' :: word, d)

/-- Whether a handle ends in a second exclamation mark. -/
def isClosedHandle (handle : List Char) : Bool :=
  2 ≤ handle.length && handle.getLast? = some '!'

/-- Reads a tag. White space has to follow it, or a comma in the flow notation. -/
def tagToken (inFlow : Bool) (c : Cursor) : Except Fault (Token × Cursor) := do
  let (handle, suffix, d) ←
    if c.afterNext? = some '<' then do
      let (suffix, d) ← tagSuffix true (c.skip 2)
      if d.next? = some '>' then pure ("", suffix, d.skip 1) else d.fail .badTag
    else do
      let (handle, d) := tagHandle c
      if isClosedHandle handle then do
        let (suffix, d) ← tagSuffix false d
        pure (String.ofList handle, suffix, d)
      else do
        let (text, d) ← tagText false [] d
        let suffix := ((Tag.ofText (String.ofList (handle.drop 1))).append text).upToNul
        pure (if suffix.octets.isEmpty then ("", Tag.bare, d) else ("!", suffix, d))
  if endsWord d.rest || (inFlow && d.next? = some ',') then
    return (.tag handle suffix, d.look 1)
  else d.fail .badTag

/-- Reads a part of a version, of nine digits at most. -/
def versionNumber (c : Cursor) : Except Fault (Nat × Cursor) :=
  let (digits, d) := c.span (·.isDigit)
  match natural? 10 digits with
  | some n => if digits.length ≤ 9 then .ok (n, d) else c.fail .badDirective
  | none => c.fail .badDirective

/-- Reads the version in a version directive. -/
def versionDirective (c : Cursor) : Except Fault (Token × Cursor) := do
  let (major, c) ← versionNumber (c.skipWhile isBlank)
  if c.next? = some '.' then do
    let (minor, c) ← versionNumber (c.skip 1)
    return (.versionDirective major minor, c)
  else c.fail .badDirective

/-- Reads the handle in a tag directive, and what it is short for. -/
def tagDirective (c : Cursor) : Except Fault (Token × Cursor) := do
  let c := c.skipWhile isBlank
  let (handle, d) := tagHandle c
  if c.next? = some '!' && (handle = ['!'] || isClosedHandle handle) && d.next?.any isBlank then do
    let (expansion, d) ← tagSuffix true (d.skipWhile isBlank)
    if endsWord d.rest then
      return (.tagDirective (String.ofList handle) expansion, d)
    else d.fail .badDirective
  else d.fail .badDirective

/-- Reads a directive, behind its percent sign, up to the end of its line. -/
def directive (c : Cursor) : Except Fault (Token × Cursor) := do
  let (name, d) := c.span isWord
  if !endsWord d.rest then d.fail .badDirective
  else
    let (token, d) ←
      if name = "YAML".toList then versionDirective d
      else if name = "TAG".toList then tagDirective d
      else c.fail .badDirective
    let d := ((d.skipWhile isBlank).skipComment).look 2
    match d.lineBreak? with
    | some (_, next) => return (token, next)
    | none => if d.rest.isEmpty then return (token, d) else d.fail .badDirective

end VideoReceiver.Yaml
