import VideoReceiver.Text.Octets

/-!
# Positions in a document

Where a reader stands in a text: the characters that are left, and how far it has come. It may have
looked at more than it has passed, which matters to a text that comes in portions.

## Main definitions

- `Yaml.Mark`: a position, by octet, line and column, all counted from zero
- `Yaml.Cursor`: a position together with the rest of the text
- `Yaml.Cursor.skip`, `Yaml.Cursor.span`, `Yaml.Cursor.lineBreak?`: the ways to move on
- `Yaml.Cursor.look`: a look at what is next
-/

namespace VideoReceiver.Yaml

/-- A position in a text. -/
structure Mark where
  /-- The number of octets in front of it. -/
  index : Nat := 0
  line : Nat := 0
  column : Nat := 0
  deriving DecidableEq, Repr, Inhabited

/-- The position in words, for a reader who counts from one. -/
def Mark.text (m : Mark) : String := s!"line {m.line + 1} column {m.column + 1}"

/-- Whether `c` ends a line. -/
def isBreak (c : Char) : Bool :=
  c = '\n' || c = '\r' || c = '\u0085' || c = '\u2028' || c = '\u2029'

/-- Whether `c` separates words on one line. -/
def isBlank (c : Char) : Bool := c = ' ' || c = '\t'

/-- Whether `c` separates words. -/
def isSpace (c : Char) : Bool := isBlank c || isBreak c

/-- Whether `c` may stand in an anchor's name or in a tag's handle. -/
def isWord (c : Char) : Bool := c.isAlphanum || c = '-' || c = '_'

/-- Whether no word goes on at the front of a text. -/
def endsWord (cs : List Char) : Bool := cs.head?.all isSpace

/-- A reader's position and the text behind it. -/
structure Cursor where
  rest : List Char
  mark : Mark := {}
  /-- The number of octets up to the end of what has been looked at. -/
  seen : Nat := 0
  deriving Repr

namespace Cursor

/-- The next character. -/
def next? (c : Cursor) : Option Char := c.rest.head?

/-- The character behind the next one. -/
def afterNext? (c : Cursor) : Option Char := c.rest[1]?

/-- The position by octet behind the next `n` characters. -/
def indexAfter (n : Nat) (c : Cursor) : Nat := c.mark.index + Text.octetCount (c.rest.take n)

/-- Looks at the next `n` characters. -/
def look (n : Nat) (c : Cursor) : Cursor := { c with seen := max c.seen (c.indexAfter n) }

/-- Moves on by `n` characters of the current line. -/
def skip (n : Nat) (c : Cursor) : Cursor :=
  { c with
    rest := c.rest.drop n
    mark := { c.mark with index := c.indexAfter n, column := c.mark.column + n } }

/-- Takes the longest run of characters that satisfy `p`, which has to fail on line breaks. -/
def span (p : Char → Bool) (c : Cursor) : List Char × Cursor :=
  let run := c.rest.takeWhile p
  (run, c.skip run.length)

/-- Passes over the longest run of characters that satisfy `p`. -/
def skipWhile (p : Char → Bool) (c : Cursor) : Cursor := (c.span p).2

/-- Moves to the start of the next line, `n` characters away. -/
def newline (n : Nat) (c : Cursor) : Cursor :=
  { c with
    rest := c.rest.drop n
    mark := { index := c.indexAfter n, line := c.mark.line + 1, column := 0 } }

/-- Takes a line break. It counts as a line feed, except for the two Unicode separators, which stand
for themselves. -/
def lineBreak? (c : Cursor) : Option (Char × Cursor) :=
  match c.rest with
  | '\r' :: '\n' :: _ => some ('\n', c.newline 2)
  | x :: _ =>
    if isBreak x then
      some (if x = '\u2028' || x = '\u2029' then x else '\n', c.newline 1)
    else none
  | [] => none

/-- Passes over a comment, up to the end of its line. -/
def skipComment (c : Cursor) : Cursor :=
  if c.next? = some '#' then c.skipWhile (!isBreak ·) else c

/-- Whether the next `n` characters are `x` and no word goes on behind them. -/
def atRow (n : Nat) (x : Char) (c : Cursor) : Bool :=
  c.rest.take n = List.replicate n x && endsWord (c.rest.drop n)

/-- Whether a marker between documents stands here, at the start of a line. -/
def atDocumentMarker (c : Cursor) : Bool :=
  c.mark.column = 0 && (c.atRow 3 '-' || c.atRow 3 '.')

/-- Behind a line break there is less text. -/
theorem length_lt_of_lineBreak? {c d : Cursor} {x : Char} (h : c.lineBreak? = some (x, d)) :
    d.rest.length < c.rest.length := by
  unfold lineBreak? at h
  split at h
  · next heq =>
    simp only [Option.some.injEq, Prod.mk.injEq] at h
    rw [← h.2]
    simp only [newline, heq, List.drop_succ_cons, List.drop_zero, List.length_cons]
    omega
  · next heq =>
    split at h
    · simp only [Option.some.injEq, Prod.mk.injEq] at h
      rw [← h.2]
      simp only [newline, heq, List.drop_succ_cons, List.drop_zero, List.length_cons]
      exact Nat.lt_succ_self _
    · simp at h
  · simp at h

/-- Looking ahead leaves the text as it is. -/
@[simp] theorem rest_look (n : Nat) (c : Cursor) : (c.look n).rest = c.rest := rfl

/-- Moving on leaves less text than there was, if there was any. -/
theorem length_skip_lt {n : Nat} {c : Cursor} (h : c.rest ≠ []) (hn : 0 < n) :
    (c.skip n).rest.length < c.rest.length := by
  have := List.length_pos_iff.mpr h
  simp only [skip, List.length_drop]
  omega

/-- Moving on leaves no more text than there was. -/
theorem length_skip_le (n : Nat) (c : Cursor) : (c.skip n).rest.length ≤ c.rest.length := by
  simp [skip]

/-- Where a line ends, it can be ended. -/
theorem isSome_lineBreak? {c : Cursor} {x : Char} (h : c.rest.head? = some x) (hx : isBreak x) :
    c.lineBreak?.isSome := by
  unfold lineBreak?
  split
  · rfl
  · next heq =>
    rw [heq] at h
    simp only [List.head?_cons, Option.some.injEq] at h
    simp [h, hx]
  · next heq => simp [heq] at h

/-- Behind a run there is less text than in front of it, if the run is not empty. -/
theorem length_skipWhile_lt {p : Char → Bool} {c : Cursor} {x : Char}
    (h : c.rest.head? = some x) (hx : p x) : (c.skipWhile p).rest.length < c.rest.length := by
  unfold skipWhile span
  match hc : c.rest with
  | [] => simp [hc] at h
  | y :: rest =>
    rw [hc] at h
    simp only [List.head?_cons, Option.some.injEq] at h
    rw [← hc]
    exact length_skip_lt (by simp [hc]) (by simp [hc, h, hx])

/-- Behind a run there is no more text than in front of it. -/
theorem length_skipWhile_le (p : Char → Bool) (c : Cursor) :
    (c.skipWhile p).rest.length ≤ c.rest.length :=
  length_skip_le _ c

/-- Behind a comment there is no more text than in front of it. -/
theorem length_skipComment_le (c : Cursor) : c.skipComment.rest.length ≤ c.rest.length := by
  unfold skipComment
  split
  · exact length_skipWhile_le _ c
  · exact Nat.le_refl _

end Cursor

end VideoReceiver.Yaml
