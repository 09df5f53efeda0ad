import VideoReceiver.Text.Digits
import VideoReceiver.Yaml.Fault

/-!
# Block text

Reading literal and folded scalars: the lines below a header that are indented alike.

## Main definitions

- `Yaml.BlockHeader`: what stands behind the indicator
- `Yaml.Margin`: the empty lines and the indentation in front of a line of text
- `Yaml.blockText`: the whole scalar
-/

namespace VideoReceiver.Yaml

/-- What becomes of the line breaks at the end of a block scalar. -/
inductive Chomping where
  | strip
  | clip
  | keep
  deriving DecidableEq, Repr

/-- The settings in the first line of a block scalar. -/
structure BlockHeader where
  chomping : Chomping := .clip
  /-- How much deeper than its surroundings the text is, if that is said. -/
  increment : Option Nat := none

namespace BlockHeader

/-- Reads a chomping indicator, if there is one. -/
def chomp? : List Char → Option (Chomping × List Char)
  | '+' :: rest => some (.keep, rest)
  | '-' :: rest => some (.strip, rest)
  | _ => none

/-- Reads a digit, if there is one. -/
def digit? : List Char → Option (Nat × List Char)
  | x :: rest => (Text.digit? 10 x).map (·, rest)
  | [] => none

/-- Reads both indicators, in either order. -/
def indicators (cs : List Char) : BlockHeader × List Char :=
  match chomp? cs with
  | some (chomping, rest) =>
    match digit? rest with
    | some (n, rest) => (⟨chomping, some n⟩, rest)
    | none => (⟨chomping, none⟩, rest)
  | none =>
    match digit? cs with
    | some (n, rest) =>
      match chomp? rest with
      | some (chomping, rest) => (⟨chomping, some n⟩, rest)
      | none => (⟨.clip, some n⟩, rest)
    | none => (⟨.clip, none⟩, cs)

/-- Reads a header up to the end of its line. An indentation of zero is refused. -/
def read (c : Cursor) : Except Fault (BlockHeader × Cursor) :=
  let (header, rest) := indicators c.rest
  let c := ((c.skip (c.rest.length - rest.length)).skipWhile isBlank).skipComment
  if header.increment = some 0 then c.fail .badBlockHeader
  else
    match c.lineBreak? with
    | some (_, next) => .ok (header, next)
    | none => if c.rest.isEmpty then .ok (header, c) else c.fail .badBlockHeader

end BlockHeader

/-- What stands in front of a line of text. -/
structure Margin where
  /-- The line breaks of the empty lines. -/
  breaks : List Char
  /-- The column of the widest run of spaces. -/
  widest : Nat
  /-- Where the text of the line starts. -/
  cursor : Cursor

/-- Reads empty lines and indentation, up to column `limit` if one is given. `breaks` are the line
breaks so far, last one first. -/
def Margin.read (limit : Option Nat) (breaks : List Char) (widest : Nat) (c : Cursor) :
    Except Fault Margin :=
  let line := limit.elim c.rest fun column => c.rest.take (column - c.mark.column)
  let d := c.skip (line.takeWhile (· = ' ')).length
  let widest := max widest d.mark.column
  if d.next? = some '\t' && limit.all (d.mark.column < ·) then d.fail .tabInIndentation
  else
    match _h : d.lineBreak? with
    | none => .ok ⟨breaks.reverse, widest, d⟩
    | some (x, next) => Margin.read limit (x :: breaks) widest next
termination_by c.rest.length
decreasing_by
  exact Nat.lt_of_lt_of_le (Cursor.length_lt_of_lineBreak? _h) (Cursor.length_skip_le _ _)

/-- Behind a margin there is no more text than in front of it. -/
theorem Margin.length_le_of_read {limit : Option Nat} {breaks : List Char} {widest : Nat}
    {c : Cursor} {margin : Margin} (h : Margin.read limit breaks widest c = .ok margin) :
    margin.cursor.rest.length ≤ c.rest.length := by
  fun_induction Margin.read limit breaks widest c with
  | case1 => simp [Cursor.fail] at h
  | case2 =>
    simp only [Except.ok.injEq] at h
    rw [← h]
    exact Cursor.length_skip_le _ _
  | case3 _ _ _ _ _ _ _ _ _ hb ih =>
    exact Nat.le_trans (ih h) (Nat.le_of_lt (Nat.lt_of_lt_of_le
      (Cursor.length_lt_of_lineBreak? hb) (Cursor.length_skip_le _ _)))

/-- A block scalar in the course of reading. -/
structure BlockText where
  /-- The lines so far, last character first. -/
  done : List Char := []
  /-- The break behind the last line, which is still to be folded. -/
  lineBreak : List Char := []
  /-- The breaks of the empty lines behind it. -/
  empties : List Char
  /-- Whether the last line started with a blank. -/
  afterBlank : Bool := false

namespace BlockText

/-- Appends a line. In a folded scalar the break in front of it becomes a space, or nothing if
empty lines follow the break, unless one of the two lines starts with a blank. -/
def addLine (folded : Bool) (line lineBreak empties : List Char) (b : BlockText) : BlockText :=
  let startsBlank := line.head?.any isBlank
  let joint :=
    if folded && b.lineBreak = ['\n'] && !b.afterBlank && !startsBlank then
      if b.empties.isEmpty then [' '] else []
    else b.lineBreak
  { done := line.reverse ++ (b.empties.reverse ++ (joint.reverse ++ b.done))
    lineBreak
    empties
    afterBlank := startsBlank }

/-- The scalar, with its last line breaks chomped. -/
def finish (chomping : Chomping) (b : BlockText) : String :=
  String.ofList <| b.done.reverse ++
    match chomping with
    | .strip => []
    | .clip => b.lineBreak
    | .keep => b.lineBreak ++ b.empties

/-- Takes a line and the break behind it, if there is one. -/
def takeLine (c : Cursor) : List Char × List Char × Cursor :=
  let (line, d) := c.span (!isBreak ·)
  match d.lineBreak? with
  | some (x, next) => (line, [x], next)
  | none => (line, [], d)

/-- Behind a line there is less text than in front of it. -/
theorem length_takeLine_lt {c : Cursor} (h : c.rest ≠ []) :
    (takeLine c).2.2.rest.length < c.rest.length := by
  obtain ⟨x, rest, hr⟩ := List.exists_cons_of_ne_nil h
  have hd : (c.span (!isBreak ·)).2 = c.skipWhile (!isBreak ·) := rfl
  unfold takeLine
  dsimp only
  split
  · next hb =>
    exact Nat.lt_of_lt_of_le (Cursor.length_lt_of_lineBreak? hb) (Cursor.length_skipWhile_le _ c)
  · next hb =>
    rw [hd] at hb ⊢
    by_cases hx : isBreak x
    · have hsame : (c.skipWhile (!isBreak ·)).rest = c.rest := by
        simp [Cursor.skipWhile, Cursor.span, Cursor.skip, hr, hx]
      have := Cursor.isSome_lineBreak? (c := c.skipWhile (!isBreak ·)) (by rw [hsame, hr]; rfl) hx
      simp [hb] at this
    · exact Cursor.length_skipWhile_lt (x := x) (by simp [hr]) (by simp [hx])

/-- Reads the lines that start at column `indent`. -/
def read (folded : Bool) (indent : Nat) (b : BlockText) (c : Cursor) :
    Except Fault (BlockText × Cursor) :=
  if _c : c.mark.column = indent ∧ c.rest ≠ [] then
    let line := takeLine c
    match _m : Margin.read (some indent) [] 0 line.2.2 with
    | .error fault => .error fault
    | .ok margin =>
      read folded indent (b.addLine folded line.1 line.2.1 margin.breaks) margin.cursor
  else .ok (b, c)
termination_by c.rest.length
decreasing_by
  exact Nat.lt_of_le_of_lt (Margin.length_le_of_read _m) (length_takeLine_lt _c.2)

end BlockText

/-- Reads a block scalar, behind its indicator. The block around it is indented such that nested
text has to start at column `margin` or behind it. -/
def blockText (folded : Bool) (margin : Nat) (c : Cursor) : Except Fault (String × Cursor) := do
  let (header, c) ← BlockHeader.read c
  let limit := header.increment.map (margin - 1 + ·)
  let first ← Margin.read limit [] 0 c
  let indent := limit.getD (max first.widest (max margin 1))
  let (b, c) ← BlockText.read folded indent ⟨[], [], first.breaks, false⟩ first.cursor
  return (b.finish header.chomping, c.look 1)

end VideoReceiver.Yaml
