import VideoReceiver.Text.Digits
import VideoReceiver.Yaml.Fault

/-!
# Plain and quoted text

Reading scalars that may run over several lines: the white space around a line break folds into a
space, and each further line break is kept.

## Main definitions

- `Yaml.Gap`: white space inside a scalar, and what it folds into
- `Yaml.PlainText.read`: text without quotes
- `Yaml.quoted`: text in single or double quotes
-/

namespace VideoReceiver.Yaml

open VideoReceiver.Text

/-- White space between two pieces of a scalar. -/
inductive Gap where
  /-- On one line. -/
  | spaces (text : List Char)
  /-- Over a line break, which is missing if it was escaped, and further ones, last one first. -/
  | lines (first : Option Char) (more : List Char)

namespace Gap

/-- Appends a line break. -/
def addBreak (x : Char) : Gap → Gap
  | .spaces _ => .lines (some x) []
  | .lines first more => .lines first (x :: more)

/-- Appends the blanks of a line, which count only if there is no line break in the gap. -/
def addBlanks (blanks : List Char) : Gap → Gap
  | .spaces text => .spaces (text ++ blanks)
  | .lines first more => .lines first more

/-- Whether there is a line break in the gap. -/
def hasBreak : Gap → Bool
  | .spaces _ => false
  | .lines .. => true

/-- What the gap stands for in the scalar. -/
def folded : Gap → List Char
  | .spaces text => text
  | .lines (some '\n') [] => [' ']
  | .lines (some '\n') more => more.reverse
  | .lines first more => first.toList ++ more.reverse

/-- Reads on in a gap as far as it goes. Below column `indent` no line may have a tab. -/
def read (indent : Nat) (g : Gap) (c : Cursor) : Except Fault (Gap × Cursor) :=
  let blanks := c.rest.takeWhile isBlank
  let d := c.skipWhile isBlank
  let badTab := g.hasBreak && (blanks.take (indent - c.mark.column)).contains '\t'
  if badTab then c.fail .tabInIndentation
  else
    match _h : d.lineBreak? with
    | none => .ok (g.addBlanks blanks, d)
    | some (x, next) => read indent (g.addBreak x) next
termination_by c.rest.length
decreasing_by
  exact Nat.lt_of_lt_of_le (Cursor.length_lt_of_lineBreak? _h) (Cursor.length_skipWhile_le _ _)

/-- Behind a gap there is no more text than in front of it. -/
theorem length_le_of_read {indent : Nat} {g gap : Gap} {c next : Cursor}
    (h : read indent g c = .ok (gap, next)) : next.rest.length ≤ c.rest.length := by
  fun_induction read indent g c with
  | case1 => simp [Cursor.fail] at h
  | case2 =>
    simp only [Except.ok.injEq, Prod.mk.injEq] at h
    rw [← h.2]
    exact Cursor.length_skipWhile_le _ _
  | case3 _ c _ _ _ _ _ next hb ih =>
    exact Nat.le_trans (ih h) (Nat.le_of_lt (Nat.lt_of_lt_of_le
      (Cursor.length_lt_of_lineBreak? hb) (Cursor.length_skipWhile_le _ _)))

/-- Behind a gap that starts with white space there is less text than in front of it. -/
theorem length_lt_of_read {indent : Nat} {g gap : Gap} {c next : Cursor} {x : Char}
    (hc : c.rest.head? = some x) (hx : isSpace x) (h : read indent g c = .ok (gap, next)) :
    next.rest.length < c.rest.length := by
  unfold read at h
  dsimp only at h
  split at h
  · simp [Cursor.fail] at h
  · split at h
    · next hb =>
      simp only [Except.ok.injEq, Prod.mk.injEq] at h
      rw [← h.2]
      by_cases hblank : isBlank x
      · exact Cursor.length_skipWhile_lt hc hblank
      · have hbreak : isBreak x := by simpa [isSpace, hblank] using hx
        have hsame : (c.skipWhile isBlank).rest = c.rest := by
          match hr : c.rest with
          | [] => simp [hr] at hc
          | y :: rest =>
            rw [hr] at hc
            simp only [List.head?_cons, Option.some.injEq] at hc
            simp [Cursor.skipWhile, Cursor.span, Cursor.skip, hr, hc, hblank]
        have := Cursor.isSome_lineBreak? (c := c.skipWhile isBlank) (by rw [hsame]; exact hc) hbreak
        simp [hb] at this
    · next hb =>
      exact Nat.lt_of_le_of_lt (length_le_of_read h) (Nat.lt_of_lt_of_le
        (Cursor.length_lt_of_lineBreak? hb) (Cursor.length_skipWhile_le _ _))

end Gap

/-- Whether `x` is a bracket or comma of the flow notation. -/
def isFlowIndicator (x : Char) : Bool := x = ',' || x = '[' || x = ']' || x = '\x7b' || x = '\x7d'

/-- The length of the longest piece of plain text at the front. It ends at white space, at a colon
in front of white space, and in the flow notation at an indicator. There, a colon in front of an
indicator makes it no plain text at all. -/
def plainPiece? (inFlow : Bool) : List Char → Option Nat
  | [] => some 0
  | x :: rest =>
    if isSpace x || (x = ':' && endsWord rest) then some 0
    else if inFlow && x = ':' && rest.head?.any (fun y => isFlowIndicator y || y = '?') then none
    else if inFlow && isFlowIndicator x then some 0
    else (plainPiece? inFlow rest).map (· + 1)

/-- A plain scalar, and where it leads. -/
structure PlainText where
  text : String
  /-- Behind the white space that follows the scalar. -/
  cursor : Cursor
  /-- Whether that white space has a line break in it. -/
  endsLine : Bool

/-- The scalar with the given characters, last character first. -/
def PlainText.ofReversed (done : List Char) (cursor : Cursor) (endsLine : Bool) : PlainText :=
  ⟨String.ofList done.reverse, cursor, endsLine⟩

/-- Reads plain text behind what is already read. That is in `done`, last character first. The lines
are indented to `indent` at least. -/
def PlainText.readOn (inFlow : Bool) (indent : Nat) (done : List Char) (g : Gap) (c : Cursor) :
    Except Fault PlainText :=
  if c.atDocumentMarker || c.next? = some '#' then .ok (ofReversed done c g.hasBreak)
  else
    match _h : plainPiece? inFlow c.rest with
    | none => c.fail .misplacedColon
    | some 0 => .ok (ofReversed done c g.hasBreak)
    | some (n + 1) =>
      let done := (c.rest.take (n + 1)).reverse ++ (g.folded.reverse ++ done)
      let last := (c.skip (n + 1)).look 2
      if !last.next?.any isSpace then .ok (ofReversed done last false)
      else
        match _g : Gap.read indent (.spaces []) last with
        | .error fault => .error fault
        | .ok (gap, next) =>
          if inFlow || indent ≤ next.mark.column then
            readOn inFlow indent done gap (next.look 4)
          else .ok (ofReversed done (next.look 1) gap.hasBreak)
termination_by c.rest.length
decreasing_by
  have hc : c.rest ≠ [] := fun hc => by simp [hc, plainPiece?] at _h
  have hlast : last.rest.length < c.rest.length := Cursor.length_skip_lt hc (Nat.succ_pos n)
  rw [Cursor.rest_look]
  exact Nat.lt_of_le_of_lt (Gap.length_le_of_read _g) hlast

/-- Reads a plain scalar. -/
def PlainText.read (inFlow : Bool) (indent : Nat) (c : Cursor) : Except Fault PlainText :=
  PlainText.readOn inFlow indent [] (.spaces []) c

/-- The characters that an escape of one letter stands for. -/
def simpleEscape? : Char → Option Char
  | '0' => some '\x00'
  | 'a' => some '\x07'
  | 'b' => some '\x08'
  | 't' | '\t' => some '\t'
  | 'n' => some '\n'
  | 'v' => some '\x0b'
  | 'f' => some '\x0c'
  | 'r' => some '\r'
  | 'e' => some '\x1b'
  | ' ' => some ' '
  | '"' => some '"'
  | '/' => some '/'
  | '\\' => some '\\'
  | 'N' => some '\u0085'
  | '_' => some '\u00a0'
  | 'L' => some '\u2028'
  | 'P' => some '\u2029'
  | _ => none

/-- The number of hexadecimal digits in an escape that gives a character's number. -/
def escapeWidth? : Char → Option Nat
  | 'x' => some 2
  | 'u' => some 4
  | 'U' => some 8
  | _ => none

/-- Reads an escape, behind its backslash: the character and the length of the escape. -/
def escape? : List Char → Option (Char × Nat)
  | [] => none
  | x :: rest =>
    match simpleEscape? x, escapeWidth? x with
    | some y, _ => some (y, 1)
    | none, none => none
    | none, some width =>
      let digits := rest.take width
      match natural? 16 digits with
      | some n =>
        if digits.length = width && n.isValidChar then some (Char.ofNat n, width + 1) else none
      | none => none

/-- Reads text up to a closing quote. `done` is what is already read, last character first. -/
def quotedOn (double : Bool) (done : List Char) (c : Cursor) : Except Fault (String × Cursor) :=
  if c.atDocumentMarker then c.fail .markerInQuotes
  else
    match _h : c.rest with
    | [] => c.fail .unclosedQuote
    | x :: rest =>
      if _x : isSpace x then
        match _g : Gap.read 0 (.spaces []) c with
        | .error fault => .error fault
        | .ok (gap, next) => quotedOn double (gap.folded.reverse ++ done) (next.look 4)
      else if x = '\'' && !double then
        if rest.head? = some '\'' then quotedOn double ('\'' :: done) ((c.skip 2).look 2)
        else .ok (String.ofList done.reverse, c.skip 1)
      else if x = '"' && double then .ok (String.ofList done.reverse, c.skip 1)
      else if x = '\\' && double then
        match _b : (c.skip 1).lineBreak? with
        | some (_, d) =>
          match _g : Gap.read 0 (.lines none []) d with
          | .error fault => .error fault
          | .ok (gap, next) =>
            -- A quote right behind an escaped line break is met before the look ahead.
            let ahead := if d.next? = some '"' then 1 else 4
            quotedOn double (gap.folded.reverse ++ done) (next.look ahead)
        | none =>
          match escape? rest with
          | some (y, n) => quotedOn double (y :: done) ((c.skip (n + 1)).look 2)
          | none => c.fail .badEscape
      else quotedOn double (x :: done) ((c.skip 1).look 2)
termination_by c.rest.length
decreasing_by
  · rw [Cursor.rest_look]
    exact Gap.length_lt_of_read (by simp [_h]) _x _g
  · exact Cursor.length_skip_lt (by simp [_h]) (by decide)
  · rw [Cursor.rest_look]
    exact Nat.lt_of_le_of_lt (Gap.length_le_of_read _g)
      (Nat.lt_of_lt_of_le (Cursor.length_lt_of_lineBreak? _b) (Cursor.length_skip_le 1 c))
  · exact Cursor.length_skip_lt (by simp [_h]) (Nat.succ_pos n)
  · exact Cursor.length_skip_lt (by simp [_h]) (by decide)

/-- Reads a quoted scalar, behind its opening quote. -/
def quoted (double : Bool) (c : Cursor) : Except Fault (String × Cursor) :=
  quotedOn double [] (c.look 4)

end VideoReceiver.Yaml
