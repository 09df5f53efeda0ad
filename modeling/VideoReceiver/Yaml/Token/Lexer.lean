import VideoReceiver.Yaml.Portion
import VideoReceiver.Yaml.Token.BlockText
import VideoReceiver.Yaml.Token.FlowText
import VideoReceiver.Yaml.Token.Property

/-!
# From text to tokens

A scalar may turn out to be a key only when a colon follows it. So a token waits in a queue as long
as the start of a mapping may still have to be put in front of it, and is released after that.
Whatever was released before a fault is still of use.

## Main definitions

- `Yaml.PendingKey`: a token that a colon could turn into a key
- `Yaml.Lexer`: the state between two tokens
- `Yaml.TokenStream.ofText`: the tokens of a text, and the fault that ends them, if there is one
-/

namespace VideoReceiver.Yaml

/-- A token that a colon on the same line turns into a key. -/
structure PendingKey where
  /-- How many flow collections are open around it. -/
  depth : Nat
  /-- How many tokens come before it. -/
  position : Nat
  mark : Mark
  /-- Whether it has to become a key, because it stands where keys stand. -/
  required : Bool

/-- Whether a key that starts at `k` can no longer end at `m`: it stays on one line and is short. -/
def PendingKey.isStale (k : PendingKey) (m : Mark) : Bool :=
  k.mark.line < m.line || k.mark.index + 1024 < m.index

/-- The tokens of a text, up to its end or to a fault. -/
structure TokenStream where
  tokens : List (Located Token)
  /-- What is wrong behind the last token. -/
  fault : Option Fault

/-- The state between two tokens. -/
structure Lexer where
  cursor : Cursor
  /-- The tokens that are final, last one first. -/
  released : List (Located Token) := []
  /-- The number of those. -/
  count : Nat := 0
  /-- The tokens behind those. -/
  queue : List (Located Token) := []
  /-- Whether a key may start here. -/
  keyAllowed : Bool := true
  /-- How many flow collections are open. -/
  depth : Nat := 0
  /-- The pending keys, innermost first. There is at most one at each depth. -/
  keys : List PendingKey := []
  /-- The columns of the block collections that are open, innermost first. -/
  indents : List Nat := []
  finished : Bool := false

namespace Lexer

/-- Whether a flow collection is open. -/
def inFlow (l : Lexer) : Bool := l.depth != 0

/-- The least column of what is nested in the innermost block collection. -/
def margin (l : Lexer) : Nat := l.indents.head?.elim 0 (· + 1)

/-- The position of the next token. -/
def position (l : Lexer) : Nat := l.count + l.queue.length

/-- Stops at the current place. -/
def fail {α : Type} (l : Lexer) (cause : FaultCause) : Except Fault α := l.cursor.fail cause

/-- Appends a token that ends where `next` starts, and goes on there. -/
def push (token : Token) (next : Cursor) (l : Lexer) : Lexer :=
  { l with queue := l.queue ++ [⟨token, l.cursor.mark, next.mark⟩], cursor := next }

/-- Appends a token without text. -/
def pushEmpty (token : Token) (l : Lexer) : Lexer := l.push token l.cursor

/-- Puts a token without text at the given position. -/
def insert (position : Nat) (token : Token) (mark : Mark) (l : Lexer) : Lexer :=
  { l with queue := l.queue.insertIdx (position - l.count) ⟨token, mark, mark⟩ }

/-- Opens a block collection at the given position and place if the column is deeper than that of
the innermost one. -/
def openBlock (position : Nat) (token : Token) (mark : Mark) (l : Lexer) : Lexer :=
  if !l.inFlow && l.margin ≤ mark.column then
    { l.insert position token mark with indents := mark.column :: l.indents }
  else l

/-- Closes the block collections that are deeper than `column`, or all of them. -/
def closeBlocks (column : Option Nat) (l : Lexer) : Lexer :=
  if l.inFlow then l
  else
    let deeper := l.indents.takeWhile fun i => column.all (· < i)
    { l with
      queue := l.queue ++ deeper.map fun _ => ⟨.blockEnd, l.cursor.mark, l.cursor.mark⟩
      indents := l.indents.drop deeper.length }

/-- The pending key of the innermost collection. -/
def key? (l : Lexer) : Option PendingKey := l.keys.head?.filter (·.depth = l.depth)

/-- Forgets the pending key of the innermost collection. -/
def forgetKey (l : Lexer) : Lexer := { l with keys := l.keys.dropWhile (·.depth = l.depth) }

/-- Gives up the pending key of the innermost collection. -/
def dropKey (l : Lexer) : Except Fault Lexer :=
  if l.key?.any (·.required) then l.fail .missingColon else .ok l.forgetKey

/-- Gives up all pending keys that are stale. -/
def dropStaleKeys (l : Lexer) : Except Fault Lexer :=
  let (stale, fresh) := l.keys.partition (·.isStale l.cursor.mark)
  if stale.any (·.required) then l.fail .missingColon else .ok { l with keys := fresh }

/-- Notes that the next token may be a key, if a key is allowed here. -/
def saveKey (l : Lexer) : Except Fault Lexer :=
  if l.keyAllowed then do
    let required := !l.inFlow && l.margin = l.cursor.mark.column + 1
    let l ← l.dropKey
    return { l with keys := ⟨l.depth, l.position, l.cursor.mark, required⟩ :: l.keys }
  else .ok l

/-- Releases the tokens in front of the first one that may be a key. -/
def release (l : Lexer) : Lexer :=
  let isPending (i : Nat) : Bool := l.keys.any (·.position = l.count + i)
  let free := (List.range l.queue.length).takeWhile (!isPending ·)
  { l with
    released := (l.queue.take free.length).reverse ++ l.released
    count := l.count + free.length
    queue := l.queue.drop free.length }

/-- Passes over white space and comments, and over a byte order mark at the start of a line. A tab
does not count as white space where a key could start in a block collection. -/
def skipSpace (l : Lexer) : Lexer :=
  let c := if l.cursor.mark.column = 0 && l.cursor.next? = some '\ufeff' then l.cursor.skip 1
    else l.cursor
  let tabs := l.inFlow || !l.keyAllowed
  let d := (c.skipWhile fun x => x = ' ' || (tabs && x = '\t')).skipComment
  match _h : d.lineBreak? with
  | none => { l with cursor := d }
  | some (_, next) => skipSpace { l with cursor := next, keyAllowed := l.keyAllowed || !l.inFlow }
termination_by l.cursor.rest.length
decreasing_by
  refine Nat.lt_of_lt_of_le (Cursor.length_lt_of_lineBreak? _h) ?_
  refine Nat.le_trans (Cursor.length_skipComment_le _) (Nat.le_trans (Cursor.length_skip_le _ _) ?_)
  dsimp only [c]
  split
  · exact Cursor.length_skip_le 1 _
  · exact Nat.le_refl _

/-- Appends a token of `n` characters. -/
def pushShort (n : Nat) (token : Token) (l : Lexer) : Lexer := l.push token (l.cursor.skip n)

/-- Reads the end of the text, which is also the end of its last line. -/
def readEnd (l : Lexer) : Except Fault Lexer := do
  let m := l.cursor.mark
  let mark := if m.column = 0 then m else { m with line := m.line + 1, column := 0 }
  let l ← ({ l with cursor := { l.cursor with mark } }.closeBlocks none).dropKey
  return { l.pushEmpty .streamEnd with keyAllowed := false, finished := true }

/-- Reads a directive. -/
def readDirective (l : Lexer) : Except Fault Lexer := do
  let l ← (l.closeBlocks none).dropKey
  let (token, next) ← directive (l.cursor.skip 1)
  return { l.push token next with keyAllowed := false }

/-- Reads a marker between documents. -/
def readMarker (token : Token) (l : Lexer) : Except Fault Lexer := do
  let l ← (l.closeBlocks none).dropKey
  return { l.pushShort 3 token with keyAllowed := false }

/-- Reads the opening bracket of a flow collection. It may be the start of a key. -/
def openFlow (token : Token) (l : Lexer) : Except Fault Lexer := do
  let l ← l.saveKey
  return { l.pushShort 1 token with depth := l.depth + 1, keyAllowed := true }

/-- Reads the closing bracket of a flow collection. -/
def closeFlow (token : Token) (l : Lexer) : Except Fault Lexer := do
  let l ← l.dropKey
  return { l.pushShort 1 token with depth := l.depth - 1, keyAllowed := false }

/-- Reads the comma of a flow collection. -/
def readFlowEntry (l : Lexer) : Except Fault Lexer := do
  let l ← l.dropKey
  return { l.pushShort 1 .flowEntry with keyAllowed := true }

/-- Reads the hyphen of a block sequence. -/
def readBlockEntry (l : Lexer) : Except Fault Lexer := do
  if !l.inFlow && !l.keyAllowed then l.fail .misplacedEntry
  let l ← (l.openBlock l.position .blockSequenceStart l.cursor.mark).dropKey
  return { l.pushShort 1 .blockEntry with keyAllowed := true }

/-- Reads the question mark in front of a key. -/
def readKey (l : Lexer) : Except Fault Lexer := do
  if !l.inFlow && !l.keyAllowed then l.fail .misplacedKey
  let l ← (l.openBlock l.position .blockMappingStart l.cursor.mark).dropKey
  return { l.pushShort 1 .key with keyAllowed := !l.inFlow }

/-- Reads the colon in front of a value. It turns the pending key into one. -/
def readValue (l : Lexer) : Except Fault Lexer := do
  match l.key? with
  | some k =>
    -- Both go to one position: the start of the block comes last and so stands in front of the key.
    let l := (l.insert k.position .key k.mark).openBlock k.position .blockMappingStart k.mark
    return { l.forgetKey.pushShort 1 .value with keyAllowed := false }
  | none =>
    if !l.inFlow && !l.keyAllowed then l.fail .misplacedValue
    let l := l.openBlock l.position .blockMappingStart l.cursor.mark
    return { l.pushShort 1 .value with keyAllowed := !l.inFlow }

/-- Reads an anchor or alias. It may be the start of a key. -/
def readAnchor (token : String → Token) (l : Lexer) : Except Fault Lexer := do
  let l ← l.saveKey
  let (name, next) ← anchorName (l.cursor.skip 1)
  return { l.push (token name) next with keyAllowed := false }

/-- Reads a tag. It may be the start of a key. -/
def readTag (l : Lexer) : Except Fault Lexer := do
  let l ← l.saveKey
  let (token, next) ← tagToken l.inFlow l.cursor
  return { l.push token next with keyAllowed := false }

/-- Reads a literal or folded scalar. -/
def readBlockText (style : ScalarStyle) (l : Lexer) : Except Fault Lexer := do
  let l ← l.dropKey
  let (text, next) ← blockText (style = .folded) l.margin (l.cursor.skip 1)
  return { l.push (.scalar style text) next with keyAllowed := true }

/-- Reads a quoted scalar. It may be a key. -/
def readQuoted (style : ScalarStyle) (l : Lexer) : Except Fault Lexer := do
  let l ← l.saveKey
  let (text, next) ← quoted (style = .doubleQuoted) (l.cursor.skip 1)
  return { l.push (.scalar style text) next with keyAllowed := false }

/-- Reads a plain scalar. It may be a key; behind a line break another key may start. -/
def readPlain (l : Lexer) : Except Fault Lexer := do
  let l ← l.saveKey
  let plain ← PlainText.read l.inFlow l.margin l.cursor
  return { l.push (.scalar .plain plain.text) plain.cursor with keyAllowed := plain.endsLine }

/-- Whether a plain scalar may start with `x` in front of `rest`. -/
def startsPlain (inFlow : Bool) (x : Char) (rest : List Char) : Bool :=
  !(isSpace x || "-?:,[]\x7b\x7d#&*!|>'\"%@\x60".contains x) ||
    (x = '-' && !rest.head?.any isBlank) ||
    (!inFlow && (x = '?' || x = ':') && !endsWord rest)

/-- Reads the next token, together with the ends of the blocks in front of it. -/
def readToken (l : Lexer) : Except Fault Lexer := do
  let l ← l.skipSpace.dropStaleKeys
  -- A line that starts further left than a block ends the block.
  let l := { l.closeBlocks (some l.cursor.mark.column) with cursor := l.cursor.look 4 }
  let c := l.cursor
  match c.rest with
  | [] => l.readEnd
  | x :: rest =>
    let separated := endsWord rest
    if c.mark.column = 0 && x = '%' then l.readDirective
    else if c.mark.column = 0 && c.atRow 3 '-' then l.readMarker .documentStart
    else if c.mark.column = 0 && c.atRow 3 '.' then l.readMarker .documentEnd
    else if x = '[' then l.openFlow .flowSequenceStart
    else if x = '\x7b' then l.openFlow .flowMappingStart
    else if x = ']' then l.closeFlow .flowSequenceEnd
    else if x = '\x7d' then l.closeFlow .flowMappingEnd
    else if x = ',' then l.readFlowEntry
    else if x = '-' && separated then l.readBlockEntry
    else if x = '?' && (l.inFlow || separated) then l.readKey
    else if x = ':' && (l.inFlow || separated) then l.readValue
    else if x = '*' then l.readAnchor .alias
    else if x = '&' then l.readAnchor .anchor
    else if x = '!' then l.readTag
    else if x = '|' && !l.inFlow then l.readBlockText .literal
    else if x = '>' && !l.inFlow then l.readBlockText .folded
    else if x = '\'' then l.readQuoted .singleQuoted
    else if x = '"' then l.readQuoted .doubleQuoted
    else if startsPlain l.inFlow x rest then l.readPlain
    else l.fail .unexpectedCharacter

/-- Refuses a token if the reader has looked at anything behind the first `limit` octets. -/
def within (limit : Option Nat) (l : Lexer) : Except Fault Lexer :=
  if limit.any (· < l.cursor.seen) then l.fail .controlCharacter else .ok l

/-- Reads tokens up to the end or to a fault, at most `fuel` of them and without a look
behind the first `limit` octets. -/
def run (limit : Option Nat) : Nat → Lexer → TokenStream
  | 0, l => ⟨l.released.reverse, some ⟨.incomplete, l.cursor.mark⟩⟩
  | fuel + 1, l =>
    match l.readToken >>= within limit >>= dropStaleKeys with
    | .error fault => ⟨l.released.reverse, some fault⟩
    | .ok l =>
      let l := l.release
      if l.finished then ⟨l.released.reverse, none⟩ else run limit fuel l

end Lexer

/-- Reads a text. Each step reads a character at least, except for the one that reads the end. -/
def TokenStream.ofText (text : List Char) : TokenStream :=
  Lexer.run (readable? 0 0 text) (text.length + 1) { cursor := { rest := text } }

end VideoReceiver.Yaml
