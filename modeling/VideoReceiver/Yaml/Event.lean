import VideoReceiver.Yaml.Scalar
import VideoReceiver.Yaml.Token.Lexer

/-!
# Events of a document

The nodes of a document in the order of the text: scalars, references, and the starts and ends of
collections. Events that come before a fault are kept.

## Main definitions

- `Yaml.Event`: the events
- `Yaml.Grammar`: a reader of tokens that emits events
- `Yaml.EventStream.ofText`: the events of the first document of a text
-/

namespace VideoReceiver.Yaml

/-- A step through the nodes of a document. -/
inductive Event where
  | alias (name : String)
  | scalar (anchor : Option String) (scalar : Scalar)
  | sequenceStart (anchor : Option String) (tag : Option Tag)
  | sequenceEnd
  | mappingStart (anchor : Option String) (tag : Option Tag)
  | mappingEnd
  deriving Repr

/-- An event and where its node starts. -/
structure Step where
  event : Event
  mark : Mark
  deriving Repr

/-- The state of reading a document: the tokens that are left and the events so far. -/
structure Parse where
  tokens : List (Located Token)
  /-- What is wrong behind the last token. -/
  fault : Option Fault
  /-- What the handles of tags are short for. -/
  handles : List (String × Tag) := []
  events : Array Step := #[]

/-- A reader of tokens. The events that it emits survive its failure. -/
abbrev Grammar (α : Type) := EStateM Fault Parse α

namespace Grammar

/-- Looks at the next token. -/
def peek : Grammar (Located Token) := fun p =>
  match p.tokens with
  | t :: _ => .ok t p
  | [] => .error (p.fault.getD ⟨.incomplete, {}⟩) p

/-- Passes over the next token. -/
def advance : Grammar Unit := modify fun p => { p with tokens := p.tokens.drop 1 }

/-- Emits an event. -/
def emit (event : Event) (mark : Mark) : Grammar Unit :=
  modify fun p => { p with events := p.events.push ⟨event, mark⟩ }

/-- Emits the scalar that stands for a missing node. -/
def emitEmpty (mark : Mark) : Grammar Unit := emit (.scalar none {}) mark

/-- Stops at the token `t`. -/
def fail {α : Type} (t : Located Token) (cause : FaultCause) : Grammar α := throw ⟨cause, t.start⟩

/-- The anchor and the tag in front of a node, and where they start. -/
structure Properties where
  anchor : Option String := none
  tag : Option (String × Tag) := none
  start : Option Mark := none

/-- Reads a tag, if one stands here. -/
def tag? : Grammar (Option (String × Tag) × Mark) := do
  let t ← peek
  match t.value with
  | .tag handle suffix => advance; return (some (handle, suffix), t.start)
  | _ => return (none, t.start)

/-- Reads an anchor, if one stands here. -/
def anchor? : Grammar (Option String × Mark) := do
  let t ← peek
  match t.value with
  | .anchor name => advance; return (some name, t.start)
  | _ => return (none, t.start)

/-- Reads an anchor and a tag, in either order, and says where they or the node start. -/
def properties : Grammar (Option String × Option (String × Tag) × Mark) := do
  match ← anchor? with
  | (some name, start) =>
    let (tag, _) ← tag?
    return (some name, tag, start)
  | (none, start) =>
    match ← tag? with
    | (none, _) => return (none, none, start)
    | (some tag, _) =>
      let (name, _) ← anchor?
      return (name, some tag, start)

/-- The full text of a tag. -/
def expandTag (t : Located Token) : Option (String × Tag) → Grammar (Option Tag)
  | none => return none
  | some ("", suffix) => return some suffix
  | some (handle, suffix) => do
    match (← get).handles.lookup handle with
    | some expansion => return some (expansion.append suffix)
    | none => fail t .undefinedTagHandle

/-- What may be written at a place. -/
structure Place where
  /-- Whether block collections may stand here. -/
  block : Bool
  /-- Whether a sequence may stand here that is not indented deeper than its surroundings. -/
  unindented : Bool

/-- Inside flow collections. -/
def Place.flow : Place := ⟨false, false⟩

/-- In a block sequence or at the root. -/
def Place.item : Place := ⟨true, false⟩

/-- In a block mapping. -/
def Place.entry : Place := ⟨true, true⟩

mutual

/-- Reads a node. -/
def node (place : Place) : Nat → Grammar Unit
  | 0 => do fail (← peek) .incomplete
  | fuel + 1 => do
    let t ← peek
    if let .alias name := t.value then
      emit (.alias name) t.start
      advance
    else
      let (anchor, tag, start) ← properties
      let t ← peek
      let tag ← expandTag t tag
      match t.value, place.block with
      | .scalar style text, _ =>
        emit (.scalar anchor ⟨tag, style, text⟩) start
        advance
      | .flowSequenceStart, _ =>
        emit (.sequenceStart anchor tag) start
        advance
        flowSequence true fuel
      | .flowMappingStart, _ =>
        emit (.mappingStart anchor tag) start
        advance
        flowMapping true fuel
      | .blockSequenceStart, true =>
        emit (.sequenceStart anchor tag) start
        advance
        blockSequence fuel
      | .blockMappingStart, true =>
        emit (.mappingStart anchor tag) start
        advance
        blockMapping fuel
      | token, _ =>
        if place.unindented && token = .blockEntry then
          emit (.sequenceStart anchor tag) start
          unindentedSequence fuel
        else if anchor.isSome || tag.isSome then emit (.scalar anchor { tag }) start
        else fail t .expectedContent

/-- Reads a node, unless one of `ends` shows that there is none: then the empty scalar at `mark`, or
at the token that follows, stands for it. -/
def nodeOrEmpty (place : Place) (ends : List Token) (mark : Option Mark) : Nat → Grammar Unit
  | 0 => do fail (← peek) .incomplete
  | fuel + 1 => do
    let t ← peek
    if ends.contains t.value then emitEmpty (mark.getD t.start) else node place fuel

/-- Reads the entries of a block sequence and its end. -/
def blockSequence : Nat → Grammar Unit
  | 0 => do fail (← peek) .incomplete
  | fuel + 1 => do
    let t ← peek
    match t.value with
    | .blockEntry =>
      advance
      nodeOrEmpty .item [.blockEntry, .blockEnd] t.stop fuel
      blockSequence fuel
    | .blockEnd =>
      emit .sequenceEnd t.start
      advance
    | _ => fail t .expectedEntry

/-- Reads the entries of a sequence that is not indented. Any other token ends it. -/
def unindentedSequence : Nat → Grammar Unit
  | 0 => do fail (← peek) .incomplete
  | fuel + 1 => do
    let t ← peek
    match t.value with
    | .blockEntry =>
      advance
      nodeOrEmpty .item [.blockEntry, .key, .value, .blockEnd] t.stop fuel
      unindentedSequence fuel
    | _ => emit .sequenceEnd t.start

/-- Reads the entries of a block mapping and its end. -/
def blockMapping : Nat → Grammar Unit
  | 0 => do fail (← peek) .incomplete
  | fuel + 1 => do
    let t ← peek
    match t.value with
    | .key =>
      advance
      nodeOrEmpty .entry [.key, .value, .blockEnd] t.stop fuel
      let v ← peek
      if v.value = .value then
        advance
        nodeOrEmpty .entry [.key, .value, .blockEnd] v.stop fuel
      else emitEmpty v.start
      blockMapping fuel
    | .blockEnd =>
      emit .mappingEnd t.start
      advance
    | _ => fail t .expectedKey

/-- Reads the value in a flow collection, behind its key. -/
def flowValue (ends : List Token) : Nat → Grammar Unit
  | 0 => do fail (← peek) .incomplete
  | fuel + 1 => do
    let v ← peek
    if v.value = .value then
      advance
      nodeOrEmpty .flow ends none fuel
    else emitEmpty v.start

/-- Reads the entries of a flow sequence and its end. An entry with a key is a mapping of one
entry. -/
def flowSequence (isFirst : Bool) : Nat → Grammar Unit
  | 0 => do fail (← peek) .incomplete
  | fuel + 1 => do
    let t ← peek
    if t.value = .flowSequenceEnd then
      emit .sequenceEnd t.start
      advance
    else
      if !isFirst then
        if t.value = .flowEntry then advance else fail t .expectedFlowEntry
      let t ← peek
      match t.value with
      | .flowSequenceEnd =>
        emit .sequenceEnd t.start
        advance
      | .key =>
        emit (.mappingStart none none) t.start
        advance
        let k ← peek
        if [Token.value, .flowEntry, .flowSequenceEnd].contains k.value then
          advance
          emitEmpty k.stop
        else node .flow fuel
        flowValue [.flowEntry, .flowSequenceEnd] fuel
        emit .mappingEnd (← peek).start
        flowSequence false fuel
      | _ =>
        node .flow fuel
        flowSequence false fuel

/-- Reads the entries of a flow mapping and its end. An entry without a key indicator has no
value. -/
def flowMapping (isFirst : Bool) : Nat → Grammar Unit
  | 0 => do fail (← peek) .incomplete
  | fuel + 1 => do
    let t ← peek
    if t.value = .flowMappingEnd then
      emit .mappingEnd t.start
      advance
    else
      if !isFirst then
        if t.value = .flowEntry then advance else fail t .expectedFlowEntry
      let t ← peek
      match t.value with
      | .flowMappingEnd =>
        emit .mappingEnd t.start
        advance
      | .key =>
        advance
        nodeOrEmpty .flow [.value, .flowEntry, .flowMappingEnd] none fuel
        flowValue [.flowEntry, .flowMappingEnd] fuel
        flowMapping false fuel
      | _ =>
        node .flow fuel
        emitEmpty (← peek).start
        flowMapping false fuel

end

/-- The handles that need no directive. -/
def standardHandles : List (String × Tag) :=
  [("!", Tag.bare), ("!!", Tag.ofText CoreTag.authority)]

/-- Reads the directives in front of a document. Each may stand there once. -/
def directives (versioned : Bool) : Nat → Grammar Unit
  | 0 => do fail (← peek) .incomplete
  | fuel + 1 => do
    let t ← peek
    match t.value with
    | .versionDirective major minor =>
      if versioned then fail t .repeatedDirective
      else if major = 1 && (minor = 1 || minor = 2) then
        advance
        directives true fuel
      else fail t .unsupportedVersion
    | .tagDirective handle expansion =>
      if ((← get).handles.lookup handle).isSome then fail t .repeatedDirective
      else
        modify fun p => { p with handles := p.handles ++ [(handle, expansion)] }
        advance
        directives versioned fuel
    | _ => modify fun p => { p with handles := p.handles ++ standardHandles }

/-- Whether a token belongs to what stands between documents. -/
def isBetween : Token → Bool
  | .versionDirective .. | .tagDirective .. | .documentStart | .documentEnd | .streamEnd => true
  | _ => false

/-- Reads the first document up to its end. -/
def document (fuel : Nat) : Grammar Unit := do
  let t ← peek
  match t.value with
  | .streamEnd => return
  | .versionDirective .. | .tagDirective .. | .documentStart =>
    directives false fuel
    let t ← peek
    if t.value = .documentStart then advance else fail t .expectedDocumentStart
    let t ← peek
    if isBetween t.value then emitEmpty t.start else node .item fuel
  | _ =>
    directives false fuel
    node .item fuel
  if (← peek).value = .documentEnd then advance

end Grammar

/-- The events of the first document of a text. -/
structure EventStream where
  events : List Step
  /-- What cuts the document short. -/
  fault : Option Fault
  /-- What follows the document, if anything does. -/
  excess : Option Fault

namespace EventStream

/-- What follows the first document: nothing, another one, or a fault. -/
def excess? (p : Parse) : Option Fault :=
  match p.tokens.dropWhile (·.value = .documentEnd) with
  | [] => p.fault
  | t :: _ => if t.value = .streamEnd then none else some ⟨.severalDocuments, t.start⟩

/-- Reads the first document of a text. Each step of the grammar passes over a token or is the last
but few. -/
def ofText (text : List Char) : EventStream :=
  let stream := TokenStream.ofText text
  let start : Parse := { tokens := stream.tokens, fault := stream.fault }
  match Grammar.document (4 * stream.tokens.length + 8) start with
  | .ok () p => ⟨p.events.toList, none, excess? p⟩
  | .error fault p => ⟨p.events.toList, some fault, none⟩

end EventStream

end VideoReceiver.Yaml
