import VideoReceiver.AnnexB
import VideoReceiver.Config.Fault
import VideoReceiver.Config.Settings
import VideoReceiver.Text.Blank
import VideoReceiver.Yaml.Document
import VideoReceiver.Yaml.Scalar.Value

/-!
# Reading settings

Settings are a mapping with at most one entry per field. Entries are read in the order of the text,
and the first misfit counts, even if the notation is at fault further on.

## Main definitions

- `ReceiverConfig.ofDocument`: the settings in a document
- `ReceiverConfig.ofYaml`: the settings in a text
- `ReceiverConfig.ofFile`: the settings in a file
-/

namespace VideoReceiver

namespace ReceiverConfig

open Yaml

/-- What a tag's wrong text should have been. -/
def demand : CoreTag → String
  | .bool => "a boolean"
  | .int => "an integer"
  | .float => "a float"
  | .null => "null"

/-- The misfit of a node that is not of the expected kind. -/
def wrongKind (expected : String) : Head → ConfigMisfit
  | .sequence _ => .wrongKind "sequence" expected
  | .mapping _ => .wrongKind "map" expected
  | .scalar s =>
    match s.value with
    | .ok v => .wrongKind v.describe expected
    | .error e => .wrongValue (Value.string e.text).describe (demand e.tag)

/-- Reads a truth value. -/
def readBool (head : Head) : Except ConfigMisfit Bool :=
  let found? := match head with
    | .scalar s => if s.mayBe .bool then truth? s.text else none
    | _ => none
  found?.elim (.error (wrongKind "a boolean" head)) .ok

/-- Reads a port. -/
def readPort (head : Head) : Except ConfigMisfit UInt16 :=
  let found? := match head with
    | .scalar s =>
      if s.mayBe .int then (unsigned? s.text.toList).filter (· < 0x10000000000000000) else none
    | _ => none
  match found? with
  | some n =>
    if n < 0x10000 then .ok n.toUInt16 else .error (.wrongValue (Value.integer n).describe "u16")
  | none => .error (wrongKind "u16" head)

/-- Reads a text. Every scalar is one. -/
def readText : Head → Except ConfigMisfit String
  | .scalar s => .ok s.text
  | head => .error (wrongKind "a string" head)

/-- The tag of a node. -/
def tag? : Head → Option Tag
  | .scalar s => s.tag
  | .sequence tag | .mapping tag => tag

/-- Reads a codec that is spelled out as a scalar. -/
def readSpelling : Head → Except ConfigMisfit Codec
  | .scalar s => (Codec.ofName? s.text).elim (.error (.unknownCodec s.text)) .ok
  | head => .error (wrongKind "a YAML tag starting with '!'" head)

/-- Whether a node has nothing in it. -/
def isVoid : Head → Bool
  | .scalar s => s.style = .plain && (s.text.isEmpty || isNull s.text)
  | _ => false

/-- The misfit of a node that should have nothing in it. -/
def notVoid : Head → ConfigMisfit
  | .scalar s => .wrongValue (Value.string s.text).describe (demand .null)
  | head => wrongKind "unit" head

/-- Reads a codec: a spelling, or a local tag that is one and has nothing behind it. A tag that is
none is a complaint about the reference to the node or else about the whole mapping. -/
def readCodec (key : String) (root : Mark) (n : Node) : Except ConfigFault Codec :=
  match (tag? n.head).bind Tag.localName? with
  | none =>
    match readSpelling n.head with
    | .ok c => .ok c
    | .error misfit => complain (some key) n.mark misfit
  | some name =>
    match Codec.ofName? name, n.usedAt with
    | some c, _ => if isVoid n.head then .ok c else complain (some key) n.mark (notVoid n.head)
    | none, some mark => complain (some key) mark (.unknownCodec name)
    | none, none => complain none root (.unknownCodec name)

/-- Reads the value of a field. -/
def readField (key : String) (root : Mark) (n : Node) (c : ReceiverConfig) :
    ConfigField → Except ConfigFault ReceiverConfig
  | .codec => (readCodec key root n).map fun codec => { c with codec }
  | .keyframeRequests =>
    match readBool n.head with
    | .ok keyframeRequests => .ok { c with keyframeRequests }
    | .error misfit => complain (some key) n.mark misfit
  | .repairPort =>
    match readPort n.head with
    | .ok repairPort => .ok { c with repairPort }
    | .error misfit => complain (some key) n.mark misfit
  | .logFilter =>
    match readText n.head with
    | .ok logFilter => .ok { c with logFilter }
    | .error misfit => complain (some key) n.mark misfit

/-- Reads the name of a field. -/
def readKey (n : Node) : Except ConfigFault ConfigField :=
  match n.head with
  | .scalar s => (ConfigField.ofName? s.text).elim (complain none n.mark (.unknownField s.text)) .ok
  | head => complain none n.mark (wrongKind "field identifier" head)

/-- How a key is called in complaints about its value. A reference has no name of its own. -/
def keyName (n : Node) : String :=
  match n.usedAt, n.head with
  | none, .scalar s => s.text
  | _, _ => "?"

/-- What cuts a document short. -/
def cut (fault : Option Fault) : ConfigFault := .unreadable (fault.getD ⟨.incomplete, {}⟩)

/-- Reads entries up to the end of the mapping that starts at `root`. Fields that are not among them
keep their value in `c`. -/
def readEntries (root : Mark) (fault : Option Fault) (seen : List ConfigField)
    (c : ReceiverConfig) : List Item → Except ConfigFault ReceiverConfig
  | .node k :: rest => do
    let field ← readKey k
    if seen.contains field then complain none root (.duplicateField field)
    match rest with
    | .node n :: rest =>
      let c ← readField (keyName k) root n c field
      readEntries root fault (field :: seen) c rest
    | _ => .error (cut fault)
  | .close :: _ => .ok c
  | _ => .error (cut fault)

/-- Reads the settings in a document. A document that is empty, or whose only scalar is, has no
entries; quotes around nothing make a scalar all the same. -/
def ofDocument (d : Document) : Except ConfigFault ReceiverConfig := do
  let c ← match d.items with
    | .node ⟨.mapping _, mark, _⟩ :: rest => readEntries mark d.fault [] {} rest
    | .node ⟨.scalar { text := "", style := .plain, .. }, _, _⟩ :: _ => pure {}
    | .node n :: _ => complain none n.mark (wrongKind "struct ReceiverConfig" n.head)
    | _ => if d.fault.isSome then .error (cut d.fault) else pure {}
  match d.fault, d.excess with
  | some fault, _ => .error (.unreadable fault)
  | none, some _ => .error (.unreadable ⟨.severalDocuments, {}⟩)
  | none, none => return c

/-- Reads the settings in a text. A blank text has no entries, whatever it is made of. -/
def ofYaml (text : String) : Except ReceiverError ReceiverConfig :=
  if Text.isBlankText text.toList then .ok {}
  else
    match ofDocument (Document.ofText text.toList) with
    | .error fault => .error (.config "YAML" fault.text)
    | .ok c => c.validate.map fun _ => c

/-- Reads the settings in a file, given its content or the fault of reading it. -/
def ofFile (path : String) (content : Except IoFault Bytes) : Except ReceiverError ReceiverConfig :=
  match content with
  | .error fault => .error (.file path fault)
  | .ok bytes =>
    match String.fromUTF8? ⟨bytes.toArray⟩ with
    | some text => ofYaml text
    | none => .error (.file path ⟨.invalidData, "stream did not contain valid UTF-8"⟩)

end ReceiverConfig

end VideoReceiver
