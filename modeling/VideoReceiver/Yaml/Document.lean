import VideoReceiver.Yaml.Event

/-!
# Documents

The nodes of a document with references replaced by what they refer to.

## Main definitions

- `Yaml.Node`: what a reader sees of a node when it gets to it
- `Yaml.Document`: the nodes of the first document of a text, in order
- `Yaml.Anchors`: the nodes that can be referred to
-/

namespace VideoReceiver.Yaml

/-- A node, as far as it shows at its start. -/
inductive Head where
  | scalar (s : Scalar)
  | sequence (tag : Option Tag)
  | mapping (tag : Option Tag)
  deriving Repr

/-- A node and its place. -/
structure Node where
  head : Head
  mark : Mark
  /-- Where the reference stands that stands for the node, if one does. -/
  usedAt : Option Mark := none
  deriving Repr

/-- A node starts, or a collection ends. -/
inductive Item where
  | node (n : Node)
  /-- The node with the given number stands here too. -/
  | reference (number : Nat) (mark : Mark)
  | close
  deriving Repr

/-- What can be referred to. Each anchor has a number, and each number a node. -/
structure Anchors where
  numbers : List (String × Nat) := []
  nodes : List (Nat × Node) := []

namespace Anchors

/-- The number of a name. -/
def number? (name : String) (a : Anchors) : Option Nat := List.lookup name a.numbers

/-- The node that has a number last. -/
def node? (number : Nat) (a : Anchors) : Option Node := List.lookup number a.nodes

/-- Gives a name to a node. Its number is the count of the names so far, also when the name is among
them; the node takes the place of an earlier one with that number. -/
def add (name : Option String) (n : Node) (a : Anchors) : Anchors :=
  match name with
  | none => a
  | some name =>
    let number := a.numbers.length
    { numbers := (name, number) :: a.numbers.filter (·.1 != name)
      nodes := (number, n) :: a.nodes }

/-- Puts the node in place of a reference to it. -/
def resolve (a : Anchors) : Item → Item
  | .reference number mark =>
    (a.node? number).elim .close fun n => .node { n with usedAt := some mark }
  | item => item

end Anchors

/-- The first document of a text. -/
structure Document where
  items : List Item
  /-- What cuts the document short. -/
  fault : Option Fault
  /-- What follows the document, if anything does. -/
  excess : Option Fault

namespace Document

/-- Numbers the anchors and the references, up to the first reference to an unknown anchor, which is
a fault. -/
def number (a : Anchors) : List Step → List Item × Anchors × Option Fault
  | [] => ([], a, none)
  | ⟨event, mark⟩ :: rest =>
    let define (name : Option String) (head : Head) : List Item × Anchors × Option Fault :=
      let n : Node := { head, mark }
      let (items, a, fault) := number (a.add name n) rest
      (.node n :: items, a, fault)
    match event with
    | .alias name =>
      match a.number? name with
      | some i =>
        let (items, a, fault) := number a rest
        (.reference i mark :: items, a, fault)
      | none => ([], a, some ⟨.undefinedAlias, mark⟩)
    | .scalar name s => define name (.scalar s)
    | .sequenceStart name tag => define name (.sequence tag)
    | .mappingStart name tag => define name (.mapping tag)
    | .sequenceEnd | .mappingEnd =>
      let (items, a, fault) := number a rest
      (.close :: items, a, fault)

/-- Reads the first document of a text. A reference stands for the node that has its number in the
end. -/
def ofText (text : List Char) : Document :=
  let stream := EventStream.ofText text
  let (items, anchors, fault) := number {} stream.events
  ⟨items.map anchors.resolve, fault.orElse fun _ => stream.fault, stream.excess⟩

end Document

end VideoReceiver.Yaml
