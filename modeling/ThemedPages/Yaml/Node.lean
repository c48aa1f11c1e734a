import ThemedPages.Yaml.Event

/-!
# YAML nodes

The tree that the events of a document describe, and the nodes that its aliases stand for.

An anchor's name is numbered by the count of different names before it, so a name that is anchored
a second time may take a number that a later name takes too; a number stands for the node that
took it last. Aliases are numbers, and may stand within the node that they stand for.
-/

namespace ThemedPages.Yaml

/-- A node. -/
inductive Node
  | alias (number : Nat)
  | scalar (tag : Option String) (text : String) (style : ScalarStyle)
  | sequence (tag : Option String) (items : List Node)
  /-- Keys and values in turn. -/
  | mapping (tag : Option String) (sides : List Node)
  deriving Repr, Inhabited

/-- A document: its node, the nodes that have anchors, and the number of its events. -/
structure Graph where
  root : Node
  anchored : List (Nat × Node)
  size : Nat
  deriving Repr

/-- The node that a number stands for. -/
def Graph.node? (g : Graph) (number : Nat) : Option Node := g.anchored.lookup number

/-- A sequence or mapping that has not ended. -/
structure OpenNode where
  isMapping : Bool
  props : Properties
  /-- The place of its first event. -/
  start : Nat
  /-- What it holds so far, last first. -/
  inner : List Node := []

/-- What is known while the events are read. -/
structure Partial where
  /-- The open nodes, the innermost first. -/
  frames : List OpenNode := []
  /-- The node of the document, once it is complete. -/
  root : Option Node := none
  /-- Names of anchors and their numbers. -/
  names : List (String × Nat) := []
  /-- Numbers and the places of the nodes that took them, the last first. -/
  places : List (Nat × Nat) := []
  /-- Complete nodes that have anchors, by their places. -/
  complete : List (Nat × Node) := []

namespace Partial

/-- Number an anchor, if a node that starts at a place has one. -/
def named (p : Partial) (props : Properties) (place : Nat) : Partial :=
  match props.anchor with
  | none => p
  | some name =>
    let number := p.names.length
    { p with
      names := (name, number) :: p.names.filter fun r => r.1 != name
      places := (number, place) :: p.places }

/-- Put a complete node where it belongs. -/
def add (p : Partial) (node : Node) : Partial :=
  match p.frames with
  | [] => { p with root := some node }
  | f :: rest => { p with frames := { f with inner := node :: f.inner } :: rest }

/-- Put a complete node where it belongs, and keep it if it has an anchor. -/
def addAnchored (p : Partial) (props : Properties) (place : Nat) (node : Node) : Partial :=
  let p := if props.anchor.isSome then { p with complete := (place, node) :: p.complete } else p
  p.add node

/-- Read the event at a place. -/
def step? (p : Partial) (place : Nat) : Event → Option Partial
  | .alias name => (p.names.lookup name).map fun number => p.add (.alias number)
  | .scalar props text style =>
    some ((p.named props place).addAnchored props place (.scalar props.tag text style))
  | .sequenceStart props =>
    some { p.named props place with frames := ⟨false, props, place, []⟩ :: p.frames }
  | .mappingStart props =>
    some { p.named props place with frames := ⟨true, props, place, []⟩ :: p.frames }
  | .sequenceEnd | .mappingEnd =>
    match p.frames with
    | [] => none
    | f :: rest =>
      let inner := f.inner.reverse
      let node := if f.isMapping then .mapping f.props.tag inner else .sequence f.props.tag inner
      some ({ p with frames := rest }.addAnchored f.props f.start node)

/-- Read events from a place on. -/
def steps? (p : Partial) (place : Nat) : List Event → Option Partial
  | [] => some p
  | e :: rest => (p.step? place e).bind fun p => p.steps? (place + 1) rest

end Partial

/-- The document that events describe; an alias has to come after its anchor. -/
def Graph.ofEvents? (events : List Event) : Option Graph := do
  let p ← ({} : Partial).steps? 0 events
  let anchored := p.places.filterMap fun (number, place) =>
    (p.complete.lookup place).map fun node => (number, node)
  return ⟨← p.root, anchored, events.length⟩

end ThemedPages.Yaml
