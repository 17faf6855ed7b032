import AccessPolicy.Yaml.Event
import AccessPolicy.Yaml.Tag

/-! The nodes of a document and how they refer to each other. A node is known by its number
and an alias is the number of the node that it stands for, which may be a node around it.
Serial numbers tell apart nodes that computations come from. -/

namespace AccessPolicy.Yaml

inductive Content where
  | scalar (text : String)
  | sequence (items : List Nat)
  | mapping (entries : List (Nat × Nat))
  deriving DecidableEq, Repr, Inhabited

structure Node where
  tag : Tag
  content : Content
  place : Position
  serial : Nat
  deriving DecidableEq, Repr

instance : Inhabited Node := ⟨⟨.null, .scalar "", {}, 0⟩⟩

namespace Content

def kind : Content → NodeKind
  | .scalar _ => .scalar
  | .sequence _ => .sequence
  | .mapping _ => .mapping

private def pairsOf : List Nat → List (Nat × Nat)
  | key :: value :: rest => (key, value) :: pairsOf rest
  | _ => []

/-- A collection of the same kind with the given parts; keys and values alternate. -/
def withParts (parts : List Nat) : Content → Content
  | .scalar text => .scalar text
  | .sequence _ => .sequence parts
  | .mapping _ => .mapping (pairsOf parts)

end Content

/-- The nodes of a document by their numbers; the first is its root. -/
structure Graph where
  nodes : Array Node := #[]
  /-- An alias stands within the node that it stands for. -/
  isCyclic : Bool := false
  deriving Repr, Inhabited

namespace Graph

def size (g : Graph) : Nat := g.nodes.size

def node (g : Graph) (n : Nat) : Node := g.nodes[n]?.getD default

def tag (g : Graph) (n : Nat) : Tag := (g.node n).tag

def kind (g : Graph) (n : Nat) : NodeKind := (g.node n).content.kind

def entries (g : Graph) (n : Nat) : List (Nat × Nat) :=
  match (g.node n).content with
  | .mapping entries => entries
  | _ => []

def modifyNode (g : Graph) (n : Nat) (f : Node → Node) : Graph :=
  { g with nodes := g.nodes.modify n f }

def setTag (g : Graph) (n : Nat) (tag : Tag) : Graph :=
  g.modifyNode n fun node => { node with tag := tag }

def setEntries (g : Graph) (n : Nat) (entries : List (Nat × Nat)) : Graph :=
  g.modifyNode n fun node => { node with content := .mapping entries }

end Graph

def Properties.tagOr (p : Properties) (shown : Tag) : Tag :=
  match p.tag with
  | none => shown
  | some name => if name = "!" then shown else Tag.ofName name

/-- A collection of which not all parts are known yet; the latest stand first. -/
structure Frame where
  number : Nat
  parts : List Nat := []
  deriving Repr

/-- The nodes of a document so far, its open collections, innermost first, and the nodes
that its anchors name. -/
structure Composition where
  graph : Graph := {}
  frames : List Frame := []
  anchors : List (String × Nat) := []
  deriving Repr

namespace Composition

def place (number : Nat) (c : Composition) : Composition :=
  match c.frames with
  | [] => c
  | frame :: rest => { c with frames := { frame with parts := number :: frame.parts } :: rest }

def checkAnchor (properties : Properties) (place : Position) (c : Composition) :
    Except Fault Unit :=
  match properties.anchor with
  | none => .ok ()
  | some anchor =>
    if (c.anchors.lookup anchor).isSome then
      .error (.misreferenced (.repeatedAnchor anchor) place)
    else .ok ()

def add (properties : Properties) (node : Node) (c : Composition) : Except Fault Composition := do
  c.checkAnchor properties node.place
  let number := c.graph.size
  let c := { c with
    graph := { c.graph with nodes := c.graph.nodes.push node }
    anchors := (properties.anchor.map (·, number)).toList ++ c.anchors }
  return c.place number

def start (properties : Properties) (node : Node) (c : Composition) :
    Except Fault Composition := do
  let number := c.graph.size
  let c ← c.add properties node
  return { c with frames := ⟨number, []⟩ :: c.frames }

def close (c : Composition) : Composition :=
  match c.frames with
  | [] => c
  | frame :: rest =>
    { c with
      graph := c.graph.modifyNode frame.number fun node =>
        { node with content := node.content.withParts frame.parts.reverse }
      frames := rest }

def refer (number : Nat) (c : Composition) : Composition :=
  let isWithin := c.frames.any fun frame => frame.number == number
  { c.place number with graph.isCyclic := c.graph.isCyclic || isWithin }

/-- Take in an event; a document that it completes is given back. -/
def step (c : Composition) (serial : Nat) (event : Event) :
    Except Fault (Composition × Option Graph) :=
  match event.kind with
  | .documentStart => .ok ({}, none)
  | .documentEnd => .ok ({}, some c.graph)
  | .alias name =>
    match c.anchors.lookup name with
    | none => .error (.misreferenced (.undefinedAlias name) event.place)
    | some number => .ok (c.refer number, none)
  | .scalar properties text showsKind => do
    let tag := properties.tagOr (if showsKind then Tag.shownBy text else .text)
    return (← c.add properties ⟨tag, .scalar text, event.place, serial⟩, none)
  | .sequenceStart properties => do
    let tag := properties.tagOr .sequence
    return (← c.start properties ⟨tag, .sequence [], event.place, serial⟩, none)
  | .mappingStart properties => do
    let tag := properties.tagOr .mapping
    return (← c.start properties ⟨tag, .mapping [], event.place, serial⟩, none)
  | .sequenceEnd | .mappingEnd => .ok (c.close, none)

def documents (c : Composition) (serial : Nat) (fault? : Option Fault) :
    List Event → List Graph × Option Fault
  | [] => ([], fault?)
  | event :: rest =>
    match c.step serial event with
    | .error fault => ([], some fault)
    | .ok (c, document?) =>
      let (graphs, fault?) := c.documents (serial + 1) fault? rest
      (document?.toList ++ graphs, fault?)

end Composition

end AccessPolicy.Yaml
