import AccessPolicy.Value.SetOrder
import AccessPolicy.Value.Table
import AccessPolicy.Yaml.Merge
import AccessPolicy.Yaml.Scalar

/-! What the nodes of a document come to. A scalar comes to a value as soon as it is met.
A collection is met first and filled later, when all collections met before it have been
filled, so a collection may hold itself, and of several faults the one that is come to
first in this order counts. -/

namespace AccessPolicy.Yaml

structure PairNodes where
  node : Nat
  key : Nat
  value : Nat
  deriving Repr

/-- What a node comes to; the parts of a collection are nodes, but keys are values. -/
inductive Shape where
  | leaf (value : Value)
  | list (items : List Nat)
  | pairs (entries : List PairNodes)
  | map (entries : List (Value × Nat))
  | set (value : Value)
  deriving Repr, Inhabited

inductive CollectionKind where
  | list
  | pairs
  | map
  | set
  deriving DecidableEq, Repr

def Tag.collection? : Tag → Option CollectionKind
  | .sequence => some .list
  | .omap | .pairs => some .pairs
  | .mapping => some .map
  | .set => some .set
  | _ => none

namespace Graph

/-- The text of a scalar; for a mapping, that of the value under its key `=`. The chain of
such values is no longer than there are nodes. -/
def text (g : Graph) (n : Nat) : Nat → Except Fault String
  | 0 => g.misconstructed n .recursive
  | fuel + 1 =>
    match (g.node n).content with
    | .scalar text => .ok text
    | .sequence _ => g.misconstructed n (.expectedNode .scalar .sequence)
    | .mapping entries =>
      match entries.find? fun (key, _) => g.tag key == .value with
      | some (_, value) => text g value fuel
      | none => g.misconstructed n (.expectedNode .scalar .mapping)

def scalar (g : Graph) (n : Nat) : Except Fault Value := do
  let node := g.node n
  match Scalar.ofTag? node.tag node.serial "" with
  | none => g.misconstructed n (.unknownTag node.tag.name)
  | some _ =>
    let text ← g.text n (g.size + 1)
    if node.tag = .timestamp && node.content.kind = .mapping then
      .error (.misspelled .timestampOfMapping)
    else
      match Scalar.ofTag? node.tag node.serial text with
      | some (.error (.misspelled problem)) => .error (.misspelled problem)
      | some (.error (.misconstructed problem)) => g.misconstructed n problem
      | some (.ok value) => .ok value
      | none => .ok .null

end Graph

def CollectionKind.empty : CollectionKind → Shape
  | .list => .list []
  | .pairs => .pairs []
  | .map => .map []
  | .set => .set (.set [])

/-- A document in the course of being filled: what its nodes have come to so far, and its
collections in the order in which they were met, the first of which have been filled. -/
structure Filling where
  graph : Graph
  /-- Bounds the steps of a merge. -/
  fuel : Nat
  shapes : Array (Option Shape)
  collections : Array (Nat × CollectionKind) := #[]
  filled : Nat := 0

namespace Filling

abbrev Fill := StateT Filling (Except Fault)

def setShape (n : Nat) (shape : Shape) : Fill Unit :=
  modify fun f => { f with shapes := f.shapes.setIfInBounds n (some shape) }

def shape? (n : Nat) : Fill (Option Shape) := do return (← get).shapes[n]?.join

/-- Meet a node. A node is met once, wherever it stands. -/
def meet (n : Nat) : Fill Unit := do
  if (← shape? n).isNone then
    let graph := (← get).graph
    match (graph.tag n).collection? with
    | some kind =>
      setShape n kind.empty
      modify fun f => { f with collections := f.collections.push (n, kind) }
    | none => setShape n (.leaf (← graph.scalar n))

def meetKey (n : Nat) : Fill Value := do
  meet n
  match ← shape? n with
  | some (.leaf value) => return value
  | _ => (← get).graph.misconstructed n .collectionKey

def entries (n : Nat) : Fill (List (Value × Nat)) := do
  let f ← get
  let kind := f.graph.kind n
  if kind ≠ .mapping then f.graph.misconstructed n (.expectedNode .mapping kind)
  else
    let graph ← f.graph.mergeFrom [] n f.fuel
    modify fun f => { f with graph := graph }
    (graph.entries n).mapM fun (key, value) => do
      let name ← meetKey key
      meet value
      return (name, value)

def pair (n : Nat) : Fill PairNodes := do
  let graph := (← get).graph
  match (graph.node n).content with
  | .mapping [(key, value)] =>
    meet key
    meet value
    return ⟨n, key, value⟩
  | .mapping entries => graph.misconstructed n (.expectedSingle entries.length)
  | content => graph.misconstructed n (.expectedPair content.kind)

def fill (n : Nat) (kind : CollectionKind) : Fill Shape := do
  let graph := (← get).graph
  match kind, (graph.node n).content with
  | .list, .sequence items =>
    items.forM meet
    return .list items
  | .list, content => graph.misconstructed n (.expectedNode .sequence content.kind)
  | .pairs, .sequence items => return .pairs (← items.mapM pair)
  | .pairs, content => graph.misconstructed n (.expectedSequence content.kind)
  | .map, _ => return .map (Table.ofList (← entries n)).entries
  | .set, _ => return .set (.setOfAll (Table.ofList (← entries n)).keys)

def fillAll : Nat → Fill Unit
  | 0 => return
  | fuel + 1 => do
    let f ← get
    match f.collections[f.filled]? with
    | none => return
    | some (n, kind) =>
      modify fun f => { f with filled := f.filled + 1 }
      setShape n (← fill n kind)
      fillAll fuel

end Filling

def Graph.shapes (g : Graph) : Except Fault (Array (Option Shape)) := do
  let start : Filling :=
    { graph := g, fuel := g.mergeCount + 1, shapes := .replicate g.size none }
  let (_, filled) ← (do
    Filling.meet 0
    Filling.fillAll (g.size + 1) : Filling.Fill Unit) |>.run start
  return filled.shapes

end AccessPolicy.Yaml
