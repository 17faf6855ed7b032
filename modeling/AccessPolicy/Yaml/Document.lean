import AccessPolicy.Yaml.Shape

/-! The documents of a stream as values. -/

namespace AccessPolicy.Yaml

/-- A document whose nodes all have a shape. -/
structure Filled where
  graph : Graph
  shapes : Array (Option Shape)

namespace Filled

def shape (d : Filled) (n : Nat) : Shape := (d.shapes[n]?.join).getD (.leaf .null)

def parts (d : Filled) (n : Nat) : List Nat :=
  match d.shape n with
  | .leaf _ | .set _ => []
  | .list items => items
  | .pairs entries => entries.flatMap fun pair => [pair.key, pair.value]
  | .map entries => entries.map Prod.snd

def reached (d : Filled) (seen : List Nat) : Nat → List Nat → List Nat
  | 0, _ => seen
  | _, [] => seen
  | fuel + 1, n :: rest =>
    if seen.contains n then d.reached seen fuel rest
    else d.reached (n :: seen) fuel (d.parts n ++ rest)

/-- Whether a node is reached from the given ones. A search looks at no part of a node twice,
which bounds its steps. -/
def leadsTo (d : Filled) (nodes : List Nat) (n : Nat) : Bool :=
  let steps := (List.range d.graph.size).foldl (fun count n => count + (d.parts n).length) 0
  (d.reached [] (steps * 2 + 1) nodes).contains n

def loops (d : Filled) : List Nat :=
  if !d.graph.isCyclic then []
  else (List.range d.graph.size).filter fun n => d.leadsTo (d.parts n) n

/-- How often a collection that holds itself is written out within itself. Whatever is read
from a document ends before it comes to such a collection once more. -/
def turns : Nat := 2

abbrev Known := Array (Option Value)

/-- The value of a node, given the collections that hold themselves and the nodes around
it. Any other node has the same value wherever it stands. -/
def valueIn (d : Filled) (loops : List Nat) : Nat → List Nat → Nat → StateM Known Value
  | 0, _, _ => return .null
  | fuel + 1, around, n => do
    let item := d.valueIn loops fuel (n :: around)
    let whole : StateM Known Value := do
      match d.shape n with
      | .leaf value => return value
      | .list items => return .list (← items.mapM item)
      | .pairs entries =>
        return .list (← entries.mapM fun pair => do
          let parts : Value := .tuple [← item pair.key, ← item pair.value]
          return if loops.contains n && d.leadsTo [pair.key, pair.value] n then
              .cyclic (d.graph.node pair.node).serial parts
            else parts)
      | .map entries =>
        return .map (← entries.mapM fun (key, value) => return (key, ← item value))
      | .set value => return value
    let closed : Value :=
      match d.shape n with
      | .map _ => .map []
      | _ => .list []
    if loops.contains n then
      let value ← if around.count n < turns then whole else pure closed
      return .cyclic (d.graph.node n).serial value
    else
      match (← get)[n]?.join with
      | some value => return value
      | none =>
        let value ← whole
        modify fun known => known.setIfInBounds n (some value)
        return value

def value (d : Filled) : Value :=
  let size := d.graph.size
  ((d.valueIn d.loops ((turns + 1) * size + 1) [] 0).run (.replicate size none)).1

end Filled

def Graph.value (g : Graph) : Except Fault Value := do
  return (Filled.mk g (← g.shapes)).value

/-- The documents of a stream up to the first fault, and the serial after all those that
were given out. -/
structure Documents where
  values : List Value
  fault? : Option Fault
  serial : Nat
  deriving Repr

def valuesOf (fault? : Option Fault) : List Graph → List Value × Option Fault
  | [] => ([], fault?)
  | graph :: rest =>
    match graph.value with
    | .error fault => ([], some fault)
    | .ok value =>
      let (values, fault?) := valuesOf fault? rest
      (value :: values, fault?)

/-- Read all documents of a source. Computations in them are numbered from the given
serial on. -/
def Source.documents (source : Source) (serial : Nat) : Documents :=
  match source.cursor with
  | .error fault => ⟨[], some fault, serial⟩
  | .ok cursor =>
    let (events, fault?) := eventsOf cursor
    let (graphs, fault?) := ({} : Composition).documents serial fault? events
    let (values, fault?) := valuesOf fault? graphs
    ⟨values, fault?, serial + events.length⟩

end AccessPolicy.Yaml
