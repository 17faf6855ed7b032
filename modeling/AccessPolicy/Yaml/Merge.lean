import AccessPolicy.Yaml.Node

/-! Merges. A key `<<` of a mapping brings in the entries of another one, or of several, in
front of the mapping's own. Merges are carried out in the nodes themselves, so a node that
an alias repeats is merged once for all its places. -/

namespace AccessPolicy.Yaml.Graph

/-- The first source that a mapping still has to merge, after its key has been dropped. -/
def takeMerge? (g : Graph) (n : Nat) : Option (Nat × Graph) :=
  let isOwn : Nat × Nat → Bool := fun (key, _) => g.tag key != .merge
  let entries := g.entries n
  match entries.dropWhile isOwn with
  | [] => none
  | (_, source) :: rest => some (source, g.setEntries n (entries.takeWhile isOwn ++ rest))

/-- The mapping after its merges: a key written `=` is text, and the entries brought in
stand first. -/
def settle (g : Graph) (n : Nat) (merged : List (Nat × Nat)) : Graph :=
  let retagged := (g.entries n).foldl
    (fun g (key, _) => if g.tag key = .value then g.setTag key .text else g) g
  if merged.isEmpty then retagged else retagged.setEntries n (merged ++ retagged.entries n)

def misconstructed {α : Type} (g : Graph) (n : Nat) (problem : Misconstruction) :
    Except Fault α :=
  .error (.misconstructed problem (g.node n).place)

/-- Carry out the merges of a mapping, given the entries brought in so far. Every merge
drops its key, which bounds their number. -/
def mergeFrom (merged : List (Nat × Nat)) (n : Nat) : Nat → Graph → Except Fault Graph
  | 0, g => .ok g
  | fuel + 1, g =>
    match g.takeMerge? n with
    | none => .ok (g.settle n merged)
    | some (source, g) =>
      match (g.node source).content with
      | .mapping _ => do
        let g ← mergeFrom [] source fuel g
        mergeFrom (merged ++ g.entries source) n fuel g
      | .sequence items => do
        let (g, groups) ← items.foldlM (fun (g, groups) item => do
          if g.kind item = .mapping then
            let g ← mergeFrom [] item fuel g
            return (g, g.entries item :: groups)
          else misconstructed g item (.expectedMergedItem (g.kind item)))
          (g, ([] : List (List (Nat × Nat))))
        mergeFrom (merged ++ groups.flatten) n fuel g
      | .scalar _ => misconstructed g source (.expectedMerged .scalar)

/-- How many merges the mappings have left, which bounds the steps of one of them. -/
def mergeCount (g : Graph) : Nat :=
  g.nodes.foldl (fun count node =>
    match node.content with
    | .mapping entries => count + (entries.filter fun (key, _) => g.tag key == .merge).length
    | _ => count) 0

end AccessPolicy.Yaml.Graph
