import AccessPolicy.Policy.Fault
import AccessPolicy.Value.Table

/-! Conditions on the attributes of an object. A tree of conditions has an entry for each
attribute: a condition on it, or a tree of conditions on its own attributes. -/

namespace AccessPolicy

structure Condition where
  operator : Operator
  compute : Value
  deriving Repr

inductive ConditionTree where
  | leaf (condition : Condition)
  | branch (entries : List (Value × ConditionTree))
  deriving Repr

abbrev Conditions := List (Value × ConditionTree)

namespace ConditionTree

mutual

/-- A bare value is compared for equality; its computation takes the next serial. -/
def ofValue (serial : Nat) : Value → ConditionTree × Nat
  | .map entries | .cyclic _ (.map entries) =>
    let (tree, serial) := ofEntries serial entries
    (.branch tree, serial)
  | .condition operator compute => (.leaf ⟨operator, compute⟩, serial)
  | value => (.leaf ⟨.is, .literal serial value⟩, serial + 1)

def ofEntries (serial : Nat) : List (Value × Value) → Conditions × Nat
  | [] => ([], serial)
  | (key, value) :: rest =>
    let (tree, serial) := ofValue serial value
    let (trees, serial) := ofEntries serial rest
    ((key, tree) :: trees, serial)

end

mutual

def toValue : ConditionTree → Value
  | .leaf condition => .condition condition.operator condition.compute
  | .branch entries => .map (toEntries entries)

def toEntries : Conditions → List (Value × Value)
  | [] => []
  | (key, tree) :: rest => (key, tree.toValue) :: toEntries rest

end

mutual

def frozen : ConditionTree → ConditionTree
  | .leaf condition => .leaf condition
  | .branch entries => .branch (frozenEntries entries)

def frozenEntries : Conditions → Conditions
  | [] => []
  | (key, tree) :: rest => (key, tree.frozen) :: frozenEntries rest

end

end ConditionTree

/-- The conditions of a map, and the serial after those of its bare values. -/
def Conditions.read (serial : Nat) (given : Value) : Except Fault (Conditions × Nat) :=
  match given.opened with
  | .map entries => .ok (ConditionTree.ofEntries serial entries)
  | given => .error (.scope (.conditionsNotMapping given))

def userPathIn (given : Value) : Except Fault String :=
  match UserPath.ofExpression? given.plain with
  | some path => .ok path
  | none => .error (Fault.form (.notUserPath given)).told

/-- What a computation comes to for a user: a literal to its value, a path to where it
leads. -/
def Value.computed (computation user : Value) : Except Fault Place :=
  match computation with
  | .literal _ value => .ok (.value value)
  | .userPath _ path =>
    match UserPath.follow (UserPath.segments path) (.value user) with
    | .ok place => .ok place
    | .error fault => .error (.path fault)
  | other => .error (.usage (.notComputation (Place.value other).owner))

def Value.compute (computation user : Value) : Except Fault Value :=
  (computation.computed user).map Place.toValue

def Condition.evaluate (condition : Condition) (user : Value) : Except Fault Value :=
  condition.compute.compute user

end AccessPolicy
