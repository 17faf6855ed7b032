import AccessPolicy.Policy.Substitute
import AccessPolicy.Policy.Tables

/-! Trees of conditions say what the maps said that they were read from. Every entry has its place
in the tree, a bare value is one that its leaf gives for every user, and a tree that is read again
or copied stays as it is. -/

namespace AccessPolicy

/-- The computation comes to the value, whoever the user is and without one. -/
structure Value.Constant (computation value : Value) : Prop where
  computed : ∀ user, computation.compute user = .ok value
  alone : computation.called [] [] = .ok value
  placed : ∀ user, computation.called [user] [] = .ok value
  named : ∀ user, computation.called [] [("user", user)] = .ok value

theorem Value.constant_literal (serial : Nat) (value : Value) :
    (literal serial value).Constant value :=
  ⟨fun _ => rfl, rfl, fun _ => rfl, fun _ => rfl⟩

namespace ConditionTree

mutual

/-- The tree has the given value in normal form. Maps are kept level by level, conditions as they
are, and anything else is what a leaf compares with; a list is such a value, whatever it holds. -/
inductive Normal : Value → ConditionTree → Prop
  | mapping {given : Value} {entries : List (Value × Value)} {tree : Conditions}
    (isMapping : given.opened = .map entries) (each : NormalEntries entries tree) :
    Normal given (.branch tree)
  | condition (operator : Operator) (compute : Value) :
    Normal (.condition operator compute) (.leaf ⟨operator, compute⟩)
  | bare {given compute : Value} (notMapping : ∀ entries, given.opened ≠ .map entries)
    (notCondition : ∀ operator compute, given ≠ .condition operator compute)
    (constant : compute.Constant given) : Normal given (.leaf ⟨.is, compute⟩)

/-- The entries have the same keys in the same order. -/
inductive NormalEntries : List (Value × Value) → Conditions → Prop
  | nil : NormalEntries [] []
  | cons (key : Value) {given : Value} {tree : ConditionTree} {rest : List (Value × Value)}
    {trees : Conditions} (first : Normal given tree) (others : NormalEntries rest trees) :
    NormalEntries ((key, given) :: rest) ((key, tree) :: trees)

end

mutual

/-- A value with the conditions in it that compare with a fixed value replaced by that value, at
any depth of maps. -/
def bare : Value → Value
  | .map entries | .cyclic _ (.map entries) => .map (bareEntries entries)
  | .condition .is (.literal _ value) => value
  | value => value

def bareEntries : List (Value × Value) → List (Value × Value)
  | [] => []
  | (key, value) :: rest => (key, bare value) :: bareEntries rest

end

theorem normal_ofValue :
    (∀ serial value, Normal value (ofValue serial value).1) ∧
    ∀ serial entries, NormalEntries entries (ofEntries serial entries).1 := by
  refine ofValue.mutual_induct (fun serial value => Normal value (ofValue serial value).1)
    (fun serial entries => NormalEntries entries (ofEntries serial entries).1) ?_ ?_ ?_ ?_ ?_ ?_
  · intro serial entries _ _ _ ih
    rw [ofValue]
    exact .mapping rfl ih
  · intro serial cycle entries _ _ _ ih
    rw [ofValue]
    exact .mapping rfl ih
  · intro serial operator compute
    rw [ofValue]
    exact .condition operator compute
  · intro serial value notMap notCyclic notCondition
    rw [ofValue] <;> first | assumption | skip
    refine .bare ?_ notCondition (Value.constant_literal serial value)
    intro entries mapping
    cases value with
    | map given => exact notMap given rfl
    | cyclic cycle inner => exact notCyclic cycle entries (congrArg _ mapping)
    | _ => cases mapping
  · intro serial
    rw [ofEntries]
    exact .nil
  · intro serial key value rest tree next came trees after cameRest ihValue ihRest
    rw [came] at ihValue
    simp only [ofEntries, came]
    exact .cons key ihValue ihRest

theorem bare_toValue_ofValue :
    (∀ serial value, bare (ofValue serial value).1.toValue = bare value) ∧
    ∀ serial entries,
      bareEntries (toEntries (ofEntries serial entries).1) = bareEntries entries := by
  refine ofValue.mutual_induct
    (fun serial value => bare (ofValue serial value).1.toValue = bare value)
    (fun serial entries =>
      bareEntries (toEntries (ofEntries serial entries).1) = bareEntries entries) ?_ ?_ ?_ ?_ ?_ ?_
  · intro serial entries _ _ _ ih
    simp only [ofValue, toValue, bare, ih]
  · intro serial cycle entries _ _ _ ih
    simp only [ofValue, toValue, bare, ih]
  · intro serial operator compute
    simp only [ofValue, toValue]
  · intro serial value notMap notCyclic notCondition
    rw [ofValue] <;> first | assumption | skip
    have kept : bare value = value := by
      rw [bare] <;> first | assumption | exact fun _ _ => notCondition _ _
    simp only [toValue, bare, kept]
  · intro serial
    rfl
  · intro serial key value rest tree next came trees after cameRest ihValue ihRest
    rw [came] at ihValue
    simp only [ofEntries, came, toEntries, bareEntries, ihValue, ihRest]

mutual

/-- A tree that is read again is taken as it is. -/
theorem ofValue_toValue (serial : Nat) :
    (tree : ConditionTree) → ofValue serial tree.toValue = (tree, serial)
  | .leaf _ => by simp only [toValue, ofValue]
  | .branch entries => by simp only [toValue, ofValue, ofEntries_toEntries serial entries]

theorem ofEntries_toEntries (serial : Nat) :
    (entries : Conditions) → ofEntries serial (toEntries entries) = (entries, serial)
  | [] => by simp only [toEntries, ofEntries]
  | (key, tree) :: rest => by
    simp only [toEntries, ofEntries, ofValue_toValue serial tree, ofEntries_toEntries serial rest]

end

mutual

theorem frozen_eq : (tree : ConditionTree) → tree.frozen = tree
  | .leaf _ => by rw [frozen]
  | .branch entries => by rw [frozen, frozenEntries_eq entries]

theorem frozenEntries_eq : (entries : Conditions) → frozenEntries entries = entries
  | [] => by rw [frozenEntries]
  | (key, tree) :: rest => by rw [frozenEntries, frozen_eq tree, frozenEntries_eq rest]

end

end ConditionTree

open ConditionTree

/-- A snapshot shows the conditions of a rule as they are. -/
theorem Rule.sealed_conditions (rule : Rule) : rule.sealed.conditions = rule.conditions := by
  have copied : rule.conditions.map frozenEntries = rule.conditions := by
    rw [List.map_congr_left fun trees _ => frozenEntries_eq trees, List.map_id']
  unfold Rule.sealed
  split <;> exact copied

namespace Conditions

theorem read_eq_ok {given : Value} {entries : List (Value × Value)} (serial : Nat)
    (mapping : given.opened = .map entries) :
    Conditions.read serial given = .ok (ofEntries serial entries) := by
  rw [Conditions.read, mapping]

/-- What is read takes no further serials if it is read again. -/
theorem read_toEntries (serial : Nat) (tree : Conditions) :
    Conditions.read serial (.map (toEntries tree)) = .ok (tree, serial) := by
  rw [read_eq_ok serial rfl, ofEntries_toEntries]

/-- A map is read as a tree in normal form, which gives the map back where its literals count as
their values. The tree, its copy, and what is read from either have the same content. -/
theorem read_normalizes {given : Value} {entries : List (Value × Value)} (serial : Nat)
    (mapping : given.opened = .map entries) :
    ∃ tree next, Conditions.read serial given = .ok (tree, next) ∧ NormalEntries entries tree ∧
      bareEntries (toEntries tree) = bareEntries entries ∧ frozenEntries tree = tree ∧
      ∀ later, Conditions.read later (.map (toEntries tree)) = .ok (tree, later) ∧
        Conditions.read later (.map (toEntries (frozenEntries tree))) = .ok (tree, later) := by
  let tree := (ofEntries serial entries).1
  have copied : frozenEntries tree = tree := frozenEntries_eq tree
  refine ⟨tree, _, read_eq_ok serial mapping, normal_ofValue.2 serial entries,
    bare_toValue_ofValue.2 serial entries, copied, fun later => ?_⟩
  rw [copied]
  exact ⟨read_toEntries later tree, read_toEntries later tree⟩

def mixedConditions : Value :=
  .map [(.text "branch", .map [
      (.text "company", .condition .contains (.userPath 0 "companies")),
      (.text "region", .map [(.text "tags", .list [.map [(.text "x", .int 1)],
        .condition .is (.literal 1 (.int 2))]), (.text "closed", .null)])]),
    (.text "state", .condition .is (.literal 2 (.text "open"))), (.int 3, .map [])]

theorem read_normalizes_mixed :
    ∃ tree next entries, mixedConditions.opened = .map entries ∧
      Conditions.read 5 mixedConditions = .ok (tree, next) ∧ next = 7 ∧
      tree.map Prod.fst = [.text "branch", .text "state", .int 3] ∧
      NormalEntries entries tree ∧
      bareEntries (toEntries tree) = bareEntries entries ∧
      Conditions.read next (.map (toEntries tree)) = .ok (tree, next) := by
  have mapping : mixedConditions.opened = .map _ := rfl
  obtain ⟨tree, next, read, normal, same, -, again⟩ := read_normalizes 5 mapping
  cases read
  exact ⟨_, _, _, rfl, rfl, rfl, rfl, normal, same, (again _).1⟩

end Conditions

end AccessPolicy
