import AccessPolicy.Policy.Condition

/-! The tables of a policy: privileges with the lower ones they imply, roles with the
lower ones they include, and the rules that grant privileges to roles. -/

namespace AccessPolicy

/-- A lower privilege, limited to a context unless that is null. -/
structure PrivilegeEdge where
  privilege : Value
  context : Value
  deriving Repr

/-- Privileges of a role on a context. Of several trees of conditions one has to hold. -/
structure Rule where
  role : Value
  privileges : List Value
  context : Value
  conditions : List Conditions := []
  deriving Repr

structure Tables where
  privileges : List Value := []
  privilegeHierarchy : Table (List PrivilegeEdge) := {}
  roles : List Value := []
  roleHierarchy : Table (List Value) := {}
  roleTitles : Table Value := {}
  roleDescriptions : Table Value := {}
  rules : List Rule := []
  deriving Repr, Inhabited

/-- A rule as a snapshot shows it: neither a list of contexts nor a tree of conditions can
change any more. -/
def Rule.sealed (rule : Rule) : Rule :=
  let conditions := rule.conditions.map ConditionTree.frozenEntries
  match rule.context.opened with
  | .list contexts => { rule with context := .tuple contexts, conditions }
  | _ => { rule with conditions }

namespace Tables

def sealed (tables : Tables) : Tables := { tables with rules := tables.rules.map Rule.sealed }

def edgeValue (edge : PrivilegeEdge) : Value := .tuple [edge.privilege, edge.context]

def ruleValue (rule : Rule) : Value :=
  .tuple [rule.role, .tuple rule.privileges, rule.context,
    .tuple (rule.conditions.map fun conditions => .map (ConditionTree.toEntries conditions))]

/-- All tables as one value, by which two sets of tables are compared. -/
def toValue (tables : Tables) : Value :=
  .tuple [
    .tuple tables.privileges,
    .map (tables.privilegeHierarchy.map fun edges => .tuple (edges.map edgeValue)).entries,
    .tuple tables.roles,
    .map (tables.roleHierarchy.map Value.tuple).entries,
    .map tables.roleTitles.entries,
    .map tables.roleDescriptions.entries,
    .tuple (tables.rules.map ruleValue)]

def same (a b : Tables) : Bool := a.toValue.same b.toValue

def isEmpty (tables : Tables) : Bool := tables.same {}

def rulesFor (tables : Tables) (role : Value) : List Rule :=
  tables.rules.filter fun rule => rule.role.equals role

end Tables

end AccessPolicy
