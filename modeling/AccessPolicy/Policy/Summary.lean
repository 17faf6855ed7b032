import AccessPolicy.Policy.Tables

/-! Summaries of tables: counts, and for each role the grants to it. -/

namespace AccessPolicy

structure GrantSummary where
  context : Value
  privileges : List Value
  conditions : Nat
  deriving Repr

structure Summary where
  privileges : Nat
  roles : Nat
  rules : Nat
  grants : Table (List GrantSummary)
  deriving Repr

/-- Text and null stand for themselves; of other contexts the parts are listed. -/
def contextParts (context : Value) : Except Fault Value :=
  match context with
  | .null | .text _ => .ok context
  | context =>
    match context.elements? with
    | some parts => .ok (.list parts)
    | none => .error (.usage (.notCollection context))

def Rule.summary (rule : Rule) : Except Fault GrantSummary := do
  return ⟨← contextParts rule.context, rule.privileges, rule.conditions.length⟩

namespace Tables

def grantsTo (tables : Tables) (done : Table (List GrantSummary)) :
    List Value → Except Fault (Table (List GrantSummary))
  | [] => .ok done
  | role :: rest => do
    let summaries ← (tables.rulesFor role).mapM Rule.summary
    match role.keyObstacle? with
    | some part => .error (.usage (.unsuitableKey part))
    | none => tables.grantsTo (done.put role summaries) rest

def summary (tables : Tables) : Except Fault Summary := do
  let grants ← tables.grantsTo .empty tables.roles
  return ⟨tables.privileges.length, tables.roles.length, tables.rules.length, grants⟩

end Tables

end AccessPolicy
