import AccessPolicy.Policy.Entries
import AccessPolicy.Policy.Session

/-! What a session shows of its tables. Where callers have put a value in the place of a table,
it is the value that is shown, as far as it can be taken for one. -/

namespace AccessPolicy.Session

variable {α : Type}

def field (session : Session) (block : Block) (name : String) (usual : α)
    (read : Value → Except Fault α) : Except Fault α :=
  match session.change? block name with
  | none => .ok usual
  | some none => .error (missing block name)
  | some (some value) => read value

private def parts (value : Value) : Except Fault (List Value) :=
  match value.elements? with
  | some parts => .ok parts
  | none => .error (.usage (.notCollection value))

private def groups (read : Value → α) (value : Value) : Except Fault (Table (List α)) :=
  match value.opened with
  | .map entries => do
    let groups ← entries.mapM fun (entry : Value × Value) => do
      return (entry.1, (← parts entry.2).map read)
    return ⟨groups⟩
  | value => do
    value.callMember "items" [] []
    throw (.usage (.notCollection value))

private def edgeOf : Value → PrivilegeEdge
  | .tuple [privilege, context] | .list [privilege, context] => ⟨privilege, context⟩
  | value => ⟨value, .null⟩

private def ruleOf (value : Value) : Except Fault Rule := do
  let part (name : String) : Except Fault Value :=
    match UserPath.field (.value value) name with
    | .ok place => .ok place.toValue
    | .error fault => .error (.path fault)
  let role ← part "role"
  let privileges ← parts (← part "privileges")
  let context ← part "context"
  let _ ← parts (← part "attributes")
  return ⟨role, privileges, context, []⟩

def privileges (session : Session) : Except Fault (List Value) :=
  session.field .privileges "privileges" session.reader.tables.privileges parts

def privilegeHierarchy (session : Session) : Except Fault (Table (List PrivilegeEdge)) :=
  session.field .privileges "privilege_hierarchy" session.reader.tables.privilegeHierarchy
    (groups edgeOf)

def roles (session : Session) : Except Fault (List Value) :=
  session.field .authorization "roles" session.reader.tables.roles parts

def roleHierarchy (session : Session) : Except Fault (Table (List Value)) :=
  session.field .authorization "role_hierarchy" session.reader.tables.roleHierarchy (groups id)

def roleTitles (session : Session) : Except Fault (Table Value) :=
  session.field .authorization "role_titles" session.reader.tables.roleTitles Value.toTable

def roleDescriptions (session : Session) : Except Fault (Table Value) :=
  session.field .authorization "role_descriptions" session.reader.tables.roleDescriptions
    Value.toTable

/-- The rules. A list in their place also has those that were appended to it. -/
def rules (session : Session) : Except Fault (List Rule) := do
  let appended := session.reader.tables.rules
  session.field .authorization "auth_rules" appended fun value => do
    let rules ← (← parts value).mapM ruleOf
    return if value.opened matches .list _ then rules ++ appended else rules

def snapshot (session : Session) : Except Fault Tables := do
  let privileges ← session.privileges
  let privilegeHierarchy ← session.privilegeHierarchy
  let roles ← session.roles
  let roleHierarchy ← session.roleHierarchy
  let roleTitles ← session.roleTitles
  let roleDescriptions ← session.roleDescriptions
  let rules ← session.rules
  return Tables.sealed
    ⟨privileges, privilegeHierarchy, roles, roleHierarchy, roleTitles, roleDescriptions, rules⟩

/-- The tables as they are, without those that callers have made unreadable. -/
def shown (session : Session) : Tables where
  privileges := session.privileges.toOption.getD []
  privilegeHierarchy := session.privilegeHierarchy.toOption.getD .empty
  roles := session.roles.toOption.getD []
  roleHierarchy := session.roleHierarchy.toOption.getD .empty
  roleTitles := session.roleTitles.toOption.getD .empty
  roleDescriptions := session.roleDescriptions.toOption.getD .empty
  rules := session.rules.toOption.getD []

def sizes (session : Session) : Except Fault (Nat × Nat × Nat) := do
  let tables := session.reader.tables
  let size (block : Block) (name : String) (usual more : Nat) : Except Fault Nat :=
    session.field block name usual fun value => do
      let size ← value.size?
      return if value.opened matches .list _ then size + more else size
  let privileges ← size .privileges "privileges" tables.privileges.length 0
  let roles ← size .authorization "roles" tables.roles.length 0
  let rules ← size .authorization "auth_rules" tables.rules.length tables.rules.length
  return (privileges, roles, rules)

end AccessPolicy.Session
