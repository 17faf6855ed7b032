import AccessPolicy.Policy.Session

/-! Declarations of roles, their titles and descriptions, and the lower roles they
include. -/

namespace AccessPolicy.Role

open AccessPolicy.Action

def setTitle (role text : Value) : Action Unit :=
  onField .authorization "role_titles" (Value.putItem role text) do
    requireKey role
    modifyTables fun tables => { tables with roleTitles := tables.roleTitles.put role text }

def setDescription (role text : Value) : Action Unit :=
  onField .authorization "role_descriptions" (Value.putItem role text) do
    requireKey role
    modifyTables fun tables => { tables with
      roleDescriptions := tables.roleDescriptions.put role text }

/-- Null stands for a title or description that is not given. -/
def whereGiven (text : Value) (set : Action Unit) : Action Unit :=
  if text matches .null then pure () else set

def register (role title description : Value) : Action Unit := do
  onField .authorization "roles" (Value.enlist role) do
    modifyTables fun tables => { tables with roles := Value.register tables.roles role }
  whereGiven title (setTitle role title)
  whereGiven description (setDescription role description)

/-- Null names no role, so it opens no block. -/
def opened (role : Value) (reader : Reader) : Reader :=
  { reader with role := if role matches .null then none else some role }

def closed (reader : Reader) : Reader := { reader with role := none }

/-- Open a role, and close it whatever comes of its body. -/
def block (role : Value) (body : Option (Action Unit)) : Action Unit := do
  modifyFields .authorization ["_current_role"] (opened role)
  ensuring (do
    emit (.roleDeclared role)
    body.getD (pure ())) .authorization ["_current_role"] closed

def declare (role title description : Value) (body : Option (Action Unit)) : Action Unit := do
  operate .authorization "append_role" [role, title, description]
    (register role title description)
  block role body

def current (fault : ScopeFault) : Action Value := do
  requireField .authorization "_current_role"
  match (← reader).role with
  | none => refuse (.scope fault)
  | some role => pure role

def includes (names : List Value) : Action Unit := do
  let role ← current (.includesOutsideRole names)
  let lower := Value.leavesOf names
  onField .authorization "role_hierarchy"
      (Value.enterUnder role "extend" (.list lower) lower) do
    requireKey role
    modifyTables fun tables => { tables with
      roleHierarchy := tables.roleHierarchy.alter role [] (· ++ lower) }

def title (text : Value) : Action Unit := do
  setTitle (← current .titleOutsideRole) text

def description (text : Value) : Action Unit := do
  setDescription (← current .descriptionOutsideRole) text

end AccessPolicy.Role
