import AccessPolicy.Policy.Access
import AccessPolicy.Policy.Grant
import AccessPolicy.Policy.Privilege

/-! Programs over a reader: operations in order, with the bodies of the blocks they open.
Statements of documents and the bodies that callers write are both programs. -/

namespace AccessPolicy

inductive Step where
  | registerPrivilege (name : Value)
  | privilege (name context options : Value) (extra : List (String × Value))
    (body : Option (List Step))
  | includePrivileges (names : List Value)
  | registerRole (role title description : Value)
  | role (role title description : Value) (body : Option (List Step))
  | includeRoles (names : List Value)
  | title (text : Value)
  | description (text : Value)
  | grant (context privileges : Value) (body : Option (List Step))
  | addPrivileges (names : List Value)
  | restrict (conditions : Value) (extra : List (String × Value))
  /-- Build a condition without storing it. -/
  | condition (operator : Operator) (compute : Value)
  /-- Go on after the steps even if one of them fails. -/
  | attempt (steps : List Step)
  /-- Follow a path into the reader of a block. -/
  | follow (block : Block) (path : String)
  /-- Call something of the reader of a block that is no operation. -/
  | direct (block : Block) (access : Access)
  /-- Call what callers have put under the name of an operation, or else run its step. -/
  | overridable (block : Block) (access : Access) (operation : Step)
  | refuse (fault : Fault)

abbrev Program := List Step

namespace Program

def noting {α : Type} (answer : α → Answer) (action : Action α) : Action Unit := do
  Action.report (.returned (answer (← action)))

def silently (action : Action Unit) : Action Unit := noting (fun _ => .value .null) action

mutual

def runStep : Step → Action Unit
  | .registerPrivilege name => silently (Privilege.register name)
  | .privilege name context options extra body =>
    silently (Privilege.declare name context options extra (runBody body))
  | .includePrivileges names => silently (Privilege.includes names)
  | .registerRole role title description => silently (Role.register role title description)
  | .role role title description body =>
    silently (Role.declare role title description (runBody body))
  | .includeRoles names => silently (Role.includes names)
  | .title text => silently (Role.title text)
  | .description text => silently (Role.description text)
  | .grant context privileges body =>
    noting .rule (Grant.declare context privileges (runBody body))
  | .addPrivileges names => silently (Grant.addPrivileges names)
  | .restrict conditions extra => silently (Grant.restrict conditions extra)
  | .condition operator compute => noting .value (pure (.condition operator compute))
  | .attempt steps => tryCatch (run steps) fun fault => Action.report (.caught fault)
  | .follow block path => discard (Access.placeOf block (UserPath.segments path))
  | .direct block access => noting id (access.run block)
  | .overridable block access operation => do
    match (← get).change? block access.name with
    | some _ => noting id (access.run block)
    | none => runStep operation
  | .refuse fault => Action.refuse fault

def runBody : Option (List Step) → Option (Action Unit)
  | none => none
  | some steps => some (run steps)

def run : List Step → Action Unit
  | [] => pure ()
  | step :: rest => do
    runStep step
    run rest

end

end Program

end AccessPolicy
