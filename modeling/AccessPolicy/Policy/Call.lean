import AccessPolicy.Policy.Program

/-! Operations called by name. Arguments are given by position or by name, and one of them
may be the body of the block that the operation opens. -/

namespace AccessPolicy

inductive Argument where
  | value (value : Value)
  | body (steps : List Step)

/-- An argument where a body would not fit, so that only its being there counts. -/
def Argument.shown : Argument → Value
  | .value v => v
  | .body _ => .null

abbrev Arguments := Given Argument

namespace Arguments

def value (arguments : Arguments) (name : String) : Value :=
  match arguments.get? name with
  | some (.value value) => value
  | _ => .null

/-- A body, which a value can stand for: null for no body, and a computation for one that
computes on the reader of the block. Any other value fails when it is run. -/
def body (block : Block) (arguments : Arguments) : Option (List Step) :=
  match arguments.get? "body" with
  | some (.body steps) => some steps
  | some (.value .null) | none => none
  | some (.value (.literal ..)) => some []
  | some (.value (.userPath _ path)) => some [.follow block path]
  | some (.value value) =>
    some [.refuse (.usage (.notComputation (Place.value value).owner))]

private def valuesIn (arguments : List Argument) : List Value :=
  arguments.filterMap fun argument =>
    match argument with
    | .value value => some value
    | .body _ => none

def moreValues (arguments : Arguments) : List Value := valuesIn arguments.more

def otherValues (arguments : Arguments) : List (String × Value) :=
  arguments.others.filterMap fun (name, argument) =>
    match argument with
    | .value value => some (name, value)
    | .body _ => none

end Arguments

namespace Block

def operation? (block : Block) (name : String) : Option (Signature × (Arguments → Step)) :=
  match block, name with
  | .privileges, "append_privilege" =>
    some (⟨["privilege"], [], false, false⟩, fun a => .registerPrivilege (a.value "privilege"))
  | .privileges, "privilege" =>
    some (⟨["privilege"], ["context", "options", "body"], false, true⟩, fun a =>
      .privilege (a.value "privilege") (a.value "context") (a.value "options") a.otherValues
        (a.body block))
  | .privileges, "includes" =>
    some (⟨[], [], true, false⟩, fun a => .includePrivileges a.moreValues)
  | .authorization, "append_role" =>
    some (⟨["role"], ["title", "description"], false, false⟩, fun a =>
      .registerRole (a.value "role") (a.value "title") (a.value "description"))
  | .authorization, "role" =>
    some (⟨["role"], ["body", "title", "description"], false, false⟩, fun a =>
      .role (a.value "role") (a.value "title") (a.value "description") (a.body block))
  | .authorization, "includes" =>
    some (⟨[], [], true, false⟩, fun a => .includeRoles a.moreValues)
  | .authorization, "title" =>
    some (⟨["text"], [], false, false⟩, fun a => .title (a.value "text"))
  | .authorization, "description" =>
    some (⟨["text"], [], false, false⟩, fun a => .description (a.value "text"))
  | .authorization, "has_permission_on" =>
    some (⟨["context"], ["to", "body"], false, false⟩, fun a =>
      .grant (a.value "context") (a.value "to") (a.body block))
  | .authorization, "to" => some (⟨[], [], true, false⟩, fun a => .addPrivileges a.moreValues)
  | .authorization, "if_attribute" =>
    some (⟨[], ["attr_conditions"], false, true⟩, fun a =>
      .restrict (a.value "attr_conditions") a.otherValues)
  | .authorization, "is_" =>
    some (⟨["compute"], [], false, false⟩, fun a => .condition .is (a.value "compute"))
  | .authorization, "contains" =>
    some (⟨["compute"], [], false, false⟩, fun a => .condition .contains (a.value "compute"))
  | _, _ => none

/-- The step of a call, which meets what callers have put under the name before the operation.
It fails if the arguments do not fit. -/
def call (block : Block) (name : String) (positional : List Value)
    (named : List (String × Argument)) : Step :=
  let access : Access :=
    ⟨name, positional, named.map fun (name, argument) => (name, argument.shown)⟩
  match block.operation? name with
  | none => .direct block access
  | some (signature, step) =>
    .overridable block access
      (match Given.bind (block.operationName name) signature (positional.map .value) named with
        | .ok arguments => step arguments
        | .error fault => .refuse (.usage fault))

end Block

end AccessPolicy
