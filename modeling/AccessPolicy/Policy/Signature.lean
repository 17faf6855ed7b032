import AccessPolicy.Policy.Fault

/-! What can be given to an operation, and how what is given fits. Arguments are given by
position or by name. -/

namespace AccessPolicy

/-- What an operation can be given: a number of arguments that it needs, others that it
may be given, and whether it takes more by position or by name. -/
structure Signature where
  required : List String := []
  optional : List String := []
  takesMore : Bool := false
  takesOthers : Bool := false

def Signature.parameters (s : Signature) : List String := s.required ++ s.optional

/-- Arguments by parameter, those beyond the parameters by position, and those of other
names. -/
structure Given (α : Type) where
  bound : List (String × α) := []
  more : List α := []
  others : List (String × α) := []

namespace Given

variable {α : Type}

def get? (given : Given α) (name : String) : Option α := given.bound.lookup name

def value (given : Given Value) (name : String) : Value := (given.get? name).getD .null

/-- Bind the arguments by name in order. The handle of the operation is its first
parameter, so no argument can have that name. -/
def bindNamed (operation : String) (signature : Signature) (given : Given α) :
    List (String × α) → Except UsageFault (Given α)
  | [] => .ok given
  | (name, argument) :: rest =>
    if name == "self" then .error (.repeatedArgument operation name)
    else if signature.parameters.contains name then
      if (given.get? name).isSome then .error (.repeatedArgument operation name)
      else
        bindNamed operation signature
          { given with bound := given.bound ++ [(name, argument)] } rest
    else if signature.takesOthers then
      if (given.others.lookup name).isSome then .error (.repeatedArgument operation name)
      else
        bindNamed operation signature
          { given with others := given.others ++ [(name, argument)] } rest
    else .error (.unknownArgument operation name)

/-- Bind all arguments of a call. Counts include the handle. -/
def bind (operation : String) (signature : Signature) (positional : List α)
    (named : List (String × α)) : Except UsageFault (Given α) := do
  let parameters := signature.parameters
  let more := positional.drop parameters.length
  let given ← bindNamed operation signature ⟨parameters.zip positional, more, []⟩ named
  if !more.isEmpty && !signature.takesMore then
    .error (.excessArguments operation (signature.required.length + 1) (parameters.length + 1)
      (positional.length + 1))
  else
    let missing := signature.required.filter fun name => (given.get? name).isNone
    if missing.isEmpty then .ok given else .error (.missingArguments operation missing)

end Given

end AccessPolicy
