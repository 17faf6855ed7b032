import AccessPolicy.Policy.Call

/-! Documents and their statements as programs. A statement is a map: its first key is
its keyword and holds its argument, the other keys are its options, and the option `body`
holds the statements that are run within it. A wrong form shows only where the program
comes to it. -/

namespace AccessPolicy

/-- How a statement is made into a call. -/
inductive StatementShape where
  /-- The argument and the options are passed on, the body as a block. -/
  | block
  /-- The argument is a name or a list of names. -/
  | names
  /-- The argument is passed on as it is. -/
  | value
  deriving DecidableEq, Repr

def Block.statements : Block → List (String × StatementShape)
  | .privileges => [("privilege", .block), ("includes", .names)]
  | .authorization =>
    [("role", .block), ("includes", .names), ("title", .value), ("description", .value),
     ("has_permission_on", .block), ("to", .names), ("if_attribute", .value)]

namespace Statement

/-- A keyword of the block; keywords are text. -/
def keyword? (block : Block) : Value → Option (String × StatementShape)
  | .text name => (block.statements.lookup name).map (name, ·)
  | _ => none

def isName : Value → Bool
  | .null | .map _ | .list _ | .cyclic .. => false
  | _ => true

def names (argument : Value) : List Value :=
  match argument with
  | .list names | .cyclic _ (.list names) => names
  | name => [name]

/-- Options by name. Their keys have to be text. -/
def namedOptions : List (Value × Argument) → Option (List (String × Argument))
  | [] => some []
  | (.text name, argument) :: rest => (namedOptions rest).map ((name, argument) :: ·)
  | _ => none

def step (block : Block) (keyword argument : Value) (options : List (Value × Argument)) : Step :=
  match keyword? block keyword with
  | none => .refuse (.form (.unknownStatement keyword))
  | some (name, .block) =>
    match namedOptions options with
    | none => .refuse (.usage .namesNotText)
    | some named => block.call name [argument] named
  | some (name, shape) =>
    if !options.isEmpty then
      .refuse (.form (.unwantedOptions name (options.map Prod.fst)))
    else if shape = .value then block.call name [argument] []
    else if (names argument).all isName then block.call name (names argument) []
    else .refuse (.form (.notNames name argument))

mutual

/-- The program of a list of statements; null is an empty one. -/
def program (block : Block) : Value → Program
  | .null => []
  | .list statements | .cyclic _ (.list statements) => steps block statements
  | given => [.refuse (.form (.notStatements given))]

def steps (block : Block) : List Value → Program
  | [] => []
  | statement :: rest => stepOf block statement :: steps block rest

def stepOf (block : Block) : Value → Step
  | .map ((keyword, argument) :: options)
  | .cyclic _ (.map ((keyword, argument) :: options)) =>
    step block keyword argument (arguments block options)
  | given => .refuse (.form (.notStatement given))

/-- Options as arguments: the body as the program of its statements. -/
def arguments (block : Block) : List (Value × Value) → List (Value × Argument)
  | [] => []
  | (key, value) :: rest =>
    (key, if key.same (.text "body") then .body (program block value) else .value value) ::
      arguments block rest

end

end Statement

namespace Document

/-- The steps of one of the blocks of a document; those of `contexts` are not read. -/
def blockProgram (name statements : Value) : Program :=
  match name with
  | .text "privileges" => Statement.program .privileges statements
  | .text "authorization" => Statement.program .authorization statements
  | .text "contexts" => []
  | _ => [.refuse (.form (.unknownBlock name))]

def program : Value → Program
  | .null => []
  | .map blocks | .cyclic _ (.map blocks) =>
    blocks.flatMap fun (name, statements) => blockProgram name statements
  | given => [.refuse (.form (.notBlocks given))]

end Document

end AccessPolicy
