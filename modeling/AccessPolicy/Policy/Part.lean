import AccessPolicy.Policy.Session

/-! The reader of a block as a path meets it. -/

namespace AccessPolicy.Block

/-- The logger of the reader, which is made when it is used. -/
private def loggerPlace (block : Block) : Place :=
  let nulls := ["_logger", "_wrapper_class", "_processors", "_context_class",
    "_cache_logger_on_first_use"]
  .object .logger
    (nulls.map (·, .null) ++
      [("_initial_values", .value (.map [])),
       ("_logger_factory_args", .value (.tuple [.text block.loggerName]))])

private def listPlace (values : List Value) : Place := .value (.list values)

private def tablePlace {α : Type} (toValue : α → Value) (table : Table α) : Place :=
  .value (.map (table.map toValue).entries)

/-- A thing that also shows its parts as a table. -/
private def thing (kind : Kind) (parts : List (String × Place)) : Place :=
  .object kind (parts ++ [("__dict__", .table .map parts)])

private def rulePlace (rule : Rule) : Place :=
  thing .rule
    [("role", .value rule.role), ("privileges", listPlace rule.privileges),
     ("context", .value rule.context),
     ("attributes", listPlace (rule.conditions.map fun conditions =>
        .map (ConditionTree.toEntries conditions)))]

def fieldNames : Block → List String
  | .privileges =>
    ["logger", "_current_priv", "_current_context", "privileges", "privilege_hierarchy"]
  | .authorization =>
    ["logger", "_current_role", "_current_rule", "roles", "role_hierarchy", "role_titles",
     "role_descriptions", "auth_rules"]

private def fieldPlace (block : Block) (session : Session) (name : String) : Place :=
  let reader := session.reader
  let tables := reader.tables
  match name with
  | "logger" => loggerPlace block
  | "_current_priv" => .value (reader.privilege.getD .null)
  | "_current_context" => .value reader.context
  | "privileges" => listPlace tables.privileges
  | "privilege_hierarchy" =>
    tablePlace (fun edges => .list (edges.map Tables.edgeValue)) tables.privilegeHierarchy
  | "_current_role" => .value (reader.role.getD .null)
  | "_current_rule" => (session.openRule?.map rulePlace).getD .null
  | "roles" => listPlace tables.roles
  | "role_hierarchy" => tablePlace Value.list tables.roleHierarchy
  | "role_titles" => tablePlace id tables.roleTitles
  | "role_descriptions" => tablePlace id tables.roleDescriptions
  | "auth_rules" => listPlace (tables.rules.map Tables.ruleValue)
  | _ => .null

/-- What callers have put under names of the reader of a block, or taken away. -/
def changes (block : Block) (session : Session) : List (String × Option Value) :=
  session.changes.filterMap fun (owner, name, value) =>
    if owner = block then some (name, value) else none

def held (block : Block) (session : Session) : List (String × Place) :=
  let changes := block.changes session
  let others := changes.filter fun (name, _) => !block.fieldNames.contains name
  block.fieldNames.filterMap (fun name =>
    match changes.lookup name with
    | some value => value.map fun value => (name, .value value)
    | none => some (name, block.fieldPlace session name)) ++
  others.filterMap fun (name, value) => value.map fun value => (name, .value value)

def place (block : Block) (session : Session) : Place :=
  thing block.readerKind (block.held session)

end AccessPolicy.Block
