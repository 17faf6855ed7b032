import AccessPolicy.Policy.Part

/-! What callers do to the reader of a block itself, past its operations: they follow a path
into it, look at its fields, put others in their places, or start it anew. -/

namespace AccessPolicy

/-- A call of something that is no operation, by its name. -/
structure Access where
  name : String
  positional : List Value := []
  named : List (String × Value) := []

namespace Access

open AccessPolicy.Action

def placeOf (block : Block) (path : List String) : Action Place := do
  match UserPath.follow path (block.place (← get)) with
  | .ok place => return place
  | .error fault => refuse (.path fault)

/-- Give up the rules. The rule that is open stays so. -/
def giveUpRules : Action Unit :=
  modify fun session =>
    let { tables := tables, rule := rule, .. } := session.reader
    { session with
      reader := { session.reader with tables := { tables with rules := [] }, rule := none }
      retired := session.retired ++ [tables.rules]
      stray := (rule.map (session.retired.length, ·)) <|> session.stray }

def renew (block : Block) : Action Unit := do
  if block = .authorization then giveUpRules
  modifyFields block block.fieldNames fun reader =>
    let tables := reader.tables
    match block with
    | .privileges =>
      { reader with
        tables := { tables with privileges := [], privilegeHierarchy := {} }
        privilege := none, context := .null }
    | .authorization =>
      { reader with
        tables := { tables with
          roles := [], roleHierarchy := {}, roleTitles := {}, roleDescriptions := {} }
        role := none }
  if block = .authorization then modify fun session => { session with stray := none }

private def given (value : Value) : Option Value :=
  match value with
  | .null => none
  | value => some value

private def edgeOf? : Value → Option PrivilegeEdge
  | .tuple [privilege, context] => some ⟨privilege, context⟩
  | _ => none

private def edgesOf? : Value → Option (List PrivilegeEdge)
  | .list edges => edges.mapM edgeOf?
  | _ => none

private def listOf? : Value → Option (List Value)
  | .list items => some items
  | _ => none

private def tableOf? {α : Type} (read? : Value → Option α) : Value → Option (Table α)
  | .map entries =>
    (entries.mapM fun (entry : Value × Value) => (read? entry.2).map (entry.1, ·)).map Table.mk
  | _ => none

/-- The reader with a value in the place of a field, if the value has the field's form. -/
def fitted? (block : Block) (name : String) (value : Value) (reader : Reader) : Option Reader :=
  let tables := reader.tables
  let value := value.opened
  match block, name with
  | .privileges, "_current_priv" => some { reader with privilege := given value }
  | .privileges, "_current_context" => some { reader with context := value }
  | .privileges, "privileges" =>
    (listOf? value).map fun names => { reader with tables := { tables with privileges := names } }
  | .privileges, "privilege_hierarchy" =>
    (tableOf? edgesOf? value).map fun hierarchy =>
      { reader with tables := { tables with privilegeHierarchy := hierarchy } }
  | .authorization, "_current_role" => some { reader with role := given value }
  | .authorization, "_current_rule" =>
    if value matches .null then some { reader with rule := none } else none
  | .authorization, "roles" =>
    (listOf? value).map fun names => { reader with tables := { tables with roles := names } }
  | .authorization, "role_hierarchy" =>
    (tableOf? listOf? value).map fun hierarchy =>
      { reader with tables := { tables with roleHierarchy := hierarchy } }
  | .authorization, "role_titles" =>
    (tableOf? some value).map fun titles =>
      { reader with tables := { tables with roleTitles := titles } }
  | .authorization, "role_descriptions" =>
    (tableOf? some value).map fun texts =>
      { reader with tables := { tables with roleDescriptions := texts } }
  | .authorization, "auth_rules" => if value matches .list [] then some reader else none
  | _, _ => none

def change (block : Block) (name : String) (value : Option Value) : Action Unit := do
  if block = .authorization && name = "auth_rules" then giveUpRules
  if block = .authorization && name = "_current_rule" then
    modify fun session => { session with
      reader := { session.reader with rule := none }, stray := none }
  modifyFields block [name] id
  match value.bind (fitted? block name · (← reader)) with
  | some changed => modifyReader fun _ => changed
  | none =>
    modify fun session => { session with changes := session.changes ++ [(block, name, value)] }

def changeEach (block : Block) : List (Value × Value) → Action Unit
  | [] => pure ()
  | (.text name, value) :: rest => do
    change block name (some value)
    changeEach block rest
  | _ :: rest => changeEach block rest

def changeAll (block : Block) (entries : List (Value × Value)) : Action Unit := do
  modify fun session => { session with
    changes := session.changes.filter fun (owner, _, _) => owner != block }
  for name in block.fieldNames do change block name none
  changeEach block entries

def assign (block : Block) (name : String) (value : Value) : Action Answer := do
  match name, value.opened with
  | "__class__", _ => refuse (.usage (.notKind value))
  | "__weakref__", _ => refuse (.path (.fixedField block.readerKind name))
  | "__dict__", .map entries => changeAll block entries
  | "__dict__", _ => refuse (.usage (.notFieldTable value))
  | name, _ => change block name (some value)
  return .value .null

def delete (block : Block) (name : String) : Action Answer := do
  let isHeld := ((block.held (← get)).lookup name).isSome
  if name = "__class__" then refuse (.usage .fixedKind)
  else if name = "__weakref__" then refuse (.path (.fixedField block.readerKind name))
  else if name = "__dict__" then changeAll block []
  else if !isHeld then refuse (Session.missing block name)
  else if block.fieldNames.contains name then change block name none
  else modifyFields block [name] id
  return .value .null

def look (block : Block) (name : String) : Action Answer := do
  let place ← placeOf block [name]
  let session ← get
  let isChanged := (session.change? block name).isSome
  if block = .authorization && name = "auth_rules" && !isChanged then
    return .rules session.reader.tables.rules
  match place, session.openRule? with
  | .object .rule _, some rule => return .rule rule
  | place, _ => return .value place.toValue

def names (block : Block) : Action Answer := do
  let own := block.readerKind.members
  let all := Kind.object.members
  let fields := (block.held (← get)).map Prod.fst
  let names := fields ++ ["__module__", "__doc__"] ++ own.functions.map Function.name ++
    own.computed.map Prod.fst ++ all.statics ++ all.hooks ++ all.operations.take 3 ++
    all.makers ++ all.operations.drop 3 ++ ["__class__"]
  return .value (.list (names.eraseDups.map .text))

private def hookArity (name : String) : Nat :=
  if name = "__setattr__" then 2
  else if ["__repr__", "__hash__", "__str__"].contains name then 0
  else 1

private def fieldName (name : Value) : Action String :=
  match name with
  | .text name => return name
  | name => refuse (.usage (.fieldNameNotText name))

private def callHook (block : Block) (access : Access) : Action Answer := do
  let arity := hookArity access.name
  let count := access.positional.length
  if !access.named.isEmpty then refuse (.usage (.namedArguments ("wrapper " ++ access.name)))
  else if count != arity then refuse (.usage (.wrongCount arity count))
  else
    match access.name, access.positional with
    | "__setattr__", [name, value] => assign block (← fieldName name) value
    | "__delattr__", [name] => delete block (← fieldName name)
    | "__getattribute__", [name] => look block (← fieldName name)
    | _, _ => return .value .null

/-- The space that the reader of a block takes by itself, in bytes. -/
private def ownSize : Int := 24

private def callOperation (block : Block) (access : Access) : Action Answer := do
  let operation := block.operationName access.name
  let arity := if ["__format__", "__reduce_ex__"].contains access.name then 1 else 0
  let count := access.positional.length
  match access.name, access.positional with
  | "__new__", [] => refuse (.usage .missingKind)
  | "__new__", given :: _ => refuse (.usage (.noKindToMake given))
  | "__subclasshook__", _ => return .value .null
  | name, positional =>
    if !access.named.isEmpty then refuse (.usage (.namedArguments operation))
    else if count != arity then refuse (.usage (.wrongCountOf operation arity count))
    else
      match name, positional with
      | "__sizeof__", _ => return .value (.int ownSize)
      | "__dir__", _ => names block
      | "__format__", [.text ""] => return .value .null
      | "__format__", [.text _] => refuse (.usage (.unknownFormat operation))
      | "__format__", [given] => refuse (.usage (.formatNotText given))
      | _, _ => return .value .null

/-- Readers are made, and start anew, without arguments. -/
private def requireNone (block : Block) (access : Access) : Action Unit := do
  match Given.bind (block.operationName "__init__") {} access.positional access.named with
  | .error fault => refuse (.usage fault)
  | .ok _ => pure ()

private def restart (block : Block) (access : Access) : Action Answer := do
  requireNone block access
  renew block
  return .value .null

/-- Make another reader, of which nothing is shown. -/
private def makeAnother (block : Block) (access : Access) : Action Answer := do
  requireNone block access
  return .value .null

def run (block : Block) (access : Access) : Action Answer := do
  match ← placeOf block [access.name] with
  | .value value =>
    match value.called access.positional access.named with
    | .ok value => return .value value
    | .error fault => refuse fault
  | .object .method _ => restart block access
  | .object .hook _ => callHook block access
  | .object .operation _ => callOperation block access
  | .kind _ => makeAnother block access
  | place => refuse (.usage (.notComputation place.owner))

end Access

end AccessPolicy
