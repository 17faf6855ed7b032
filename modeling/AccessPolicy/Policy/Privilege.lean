import AccessPolicy.Policy.Entries
import AccessPolicy.Policy.Session

/-! Declarations of privileges. A privilege implies the lower ones that it includes, in
its body or by its option `includes`, in every context or only in the one it names. -/

namespace AccessPolicy.Privilege

open AccessPolicy.Action

def register (name : Value) : Action Unit :=
  onField .privileges "privileges" (Value.enlist name) do
    modifyTables fun tables => { tables with privileges := Value.register tables.privileges name }

def openFields : List String := ["_current_priv", "_current_context"]

/-- Null names no privilege, so it opens no block. -/
def opened (name context : Value) (reader : Reader) : Reader :=
  { reader with privilege := if name matches .null then none else some name, context := context }

def closed (reader : Reader) : Reader := { reader with privilege := none, context := .null }

def enter (name : Value) (edges : List PrivilegeEdge) : Action Unit :=
  modifyTables fun tables => { tables with
    privilegeHierarchy := tables.privilegeHierarchy.alter name [] (· ++ edges) }

/-- Enter an edge below the open privilege. The privilege has its entry before its context is
asked for. -/
def enterEdge (name : Value) (edge : PrivilegeEdge) : Action Unit :=
  let value := Tables.edgeValue edge
  onField .privileges "privilege_hierarchy" (Value.enterUnder name "append" value [value]) do
    requireKey name
    if (← get).change? .privileges "_current_context" matches some none then enter name []
    requireField .privileges "_current_context"
    enter name [edge]

/-- Every name is registered before it is entered below the open privilege. -/
def includeEach (name context : Value) : List Value → Action Unit
  | [] => pure ()
  | lower :: rest => do
    operate .privileges "append_privilege" [lower] (register lower)
    enterEdge name ⟨lower, context⟩
    includeEach name context rest

def includes (names : List Value) : Action Unit := do
  requireField .privileges "_current_priv"
  let reader ← reader
  match reader.privilege with
  | none => refuse (.scope (.includesOutsidePrivilege names))
  | some name => includeEach name reader.context (Value.leavesOf names)

/-- The entries of options. Those that do not count as given are none, and a record whose
keys cannot be had is no map. -/
def optionEntries (options : Value) : Except Fault (Table Value) :=
  match options.opened, options.keyedEntries? with
  | .map entries, _ => .ok ⟨entries⟩
  | _, some (.error (.path (.missingField ..))) | _, some (.error (.path (.missingName _))) =>
    .error (.usage (.notMapping options))
  | _, some entries => entries
  | options, none => if options.isTruthy then .error (.usage (.notMapping options)) else .ok .empty

def mergedOptions (options : Table Value) (extra : List (String × Value)) : Table Value :=
  options.merge ⟨extra.map fun (name, value) => (.text name, value)⟩

def optionTable (options : Value) (extra : List (String × Value)) : Action (Table Value) :=
  match optionEntries options with
  | .ok entries => pure (mergedOptions entries extra)
  | .error fault => refuse fault

def includedBy (options : Table Value) : Option (List Value) :=
  match options.get? (.text "includes") with
  | none => none
  | some given =>
    if !given.isTruthy then none
    else match given.opened with
      | .list names | .tuple names => some names
      | _ => some [given]

def includeGiven (options : Table Value) : Action Unit :=
  match includedBy options with
  | some names => operate .privileges "includes" names (includes names)
  | none => pure ()

/-- Open a privilege whose options are known, and close it whatever comes of its body. -/
def block (name context : Value) (options : Table Value) (body : Option (Action Unit)) :
    Action Unit := do
  modifyFields .privileges openFields (opened name context)
  ensuring (do
    operate .privileges "append_privilege" [name] (register name)
    emit (.privilegeDeclared name context)
    body.getD (pure ())
    includeGiven options) .privileges openFields closed

def unknownOptions (options : Table Value) : List Value :=
  options.keys.filter (!Value.same · (.text "includes"))

def declareIn (name context options : Value) (extra : List (String × Value))
    (body : Option (Action Unit)) : Action Unit := do
  let options ← optionTable options extra
  if (unknownOptions options).isEmpty then block name context options body
  else refuse (.usage (.unknownOptions (unknownOptions options)))

/-- Declare a privilege. A map in place of the context is taken for the options. -/
def declare (name context options : Value) (extra : List (String × Value))
    (body : Option (Action Unit)) : Action Unit :=
  if context.isMap then declareIn name .null context extra body
  else declareIn name context options extra body

end AccessPolicy.Privilege
