import AccessPolicy.Policy.Role

/-! Grants of privileges to the open role. The body of a grant adds privileges and
conditions to its rule. A grant whose body fails leaves its rule open. -/

namespace AccessPolicy.Grant

open AccessPolicy.Action

def given (privileges : Value) : List Value :=
  match privileges.opened with
  | .null => []
  | .list names | .tuple names => names
  | _ => [privileges]

def opened (rule : Nat) (reader : Reader) : Reader := { reader with rule := some rule }

def closed (reader : Reader) : Reader := { reader with rule := none }

/-- Append a rule. A list that stands in the place of the rules takes it as they do, and any
other value by a member of its own. -/
def appendRule (rule : Rule) : Action Nat := do
  let place := (← reader).tables.rules.length
  let takenBy (value : Value) : Except Fault Value := do
    if !(value.opened matches .list _) then
      value.callMember "append" [Tables.ruleValue rule] []
    return value
  onField .authorization "auth_rules" takenBy (pure ())
  modifyTables fun tables => { tables with rules := tables.rules ++ [rule] }
  return place

/-- The rule that was appended at a place when rules had been given up the given number of
times. -/
def ruleAt (turn place : Nat) : Action Rule := do
  let session ← get
  let rules := (session.retired[turn]?).getD session.reader.tables.rules
  return rules[place]?.getD ⟨.null, [], .null, []⟩

def modifyRule (place : Nat) (f : Rule → Rule) : Action Unit :=
  modifyTables fun tables => { tables with rules := tables.rules.modify place f }

def write (f : Reader → Reader) : Action Unit := do
  modifyFields .authorization ["_current_rule"] f
  modify fun session => { session with stray := none }

/-- Run the body of a grant with its rule open. A fault in the body leaves the rule open. -/
def block (place : Nat) : Option (Action Unit) → Action Unit
  | none => pure ()
  | some body => do
    write (opened place)
    body
    write closed

def declareRule (rule : Rule) (body : Option (Action Unit)) : Action Rule := do
  let turn := (← get).retired.length
  let place ← appendRule rule
  emit (.permissionGranted rule.role rule.context rule.privileges)
  block place body
  ruleAt turn place

def declare (context privileges : Value) (body : Option (Action Unit)) : Action Rule := do
  let role ← Role.current (.grantOutsideRole context)
  if body.isNone && (given privileges).isEmpty then refuse (.scope (.emptyGrant role context))
  else declareRule ⟨role, given privileges, context, []⟩ body

/-- What is open for changes: a rule at its place, one that was given up, or a value in the
place of a rule. -/
inductive OpenRule where
  | placed (place : Nat)
  | stray (turn place : Nat)
  | substitute (value : Value)

def current (fault : ScopeFault) : Action OpenRule := do
  requireField .authorization "_current_rule"
  let session ← get
  match session.change? .authorization "_current_rule", session.stray, session.reader.rule with
  | some (some value), _, _ => return .substitute value
  | _, some (turn, place), _ => return .stray turn place
  | _, none, some place => return .placed place
  | _, none, none => refuse (.scope fault)

/-- Change a rule. A value in its place takes the argument by a member of the given name. -/
def OpenRule.change (rule : OpenRule) (member : String) (argument : Value) (f : Rule → Rule) :
    Action Unit :=
  match rule with
  | .placed place => modifyRule place f
  | .stray turn place =>
    modify fun session => { session with
      retired := session.retired.modify turn fun rules => rules.modify place f }
  | .substitute value =>
    match value.callMember member [argument] [] with
    | .ok _ => pure ()
    | .error fault => refuse fault

def withPrivileges (names : List Value) (rule : Rule) : Rule :=
  { rule with privileges := rule.privileges ++ names }

def withConditions (conditions : Conditions) (rule : Rule) : Rule :=
  { rule with conditions := rule.conditions ++ [conditions] }

def addPrivileges (names : List Value) : Action Unit := do
  let rule ← current (.toOutsideGrant names)
  let names := Value.leavesOf names
  rule.change "append_privileges" (.list names) (withPrivileges names)

/-- The place of the rule with a number; negative numbers count from the last rule. -/
def placeOf (number : Int) : Action Nat := do
  match Value.indexIn (← reader).tables.rules.length number .absent with
  | .ok place => return place
  | .error fault => refuse fault

def extendPrivileges (rule : Int) (names : Value) : Action Unit := do
  let place ← placeOf rule
  match names.elements? with
  | some names => modifyRule place (withPrivileges names)
  | none => refuse (.usage (.notCollection names))

def attach (rule : Int) (conditions : Conditions) : Action Unit := do
  modifyRule (← placeOf rule) (withConditions conditions)

/-- Add the conditions of a map to a rule. -/
def addConditions (rule : Int) (given : Value) : Action Unit := do
  let place ← placeOf rule
  modifyRule place (withConditions (← Action.conditions given))

/-- Conditions of a map together with those given by name; null is a map without any. -/
def joinConditions (given : Value) (extra : List (String × Value)) : Value :=
  let extra : Table Value := .ofList (extra.map fun (name, value) => (.text name, value))
  match given.opened with
  | .null => .map extra.entries
  | .map entries => .map ((Table.mk entries).merge extra).entries
  | _ => given

def restrict (given : Value) (extra : List (String × Value)) : Action Unit := do
  let rule ← current .conditionOutsideGrant
  let conditions ← Action.conditions (joinConditions given extra)
  rule.change "append_attribute" (.map (ConditionTree.toEntries conditions))
    (withConditions conditions)

end AccessPolicy.Grant
