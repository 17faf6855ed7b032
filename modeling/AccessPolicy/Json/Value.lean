import AccessPolicy.Json.Basic
import AccessPolicy.Policy.Log
import AccessPolicy.Policy.Summary
import AccessPolicy.Text.Encoded

/-! Values as JSON. A summary holds only what JSON has words for; a log record shows any
other value in its source form; a response shows dates and bytes as text. -/

namespace AccessPolicy

namespace Value

def jsonKey? : Value → Option String
  | .null => some "null"
  | .bool b => some (if b then "true" else "false")
  | .int i => some (toString i)
  | .float x => some (x.text .json)
  | .text s => some s
  | _ => none

def strictKey (key : Value) : Except Fault String :=
  match key.jsonKey? with
  | none => .error (.usage (.unwritableField key))
  | some name => if key.holdsLongNumber then .error .longNumber else .ok name

mutual

def strictJson : Value → Except Fault Json
  | .null => .ok .null
  | .bool b => .ok (.bool b)
  | .int i => if Number.isTooLong i then .error .longNumber else .ok (.int i)
  | .float x => .ok (.float x)
  | .text s => .ok (.text s)
  | .list items | .tuple items => do return .list (← strictItems items)
  | .map entries => do return .object (← strictFields entries)
  | .cyclic _ value => do
    let _ ← value.strictJson
    .error .circular
  | value => .error (.usage (.unwritableValue value))

def strictItems : List Value → Except Fault (List Json)
  | [] => .ok []
  | item :: rest => do
    let item ← item.strictJson
    return item :: (← strictItems rest)

def strictFields : List (Value × Value) → Except Fault (List (String × Json))
  | [] => .ok []
  | (key, value) :: rest => do
    let name ← key.strictKey
    let value ← value.strictJson
    return (name, value) :: (← strictFields rest)

end

mutual

/-- A value in a log record, which nothing keeps from being written. -/
def looseJson : Value → Json
  | .null => .null
  | .bool b => .bool b
  | .int i => .int i
  | .float x => .float x
  | .text s => .text s
  | .list items | .tuple items => .list (looseItems items)
  | .map entries => .object (looseFields entries)
  | .cyclic _ value => value.looseJson
  | value => .text value.source

def looseItems : List Value → List Json
  | [] => []
  | item :: rest => item.looseJson :: looseItems rest

def looseFields : List (Value × Value) → List (String × Json)
  | [] => []
  | (key, value) :: rest => (key.jsonKey?.getD "", value.looseJson) :: looseFields rest

end

end Value

/-- A field of a record: bytes are text there. -/
def recordField (value : Value) : Json :=
  match value with
  | .bytes bytes => .text (Text.ofUtf8Lossy bytes)
  | value => value.looseJson

def LogEvent.record (event : LogEvent) : Json :=
  let service := String.ofList (event.logger.toList.takeWhile (· != '.'))
  .object ((event.fields.map fun (name, value) => (name, recordField value)) ++
    [("event", .text event.title), ("logger", .text event.logger),
     ("level", .text event.level.name), ("service", .text service)])

namespace Summary

def grantJson (grant : GrantSummary) : Except Fault Json := do
  let context ← grant.context.strictJson
  let privileges ← Value.strictItems grant.privileges
  return .object [("context", context), ("privileges", .list privileges),
    ("conditions", .int grant.conditions)]

def grantsJson : List (Value × List GrantSummary) → Except Fault (List (String × Json))
  | [] => .ok []
  | (role, grants) :: rest => do
    let name ← role.strictKey
    let grants ← grants.mapM grantJson
    return (name, .list grants) :: (← grantsJson rest)

def json (summary : Summary) : Except Fault Json := do
  let grants ← grantsJson summary.grants.entries
  return .object [("privileges", .int summary.privileges), ("roles", .int summary.roles),
    ("rules", .int summary.rules), ("grants", .object grants)]

end Summary

end AccessPolicy
